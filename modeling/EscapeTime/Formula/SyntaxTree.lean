import EscapeTime.Formula.Diagnostic
import EscapeTime.Formula.Expr
import EscapeTime.Decimal.Numeral

namespace EscapeTime

/-!
# How a formula is cut

A formula is read by cutting its text. A span is cut at the last operator of the loosest kind that
stands outside all brackets; if there is none, behind the name of a function; if there is none, an
opening bracket and the last character are taken off; what is left is a leaf. The syntax tree
records the cuts. Everything else that reading a formula yields, namely the expression, the
diagnostics and the account of the work, is a view of this tree.

Brackets are counted, not matched: a place is outside all brackets when as many have been closed as
opened since the start of the span. The count is an integer without bounds; a word of 32 bits gives
the same for every text of fewer than 2^31 characters.
-/

/-- The cuts made in a text. Each node carries the span it was made in. -/
inductive SyntaxTree
  /-- A cut at an operator, which stands at `position`. -/
  | binary (span : Span) (position : Nat) (op : Operator) (left right : SyntaxTree)
  /-- A cut behind a function's name, which starts at `position`. -/
  | call (span : Span) (position : Nat) (func : Func) (argument : SyntaxTree)
  /-- A pair of brackets taken off. -/
  | group (span : Span) (inner : SyntaxTree)
  | leaf (span : Span)
  deriving DecidableEq, Repr, Inhabited

namespace Formula

/-! ### Places outside all brackets -/

/-- A place in a text: the number of characters before it, the last of these, and the text from
the place on. -/
structure Place where
  position : Nat
  before : Option Char
  rest : List Char

/-- What a character adds to the number of open brackets. -/
def bracketStep (c : Char) : Int :=
  if c == '(' then 1 else if c == ')' then -1 else 0

/-- The places outside all brackets in a text that follows on `position` characters, the last of
which is `before`, with `depth` brackets open. -/
def placesFrom (depth : Int) (position : Nat) (before : Option Char) : List Char → List Place
  | [] => []
  | c :: rest =>
    let later := placesFrom (depth + bracketStep c) (position + 1) (some c) rest
    if depth == 0 then ⟨position, before, c :: rest⟩ :: later else later

/-- The places outside all brackets, from left to right. -/
def places (cs : List Char) : List Place := placesFrom 0 0 none cs

/-- A minus is the sign of an operand, and no operator, at the start of a text and after an opening
bracket or an operator other than a minus. -/
def startsOperand : Option Char → Bool
  | none => true
  | some c => ['(', '+', '*', '/', '^'].contains c

/-- The operator at a place. -/
def Place.operator? (p : Place) : Option Operator :=
  match p.rest with
  | [] => none
  | c :: _ => if c == '-' && startsOperand p.before then none else Operator.ofSymbol? c

/-! ### Where a text is cut -/

/-- The operator places of a text. -/
def operators (cs : List Char) : List (Nat × Operator) :=
  (places cs).filterMap fun p => p.operator?.map fun op => (p.position, op)

/-- The last operator among those that bind most loosely. -/
def rootOperator? (cs : List Char) : Option (Nat × Operator) :=
  let found := operators cs
  Operator.precedences.findSome? fun t => (found.filter (·.2.precedence == t)).getLast?

/-- The last place of the first function, in the order of the functions, that has a place. -/
def rootFunc? (cs : List Char) : Option (Nat × Func) :=
  let found := places cs
  Func.all.findSome? fun f =>
    (found.filter (f.letters.isPrefixOf ·.rest)).getLast?.map fun p => (p.position, f)

theorem placesFrom_bounds {depth : Int} {k : Nat} {before : Option Char} {cs : List Char}
    {p : Place} (h : p ∈ placesFrom depth k before cs) :
    k ≤ p.position ∧ p.position + p.rest.length = k + cs.length ∧ p.rest ≠ [] := by
  induction cs generalizing depth k before with
  | nil => simp [placesFrom] at h
  | cons c rest ih =>
    simp only [placesFrom] at h
    split at h
    · rcases List.mem_cons.1 h with rfl | h
      · simp
      · obtain ⟨h₁, h₂, h₃⟩ := ih h
        exact ⟨by omega, by simp only [List.length_cons]; omega, h₃⟩
    · obtain ⟨h₁, h₂, h₃⟩ := ih h
      exact ⟨by omega, by simp only [List.length_cons]; omega, h₃⟩

theorem operators_lt {cs : List Char} {p : Nat × Operator} (h : p ∈ operators cs) :
    p.1 < cs.length := by
  obtain ⟨q, hq, h⟩ := List.mem_filterMap.1 h
  obtain ⟨op, _, rfl⟩ := Option.map_eq_some_iff.1 h
  obtain ⟨_, h₁, h₂⟩ := placesFrom_bounds hq
  have := List.length_pos_iff.2 h₂
  simp only
  omega

theorem rootOperator?_lt {cs : List Char} {k : Nat} {op : Operator}
    (h : rootOperator? cs = some (k, op)) : k < cs.length := by
  obtain ⟨t, _, h⟩ := List.exists_of_findSome?_eq_some h
  exact operators_lt (List.mem_filter.1 (List.mem_of_getLast? h)).1

theorem rootFunc?_le {cs : List Char} {k : Nat} {f : Func}
    (h : rootFunc? cs = some (k, f)) : k + f.letters.length ≤ cs.length := by
  obtain ⟨g, _, h⟩ := List.exists_of_findSome?_eq_some h
  obtain ⟨p, hp, h⟩ := Option.map_eq_some_iff.1 h
  obtain ⟨rfl, rfl⟩ := Prod.mk.inj h
  have hp := List.mem_filter.1 (List.mem_of_getLast? hp)
  obtain ⟨_, h₁, _⟩ := placesFrom_bounds hp.1
  have := (List.isPrefixOf_iff_prefix.1 hp.2).length_le
  omega

theorem length_pos_of_head?_eq_some {cs : List Char} {c : Char} (h : cs.head? = some c) :
    0 < cs.length := by
  cases cs with
  | nil => simp at h
  | cons => simp

theorem letters_length_pos (f : Func) : 0 < f.letters.length := by
  cases f <;> decide

end Formula

/-! ### The tree -/

namespace SyntaxTree

open Formula

/-- The span inside a pair of brackets: the first character and the last are left out. A bracket
that stands alone has nothing inside. -/
def inside (s : Span) : Span := ⟨s.start + 1, max (s.stop - 1) (s.start + 1)⟩

/-- Cuts the given span of the text `w`. -/
def cut (w : List Char) (s : Span) : SyntaxTree :=
  match h : rootOperator? (s.slice w) with
  | some (k, op) =>
    have := rootOperator?_lt h
    have := s.length_slice_le w
    binary s (s.start + k) op (cut w ⟨s.start, s.start + k⟩) (cut w ⟨s.start + k + 1, s.stop⟩)
  | none =>
    match h : rootFunc? (s.slice w) with
    | some (k, f) =>
      have := rootFunc?_le h
      have := letters_length_pos f
      have := s.length_slice_le w
      call s (s.start + k) f (cut w ⟨s.start + k + f.letters.length, s.stop⟩)
    | none =>
      if h : (s.slice w).head? = some '(' then
        have := length_pos_of_head?_eq_some h
        have := s.length_slice_le w
        group s (cut w (inside s))
      else leaf s
termination_by s.length
decreasing_by all_goals simp only [Span.length, inside] at *; omega

/-- Cuts the whole text. -/
def ofChars (w : List Char) : SyntaxTree := cut w ⟨0, w.length⟩

/-! ### Leaves -/

/-- Whether the text is a number: digits, points, signs and exponent marks that form a numeral. -/
def isNumeral (text : List Char) : Bool :=
  !text.isEmpty
    && text.all (fun c => c.isDigit || c == '.' || c == 'e' || c == '+' || c == '-')
    && (Decimal.readFloat? text).isSome

/-- What a leaf with this text stands for. -/
def leafExpr (text : List Char) : Expr :=
  if isNumeral text then .literal (String.ofList text)
  else
    match Symbol.ofToken? (String.ofList text) with
    | some s => .symbol s
    | none => .raw (String.ofList text)

/-- What is wrong with a leaf, if anything is. -/
def leafDiagnostic? (s : Span) (text : List Char) : Option Diagnostic :=
  match leafExpr text with
  | .raw t => some (if text.isEmpty then .missingOperand s else .unrecognizedToken s t)
  | _ => none

/-! ### Views -/

/-- The expression that the cut text stands for. -/
def expr (w : List Char) : SyntaxTree → Expr
  | binary _ _ op left right => .binary op (left.expr w) (right.expr w)
  | call _ _ f argument => .call f (argument.expr w)
  | group _ inner => inner.expr w
  | leaf s => leafExpr (s.slice w)

/-- The text that a call drops before its function's name. -/
def dropped (s : Span) (position : Nat) : Span := ⟨s.start, position⟩

/-- What is wrong with the text, from left to right. -/
def diagnostics (w : List Char) : SyntaxTree → List Diagnostic
  | binary _ _ _ left right => left.diagnostics w ++ right.diagnostics w
  | call s position f argument =>
    if s.start < position then
      .unexpectedPrefix (dropped s position) (String.ofList ((dropped s position).slice w)) f
        :: argument.diagnostics w
    else argument.diagnostics w
  | group _ inner => inner.diagnostics w
  | leaf s => (leafDiagnostic? s (s.slice w)).toList

end SyntaxTree

end EscapeTime
