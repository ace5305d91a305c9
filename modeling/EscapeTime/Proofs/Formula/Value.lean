import EscapeTime.Complex.Elementary
import EscapeTime.Formula.SyntaxTree
import Mathlib.Tactic.Common

namespace EscapeTime

/-!
# What an expression is worth

The value of an expression is read off its tree, given a meaning for the primitives and for the
symbols. A raw leaf has no value of its own. It takes whatever was computed last before it, so the
value is a function of what stood in the output register when the expression was reached.
-/

/-- The symbols at `(z, c)`. -/
def Symbol.value (z c : Complex) : Symbol → Complex
  | iterate => z
  | parameter => c
  | imagUnit => .unit
  | negImagUnit => -.unit

namespace Expr

/-- The texts of the literals, from left to right. -/
def literals : Expr → List String
  | literal text => [text]
  | symbol _ => []
  | raw _ => []
  | binary _ left right => left.literals ++ right.literals
  | call _ operand => operand.literals

/-- The symbols, from left to right. -/
def symbols : Expr → List Symbol
  | literal _ => []
  | symbol s => [s]
  | raw _ => []
  | binary _ left right => left.symbols ++ right.symbols
  | call _ operand => operand.symbols

/-- Every literal is a number. -/
def Readable (e : Expr) : Prop := ∀ text ∈ e.literals, (Decimal.readFloat? text.toList).isSome

/-- The number that a literal denotes; a text that is no number counts as zero. -/
def literalValue (text : String) : Complex := .ofReal ((Decimal.readFloat? text.toList).getD 0.0)

variable (p : Primitives) (σ : Symbol → Complex)

/-- The value of an expression that is reached with `o` in the output register. -/
def valueFrom (o : Complex) : Expr → Complex
  | literal text => literalValue text
  | symbol s => σ s
  | raw _ => o
  | binary op left right =>
    p.binary op (valueFrom o left) (valueFrom (valueFrom o left) right)
  | call f operand => p.unary f (valueFrom o operand)

/-- The values of all operands: that of a left operand, those inside it, that of the right operand,
those inside it. -/
def operandsFrom (o : Complex) : Expr → List Complex
  | literal _ => []
  | symbol _ => []
  | raw _ => []
  | binary _ left right =>
    let l := left.valueFrom p σ o
    l :: operandsFrom o left ++ right.valueFrom p σ l :: operandsFrom l right
  | call _ operand => operand.valueFrom p σ o :: operandsFrom o operand

/-- The value in the ordinary sense, which an expression with a raw leaf lacks. -/
def value? : Expr → Option Complex
  | literal text => (Decimal.readFloat? text.toList).map .ofReal
  | symbol s => some (σ s)
  | raw _ => none
  | binary op left right => do return p.binary op (← left.value?) (← right.value?)
  | call f operand => do return p.unary f (← operand.value?)

variable {p σ}

lemma readable_binary {op : Operator} {left right : Expr} :
    (binary op left right).Readable ↔ left.Readable ∧ right.Readable := by
  simp [Readable, literals, or_imp, forall_and]

lemma readable_call {f : Func} {operand : Expr} :
    (call f operand).Readable ↔ operand.Readable := by
  simp [Readable, literals]

lemma readable_literal {text : String} (h : (literal text).Readable) :
    ∃ x, Decimal.readFloat? text.toList = some x := by
  exact Option.isSome_iff_exists.1 (h text (by simp [literals]))

/-- The value depends on the symbols that occur, and on no others. -/
lemma valueFrom_congr {τ : Symbol → Complex} {e : Expr} (h : ∀ s ∈ e.symbols, σ s = τ s)
    (o : Complex) : e.valueFrom p σ o = e.valueFrom p τ o := by
  induction e generalizing o with
  | literal text => rfl
  | symbol s => exact h s (by simp [symbols])
  | raw text => rfl
  | binary op left right ihl ihr =>
    obtain ⟨hl, hr⟩ := List.forall_mem_append.1 h
    simp only [valueFrom, ihl hl, ihr hr]
  | call f operand ih => simp only [valueFrom, ih h]

/-- Without raw leaves nothing depends on what was computed before. -/
theorem value?_eq_some {e : Expr} (h : e.Readable) (hraw : e.rawLeaves = []) (o : Complex) :
    e.value? p σ = some (e.valueFrom p σ o) := by
  induction e generalizing o with
  | literal text =>
    obtain ⟨x, hx⟩ := readable_literal h
    simp [value?, valueFrom, literalValue, hx]
  | symbol s => rfl
  | raw text => simp [rawLeaves] at hraw
  | binary op left right ihl ihr =>
    obtain ⟨hl, hr⟩ := readable_binary.1 h
    obtain ⟨rl, rr⟩ := List.append_eq_nil_iff.1 hraw
    simp [value?, valueFrom, ihl hl rl o, ihr hr rr (left.valueFrom p σ o)]
  | call f operand ih =>
    simp [value?, valueFrom, ih (readable_call.1 h) hraw o]

end Expr

/-! ### Every formula has numerals for literals -/

lemma SyntaxTree.isNumeral_of_mem_literals {w : List Char} {t : SyntaxTree} {text : String}
    (h : text ∈ (t.expr w).literals) : isNumeral text.toList := by
  induction t with
  | binary span position op left right ihl ihr => exact (List.mem_append.1 h).elim ihl ihr
  | call span position f argument ih => exact ih h
  | group span inner ih => exact ih h
  | leaf span =>
    simp only [expr, leafExpr] at h
    split at h
    · rename_i hnum
      obtain rfl := List.mem_singleton.1 h
      rwa [String.toList_ofList]
    · split at h <;> simp [Expr.literals] at h

end EscapeTime
