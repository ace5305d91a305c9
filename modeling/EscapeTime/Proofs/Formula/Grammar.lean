import EscapeTime.Formula.Parse
import EscapeTime.Proofs.Formula.Numeral
import EscapeTime.Proofs.Formula.Places

namespace EscapeTime

/-!
# The grammar of formulas

A formula is a sum of products of powers of operands. All operators associate to the left, powers
too. A sign stands only before a numeral or the imaginary unit, and not directly behind a minus. A
function's name stands directly before its argument, which is a bracketed formula, a leaf without
a sign, or the call of a function that comes later in the order of the functions.
-/

namespace Grammar

open Formula

/-- The kinds of text that the grammar tells apart, from the loosest to the tightest. -/
inductive Level
  | sum
  | product
  | power
  | signed
  | base
  deriving DecidableEq, Repr

namespace Level

def tighter : Level → Level
  | sum => product
  | product => power
  | power => signed
  | signed => base
  | base => base

/-- The least precedence that an operator outside all brackets can have in a text of this kind. -/
def precedence : Level → Nat
  | sum => 1
  | product => 2
  | power => 3
  | signed => 4
  | base => 5

end Level

/-- The kind of text that an operator joins. -/
def level : Operator → Level
  | .sub | .add => .sum
  | .div | .mul => .product
  | .pow => .power

/-- The text is of the given kind and stands for the expression. -/
inductive Derives : Level → List Char → Expr → Prop
  /-- A product is a sum, a power is a product, an operand is a power, and the sign is optional. -/
  | lift {k : Level} {w : List Char} {n : Expr} (h : Derives k.tighter w n) : Derives k w n
  /-- The left operand is of the operator's own kind, the right one of the next tighter kind. No
  sign follows directly on a minus. -/
  | binary {op : Operator} {u v : List Char} {l r : Expr} (hl : Derives (level op) u l)
    (hr : Derives (level op).tighter v r) (hsign : op = .sub → v.head? ≠ some '-') :
    Derives (level op) (u ++ op.symbol :: v) (.binary op l r)
  | negNumeral {v : List Char} (h : Num v) :
    Derives .signed ('-' :: v) (.literal (String.ofList ('-' :: v)))
  | negImagUnit : Derives .signed ['-', 'i'] (.symbol .negImagUnit)
  | numeral {v : List Char} (h : Num v) : Derives .base v (.literal (String.ofList v))
  | iterate : Derives .base ['z'] (.symbol .iterate)
  | parameter : Derives .base ['c'] (.symbol .parameter)
  | imagUnit : Derives .base ['i'] (.symbol .imagUnit)
  | group {u : List Char} {n : Expr} (h : Derives .sum u n) : Derives .base ('(' :: (u ++ [')'])) n
  /-- An argument that begins with a name begins with one that comes later. -/
  | call {f : Func} {v : List Char} {n : Expr} (h : Derives .base v n)
    (horder : ∀ g : Func, g.letters <+: v → f.rank < g.rank) :
    Derives .base (f.letters ++ v) (.call f n)

lemma precedence_level (op : Operator) : (level op).precedence = op.precedence := by
  cases op <;> rfl

lemma precedence_tighter_level (op : Operator) :
    (level op).tighter.precedence = op.precedence + 1 := by
  cases op <;> rfl

lemma precedence_le_tighter (k : Level) : k.precedence ≤ k.tighter.precedence := by
  cases k <;> decide

lemma precedence_le_three (op : Operator) : op.precedence ≤ 3 := by
  cases op <;> decide

/-! ### Brackets -/

/-- No bracket is closed before it is opened. -/
def Opened (w : List Char) : Prop := ∀ u v, w = u ++ v → 0 ≤ depth u

/-- No bracket is closed before it is opened, and all are closed in the end. -/
def Nested (w : List Char) : Prop := depth w = 0 ∧ Opened w

lemma nested_of_plain {w : List Char} (h : ∀ c ∈ w, c ≠ '(' ∧ c ≠ ')') : Nested w := by
  refine ⟨depth_eq_zero h, ?_⟩
  rintro u v rfl
  rw [depth_eq_zero fun c hc => h c (by simp [hc])]

lemma Nested.append_opened {u v : List Char} (hu : Nested u) (hv : Opened v) : Opened (u ++ v) := by
  intro a b hab
  rcases List.append_eq_append_iff.1 hab with ⟨t, rfl, rfl⟩ | ⟨t, rfl, rfl⟩
  · rw [depth_append, hu.1, zero_add]
    exact hv t b rfl
  · exact hu.2 a t rfl

lemma Nested.append {u v : List Char} (hu : Nested u) (hv : Nested v) : Nested (u ++ v) :=
  ⟨by rw [depth_append, hu.1, hv.1]; rfl, hu.append_opened hv.2⟩

lemma neg_one_le_bracketStep (c : Char) : -1 ≤ bracketStep c := by
  unfold bracketStep
  split_ifs <;> simp

/-- Whatever character comes last, it closes at most the bracket that was opened first. -/
lemma Opened.bracket {u : List Char} (hu : Opened u) (c : Char) : Opened ('(' :: (u ++ [c])) := by
  intro a b hab
  cases a with
  | nil => simp
  | cons d a =>
    obtain ⟨rfl, htail⟩ := List.cons.inj hab
    rw [depth_cons, bracketStep_open]
    rcases List.append_eq_append_iff.1 htail with ⟨t, rfl, ht⟩ | ⟨t, rfl, rfl⟩
    · have h₁ := hu u [] (by simp)
      have h₂ := neg_one_le_bracketStep c
      rcases List.append_eq_singleton_iff.1 ht.symm with ⟨rfl, -⟩ | ⟨rfl, -⟩
      · simp
        omega
      · simp
        omega
    · have := hu a t rfl
      omega

lemma Nested.bracket {u : List Char} (hu : Nested u) : Nested ('(' :: (u ++ [')'])) :=
  ⟨by simp [hu.1], hu.2.bracket ')'⟩

/-- Inside a pair of brackets no place is outside all brackets. -/
lemma Nested.eq_nil_of_bracket {u a b : List Char} (hu : Nested u) (hb : b ≠ [])
    (h : '(' :: (u ++ [')']) = a ++ b) (ha : depth a = 0) : a = [] := by
  cases a with
  | nil => rfl
  | cons c a =>
    exfalso
    obtain ⟨rfl, htail⟩ := List.cons.inj h
    rw [depth_cons, bracketStep_open] at ha
    rcases List.append_eq_append_iff.1 htail with ⟨t, rfl, ht⟩ | ⟨t, rfl, rfl⟩
    · rcases List.append_eq_singleton_iff.1 ht.symm with ⟨rfl, -⟩ | ⟨-, rfl⟩
      · simp [hu.1] at ha
      · exact hb rfl
    · have := hu.2 a t rfl
      omega

lemma symbol_not_bracket (op : Operator) : op.symbol ≠ '(' ∧ op.symbol ≠ ')' := by
  cases op <;> decide

lemma letters_not_bracket (f : Func) : ∀ c ∈ f.letters, c ≠ '(' ∧ c ≠ ')' := by
  cases f <;> simp [Func.letters, Func.name]

lemma NumChar.not_bracket {c : Char} (h : NumChar c) : c ≠ '(' ∧ c ≠ ')' :=
  ⟨h.ne (by decide), h.ne (by decide)⟩

lemma nested_num {v : List Char} (h : Num v) : Nested v :=
  nested_of_plain fun c hc => (h.numChar c hc).not_bracket

theorem Derives.nested {k : Level} {w : List Char} {n : Expr} (h : Derives k w n) : Nested w := by
  induction h with
  | lift _ ih => exact ih
  | @binary op u v l r _ _ _ ihl ihr =>
    have hop : Nested [op.symbol] := nested_of_plain (by simpa using symbol_not_bracket op)
    exact ihl.append (hop.append ihr)
  | negNumeral h =>
    have hminus : Nested ['-'] := nested_of_plain (by simp)
    exact hminus.append (nested_num h)
  | numeral h => exact nested_num h
  | negImagUnit | iterate | parameter | imagUnit => exact nested_of_plain (by simp)
  | group _ ih => exact ih.bracket
  | call _ _ ih => exact (nested_of_plain (letters_not_bracket _)).append ih

/-! ### Ends -/

lemma NumChar.startsOperand {c : Char} (h : NumChar c) : startsOperand (some c) = false := by
  have hother : ∀ d ∈ ['(', '+', '*', '/', '^'], d.isDigit = false ∧ d ≠ '.' ∧ d ≠ 'e' := by simp
  have hmem : c ∉ ['(', '+', '*', '/', '^'] := fun hc => h.ne (hother c hc) rfl
  simpa [Formula.startsOperand] using hmem

lemma startsOperand_append {u v : List Char} (hv : v ≠ []) :
    startsOperand (u ++ v).getLast? = startsOperand v.getLast? := by
  rw [List.getLast?_append, List.getLast?_eq_some_getLast hv, Option.some_or]

lemma Num.startsOperand {v : List Char} (h : Num v) : startsOperand v.getLast? = false := by
  rw [List.getLast?_eq_some_getLast h.ne_nil]
  exact (h.numChar _ (List.getLast_mem _)).startsOperand

theorem Derives.ne_nil {k : Level} {w : List Char} {n : Expr} (h : Derives k w n) : w ≠ [] := by
  induction h with
  | lift _ ih => exact ih
  | numeral h => exact h.ne_nil
  | call _ _ ih => exact List.append_ne_nil_of_right_ne_nil _ ih
  | binary | negNumeral | negImagUnit | iterate | parameter | imagUnit | group => simp

/-- Behind a complete text a minus is an operator. -/
theorem Derives.startsOperand {k : Level} {w : List Char} {n : Expr} (h : Derives k w n) :
    startsOperand w.getLast? = false := by
  induction h with
  | lift _ ih => exact ih
  | @binary op u v l r hl hr _ _ ihr =>
    rw [← List.singleton_append, ← List.append_assoc, startsOperand_append hr.ne_nil, ihr]
  | negNumeral h => rw [← List.singleton_append, startsOperand_append h.ne_nil, h.startsOperand]
  | negImagUnit | iterate | parameter | imagUnit => rfl
  | numeral h => exact h.startsOperand
  | @group u n h ih =>
    rw [← List.cons_append, startsOperand_append (by simp)]
    rfl
  | call h _ ih => rw [startsOperand_append h.ne_nil, ih]

/-! ### Operators of a text -/

lemma symbol_not_numChar (op : Operator) : ¬ NumChar op.symbol := by
  cases op <;> simp [NumChar, Operator.symbol]

lemma symbol_not_letter (op : Operator) (f : Func) : op.symbol ∉ f.letters := by
  cases op <;> cases f <;> decide

lemma startsOperand_symbol {op : Operator} (h : Formula.startsOperand (some op.symbol) = false) :
    op = .sub := by
  cases op <;> first | rfl | exact absurd h (by decide)

/-- The beginnings that a text without a sign cannot have: a minus, and the letters that would
continue the end of a name to another name. -/
def badBeginnings : List (List Char) := [['-'], ['n'], ['h'], ['i', 'n']]

lemma letters_begin (f : Func) (v : List Char) : ∀ b ∈ badBeginnings, ¬ b <+: f.letters ++ v := by
  have hlong : ∀ b ∈ badBeginnings, b.length ≤ f.letters.length := by cases f <;> decide
  have hshort : ∀ b ∈ badBeginnings, ¬ b <+: f.letters := by cases f <;> decide
  exact fun b hb h => hshort b hb (List.prefix_of_prefix_length_le h (List.prefix_append _ _)
    (hlong b hb))

theorem Derives.begins {w : List Char} {n : Expr} (h : Derives .base w n) :
    ∀ b ∈ badBeginnings, ¬ b <+: w := by
  generalize hk : Level.base = k at h
  induction h with
  | lift h ih =>
    subst hk
    exact ih rfl
  | @binary op => cases op <;> cases hk
  | negNumeral | negImagUnit => cases hk
  | @numeral v h =>
    -- no character of a numeral begins one of them
    have hhead : ∀ b ∈ badBeginnings, ∀ c ∈ b.head?, c.isDigit = false ∧ c ≠ '.' ∧ c ≠ 'e' := by
      simp [badBeginnings]
    have hne : ∀ b ∈ badBeginnings, b ≠ [] := by decide
    rintro b hb ⟨t, rfl⟩
    obtain ⟨c, b, rfl⟩ := List.exists_cons_of_ne_nil (hne b hb)
    exact (h.numChar c (by simp)).ne (hhead _ hb c rfl) rfl
  | iterate | parameter | imagUnit => decide
  | @group u n h ih =>
    have hhead : ∀ b ∈ badBeginnings, b.head? ≠ some '(' ∧ b ≠ [] := by decide
    rintro b hb hpre
    obtain ⟨c, b, rfl⟩ := List.exists_cons_of_ne_nil (hhead b hb).2
    exact (hhead _ hb).1 (by simp [(List.cons_prefix_cons.1 hpre).1])
  | call => exact letters_begin _ _

lemma Derives.head?_ne_minus {w : List Char} {n : Expr} (h : Derives .base w n) :
    w.head? ≠ some '-' := by
  intro hhead
  obtain ⟨t, rfl⟩ := List.head?_eq_some_iff.1 hhead
  exact h.begins ['-'] (by decide) (by simp)

/-- A sign is no operator. -/
lemma not_operatorAt_minus {v : List Char} (h : ∀ op : Operator, op.symbol ∉ v) {j : Nat}
    {op : Operator} : ¬ OperatorAt ('-' :: v) j op := by
  rintro ⟨a, b, hab, rfl, -, hs⟩
  cases a with
  | nil =>
    obtain ⟨hsym, -⟩ := List.cons.inj hab
    exact absurd (hs (symbol_eq_minus_iff.1 hsym.symm)) (by decide)
  | cons c a =>
    obtain ⟨-, rfl⟩ := List.cons.inj hab
    exact h op (by simp)

lemma Nested.not_operatorAt_bracket {u : List Char} (h : Nested u) {j : Nat} {op : Operator} :
    ¬ OperatorAt ('(' :: (u ++ [')'])) j op := by
  rintro ⟨a, b, hab, -, ha, -⟩
  obtain rfl := h.eq_nil_of_bracket (by simp) hab ha
  exact (symbol_not_bracket op).1 (List.cons.inj hab).1.symm

/-- Outside all brackets a text of some kind has only operators that bind as tightly as the kind
demands; a signed operand has none. -/
theorem Derives.operators {k : Level} {w : List Char} {n : Expr} (h : Derives k w n) {j : Nat}
    {op : Operator} (hop : OperatorAt w j op) : k.precedence ≤ op.precedence := by
  induction h generalizing j op with
  | lift _ ih => exact (precedence_le_tighter _).trans (ih hop)
  | @binary o u v l r hl hr hsign ihl ihr =>
    rw [precedence_level]
    rw [precedence_level] at ihl
    rw [precedence_tighter_level] at ihr
    rcases hop.of_append hl.nested.1 with hu | ⟨i, rfl, hv | ⟨-, rfl, hhead, -⟩⟩
    · exact ihl hu
    · rw [← List.singleton_append] at hv
      rcases hv.of_append (by simp) with ho | ⟨i, rfl, hv | ⟨-, rfl, hhead, hstart⟩⟩
      · rw [symbol_injective (List.mem_singleton.1 ho.symbol_mem)]
      · have := ihr hv
        omega
      · exact absurd hhead (hsign (startsOperand_symbol hstart))
    · simp only [List.head?_cons, Option.some.injEq] at hhead
      rw [symbol_eq_minus_iff.1 hhead]
  | negNumeral h =>
    exact absurd hop (not_operatorAt_minus fun o ho => symbol_not_numChar o (h.numChar _ ho))
  | negImagUnit =>
    exact absurd hop (not_operatorAt_minus fun o => by cases o <;> decide)
  | numeral h => exact absurd (h.numChar _ hop.symbol_mem) (symbol_not_numChar op)
  | iterate | parameter | imagUnit =>
    have := hop.symbol_mem
    cases op <;> simp [Operator.symbol] at this
  | group h => exact absurd hop h.nested.not_operatorAt_bracket
  | @call f v n h _ ih =>
    rcases hop.of_append (depth_letters f) with hf | ⟨i, rfl, hv | ⟨-, -, hhead, -⟩⟩
    · exact absurd hf.symbol_mem (symbol_not_letter op f)
    · exact ih hv
    · exact absurd hhead h.head?_ne_minus

/-! ### Names in a text -/

/-- A text of digits, points, exponent marks and signs holds no name. -/
lemma not_nameAt_of_numChar {cs : List Char} (h : ∀ c ∈ cs, NumChar c ∨ c = '-') {j : Nat}
    {f : Func} : ¬ NameAt cs j f := by
  intro hf
  have hletter : ∃ c ∈ f.letters, (c.isDigit = false ∧ c ≠ '.' ∧ c ≠ 'e') ∧ c ≠ '-' := by
    cases f <;> simp [Func.letters, Func.name]
  obtain ⟨c, hc, hnum, hminus⟩ := hletter
  rcases h c (hf.subset hc) with h | h
  · exact h.ne hnum rfl
  · exact hminus h

lemma Nested.not_nameAt_bracket {u : List Char} (h : Nested u) {j : Nat} {f : Func} :
    ¬ NameAt ('(' :: (u ++ [')'])) j f := by
  rintro ⟨a, b, hab, -, ha⟩
  have hne : f.letters ≠ [] := List.ne_nil_of_length_pos (letters_length_pos f)
  obtain rfl := h.eq_nil_of_bracket (List.append_ne_nil_of_left_ne_nil hne b) hab ha
  obtain ⟨c, l, hl⟩ := List.exists_cons_of_ne_nil hne
  rw [hl] at hab
  exact (letters_not_bracket f c (by simp [hl])).1 (List.cons.inj hab).1.symm

/-- A name that starts inside another name is either that name or goes on behind it with letters
that begin no argument. -/
lemma overlap_names (f g : Func) : ∀ i < f.letters.length,
    (g.letters <+: f.letters.drop i → i = 0 ∧ g = f) ∧
      (f.letters.drop i <+: g.letters →
        i = 0 ∧ g = f ∨ g.letters.drop (f.letters.length - i) ∈ badBeginnings) := by
  cases f <;> cases g <;> decide

/-- A name in a call is the function's own name or a name in its argument. -/
lemma nameAt_call {f g : Func} {v : List Char} {j : Nat} (h : NameAt (f.letters ++ v) j g)
    (hv : ∀ b ∈ badBeginnings, ¬ b <+: v) :
    (j = 0 ∧ g = f) ∨ ∃ i, j = f.letters.length + i ∧ NameAt v i g := by
  obtain ⟨a, b, hab, rfl, ha⟩ := h
  rcases List.append_eq_append_iff.1 hab with ⟨t, rfl, rfl⟩ | ⟨t, hf, ht⟩
  · rw [depth_append, depth_letters, zero_add] at ha
    exact .inr ⟨t.length, by simp, t, b, rfl, rfl, ha⟩
  · rcases eq_or_ne t [] with rfl | hne
    · rw [List.append_nil] at hf
      exact .inr ⟨0, by simp [hf], [], b, by simpa using ht.symm, rfl, rfl⟩
    · left
      have hlt : a.length < f.letters.length := by
        have := List.length_pos_iff.2 hne
        rw [hf, List.length_append]
        omega
      have hdrop : f.letters.drop a.length = t := by rw [hf, List.drop_left]
      obtain ⟨hinside, hbeyond⟩ := overlap_names f g a.length hlt
      rw [hdrop] at hinside hbeyond
      -- what is left of the one name and the other name begin the same text
      rcases List.append_eq_append_iff.1 ht with ⟨r, rfl, -⟩ | ⟨r, hg, rfl⟩
      · exact hinside ⟨r, rfl⟩
      · rcases hbeyond ⟨r, hg.symm⟩ with h | hbad
        · exact h
        · rw [hg, hf, List.length_append, Nat.add_sub_cancel_left, List.drop_left] at hbad
          exact absurd ⟨b, rfl⟩ (hv r hbad)

/-- Every name in a text without a sign comes, in the order of the functions, no earlier than the
name with which the text begins. -/
theorem Derives.names {w : List Char} {n : Expr} (h : Derives .base w n) {j : Nat} {g : Func}
    (hg : NameAt w j g) : ∃ f : Func, f.letters <+: w ∧ f.rank ≤ g.rank := by
  generalize hk : Level.base = k at h
  induction h generalizing j with
  | lift h ih =>
    subst hk
    exact ih hg rfl
  | @binary op => cases op <;> cases hk
  | negNumeral | negImagUnit => cases hk
  | numeral h => exact absurd hg (not_nameAt_of_numChar fun c hc => .inl (h.numChar c hc))
  | iterate | parameter | imagUnit =>
    have hletters := hg.subset
    cases g <;> exact absurd hletters (by decide)
  | group h => exact absurd hg h.nested.not_nameAt_bracket
  | @call f v n h horder ih =>
    rcases nameAt_call hg h.begins with ⟨-, rfl⟩ | ⟨i, -, hi⟩
    · exact ⟨_, List.prefix_append _ _, le_refl _⟩
    · obtain ⟨f', hpre, hle⟩ := ih hi rfl
      exact ⟨f, List.prefix_append _ _, (horder f' hpre).le.trans hle⟩

/-- A call's own name is the one at which the call is cut. -/
theorem Derives.rootName {f : Func} {v : List Char} {n : Expr} (h : Derives .base v n)
    (horder : ∀ g : Func, g.letters <+: v → f.rank < g.rank) : RootName (f.letters ++ v) 0 f := by
  have hlater : ∀ i g, NameAt v i g → f.rank < g.rank := by
    intro i g hg
    obtain ⟨f', hpre, hle⟩ := h.names hg
    exact lt_of_lt_of_le (horder f' hpre) hle
  refine ⟨⟨[], v, rfl, rfl, rfl⟩, fun j g hg => ?_, fun j hj => ?_⟩
  · rcases nameAt_call hg h.begins with ⟨-, rfl⟩ | ⟨i, -, hi⟩
    · exact le_refl _
    · exact (hlater i g hi).le
  · rcases nameAt_call hj h.begins with ⟨rfl, -⟩ | ⟨i, -, hi⟩
    · exact le_refl _
    · exact absurd (hlater i f hi) (lt_irrefl _)

/-- The operator that joins two operands is the one at which their text is cut. -/
theorem Derives.rootOperator {op : Operator} {u v : List Char} {l r : Expr}
    (hl : Derives (level op) u l) (hr : Derives (level op).tighter v r)
    (hsign : op = .sub → v.head? ≠ some '-') :
    RootOperator (u ++ op.symbol :: v) u.length op := by
  refine ⟨⟨u, v, rfl, rfl, hl.nested.1, fun _ => hl.startsOperand⟩, fun j op' hop => ?_,
    fun j op' hop heq => ?_⟩
  · rw [← precedence_level]
    exact (Derives.binary hl hr hsign).operators hop
  · -- an operator behind `u` and its own would bind more tightly
    rw [← List.singleton_append, ← List.append_assoc] at hop
    rcases hop.of_append (by simp [hl.nested.1]) with hu | ⟨i, rfl, hv | ⟨-, rfl, hhead, hstart⟩⟩
    · have := hu.lt_length
      rw [List.length_append, List.length_singleton] at this
      omega
    · have := hr.operators hv
      rw [precedence_tighter_level] at this
      omega
    · refine absurd hhead (hsign (startsOperand_symbol ?_))
      simpa using hstart

end Grammar

end EscapeTime
