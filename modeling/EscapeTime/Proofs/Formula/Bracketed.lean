import EscapeTime.Proofs.Formula.Grammar
import EscapeTime.Proofs.Formula.Layout
import EscapeTime.Proofs.Formula.Normal

namespace EscapeTime

/-!
# Operands in brackets

A text whose brackets are nested can be put in brackets and used as an operand, whatever else it
holds. No place inside the brackets is outside all brackets, so the text around it is cut where it
would be cut around a symbol. What stands between the brackets is then cut as it is on its own, and
what is wrong with it is reported at the place to which it has moved.
-/

namespace Formula

open Grammar SyntaxTree

/-- The text in brackets. -/
def bracketed (a : List Char) : List Char := '(' :: (a ++ [')'])

variable {a b : List Char}

@[simp] lemma length_bracketed (a : List Char) : (bracketed a).length = a.length + 2 := by
  simp [bracketed]

/-! ### The text around an operand -/

/-- Behind a closing bracket a minus is an operator. -/
lemma startsOperand_bracketed (a : List Char) : startsOperand (bracketed a).getLast? = false := by
  rw [bracketed, ← List.cons_append, List.getLast?_concat]
  rfl

/-- Between two bracketed operands the only operator is the one that joins them. -/
lemma operatorAt_join (ha : Nested a) (hb : Nested b) {op op' : Operator} {j : Nat}
    (h : OperatorAt (bracketed a ++ op.symbol :: bracketed b) j op') :
    j = a.length + 2 ∧ op' = op := by
  have hdepth : depth (bracketed a) = 0 := ha.bracket.1
  rcases h.of_append hdepth with hleft | ⟨i, rfl, hrest⟩
  · exact absurd hleft ha.not_operatorAt_bracket
  · rw [length_bracketed]
    rcases hrest with hrest | ⟨rfl, rfl, hhead, -⟩
    · rw [← List.singleton_append] at hrest
      rcases hrest.of_append (by simp) with hop | ⟨k, -, hright | ⟨-, -, hhead, -⟩⟩
      · have hi := hop.lt_length
        rw [List.length_singleton] at hi
        exact ⟨by omega, symbol_injective (List.mem_singleton.1 hop.symbol_mem)⟩
      · exact absurd hright hb.not_operatorAt_bracket
      · simp [bracketed] at hhead
    · -- a minus that follows on the bracket is the operator itself
      rw [List.head?_cons, Option.some.injEq] at hhead
      exact ⟨rfl, (symbol_eq_minus_iff.1 hhead).symm⟩

lemma rootOperator_join (ha : Nested a) (hb : Nested b) (op : Operator) :
    RootOperator (bracketed a ++ op.symbol :: bracketed b) (a.length + 2) op where
  stands := ⟨bracketed a, bracketed b, rfl, length_bracketed a, ha.bracket.1,
    fun _ => startsOperand_bracketed a⟩
  loosest j op' h := by rw [(operatorAt_join ha hb h).2]
  last j op' h _ := by rw [(operatorAt_join ha hb h).1]

lemma not_operatorAt_call (ha : Nested a) (f : Func) {j : Nat} {op : Operator} :
    ¬ OperatorAt (f.letters ++ bracketed a) j op := by
  intro h
  rcases h.of_append (depth_letters f) with hname | ⟨i, -, hargument | ⟨-, -, hhead, -⟩⟩
  · exact symbol_not_letter op f hname.symbol_mem
  · exact ha.not_operatorAt_bracket hargument
  · simp [bracketed] at hhead

lemma rootName_call (ha : Nested a) (f : Func) : RootName (f.letters ++ bracketed a) 0 f := by
  have hbegin : ∀ x ∈ badBeginnings, ¬ x <+: bracketed a := by
    simp [badBeginnings, bracketed, List.cons_prefix_cons]
  have hown : ∀ j g, NameAt (f.letters ++ bracketed a) j g → j = 0 ∧ g = f := by
    intro j g hg
    rcases nameAt_call hg hbegin with hown | ⟨i, -, hinside⟩
    · exact hown
    · exact absurd hinside ha.not_nameAt_bracket
  exact ⟨⟨[], _, rfl, rfl, rfl⟩, fun j g hg => by rw [(hown j g hg).2],
    fun j hj => by rw [(hown j f hj).1]⟩

/-! ### The operand -/

/-- A bracketed text is read, wherever it stands, as the text in the brackets is on its own. -/
theorem outcome_bracketed (u v : List Char) (ha : Nested a) :
    outcome (u ++ (bracketed a ++ v)) ⟨u.length, u.length + (a.length + 2)⟩ =
      ((outcome a ⟨0, a.length⟩).1, (outcome a ⟨0, a.length⟩).2.map (.shift (u.length + 1))) := by
  have hspan : (⟨u.length, u.length + (a.length + 2)⟩ : Span) =
      (⟨0, (bracketed a).length⟩ : Span).shift u.length := by
    simp only [Span.shift, length_bracketed, Span.mk.injEq]
    omega
  have hslice : (⟨u.length, u.length + (a.length + 2)⟩ : Span).slice (u ++ (bracketed a ++ v)) =
      bracketed a := by
    rw [hspan, slice_shift u v (Nat.le_refl _), Span.slice_whole]
  have hop : rootOperator? (bracketed a) = none :=
    rootOperator?_eq_none_iff.2 fun _ _ => ha.not_operatorAt_bracket
  have hf : rootFunc? (bracketed a) = none :=
    rootFunc?_eq_none_iff.2 fun _ _ => ha.not_nameAt_bracket
  have hinside : inside ⟨u.length, u.length + (a.length + 2)⟩ =
      (⟨0, a.length⟩ : Span).shift (u ++ ['(']).length := by
    simp only [inside, Span.shift, List.length_append, List.length_singleton, Span.mk.injEq]
    omega
  have htext : u ++ (bracketed a ++ v) = (u ++ ['(']) ++ (a ++ (')' :: v)) := by simp [bracketed]
  have hlength : u.length + 1 = (u ++ ['(']).length := by simp
  rw [outcome_of_open (by rwa [hslice]) (by rwa [hslice]) (by rw [hslice]; rfl), hinside, htext,
    outcome_shift _ _ (Nat.zero_le _) (Nat.le_refl _), hlength]

/-! ### Whole texts -/

/-- What a text as a whole stands for, and what is wrong with it. -/
def reading (w : List Char) : Expr × List Diagnostic := outcome w ⟨0, w.length⟩

theorem reading_bracketed (ha : Nested a) :
    reading (bracketed a) = ((reading a).1, (reading a).2.map (.shift 1)) := by
  have h := outcome_bracketed [] [] ha
  rwa [List.append_nil, List.nil_append, List.length_nil, Nat.zero_add, Nat.zero_add,
    ← length_bracketed] at h

theorem reading_call (ha : Nested a) (f : Func) :
    reading (f.letters ++ bracketed a) =
      (.call f (reading a).1, (reading a).2.map (.shift (f.letters.length + 1))) := by
  have hop : rootOperator? (f.letters ++ bracketed a) = none :=
    rootOperator?_eq_none_iff.2 fun _ _ => not_operatorAt_call ha f
  have hroot := rootFunc?_eq_some_iff.2 (rootName_call ha f)
  have hoperand := outcome_bracketed f.letters [] ha
  rw [List.append_nil, ← length_bracketed, ← List.length_append] at hoperand
  rw [reading, outcome_of_name (by rwa [Span.slice_whole]) (by rwa [Span.slice_whole]), Nat.zero_add,
    hoperand]
  rfl

theorem reading_join (ha : Nested a) (hb : Nested b) (op : Operator) :
    reading (bracketed a ++ op.symbol :: bracketed b) =
      (.binary op (reading a).1 (reading b).1,
        (reading a).2.map (.shift 1) ++ (reading b).2.map (.shift (a.length + 4))) := by
  have hroot := rootOperator?_eq_some_iff.2 (rootOperator_join ha hb op)
  have hleft := outcome_bracketed [] (op.symbol :: bracketed b) ha
  have hright := outcome_bracketed (bracketed a ++ [op.symbol]) [] hb
  have htext : bracketed a ++ [op.symbol] ++ (bracketed b ++ []) =
      bracketed a ++ op.symbol :: bracketed b := by simp
  have hstart : (bracketed a ++ [op.symbol]).length = a.length + 2 + 1 := by simp
  have hstop : a.length + 2 + 1 + (b.length + 2) =
      (bracketed a ++ op.symbol :: bracketed b).length := by
    simp only [List.length_append, List.length_cons, length_bracketed]
    omega
  rw [List.nil_append, List.length_nil] at hleft
  rw [htext, hstart, hstop] at hright
  rw [reading, outcome_of_operator (by rwa [Span.slice_whole])]
  simp only [Nat.zero_add] at hleft ⊢
  rw [hleft, hright]
  rfl

/-! ### Texts in normal form -/

lemma settled_bracketed (h : ∀ c ∈ a, Settled c) : ∀ c ∈ bracketed a, Settled c := by
  intro c hc
  simp only [bracketed, List.mem_cons, List.mem_append, List.not_mem_nil, or_false] at hc
  rcases hc with rfl | hc | rfl
  · decide +kernel
  · exact h c hc
  · decide +kernel

lemma settled_symbol (op : Operator) : Settled op.symbol := by
  cases op <;> decide +kernel

lemma settled_letters (f : Func) : ∀ c ∈ f.letters, Settled c := by
  have h : f.letters.all (decide <| Settled ·) = true := by cases f <;> decide +kernel
  simpa using h

lemma reading_of_settled (source : String) {w : List Char} (htext : source.toList = w)
    (h : ∀ c ∈ w, Settled c) : reading w = (parse source, diagnostics source) := by
  subst htext
  rw [← chars_of_settled h]
  rfl

/-- **Bracketed operands compose.** In a text in normal form whose brackets are nested anything else
may stand: put in brackets it is read as it is on its own; joined by an operator two such texts
are the operands; behind a function's name it is the argument. Each time what is wrong with the parts
is all that is wrong with the whole, at the places to which they have moved. -/
theorem parse_bracketed_operands (a b : String) (ha : Normal a) (hb : Normal b)
    (hna : Nested a.toList) (hnb : Nested b.toList) (op : Operator) (f : Func) :
    (parse ("(" ++ a ++ ")") = parse a ∧
        diagnostics ("(" ++ a ++ ")") = (diagnostics a).map (.shift 1)) ∧
      (parse ("(" ++ a ++ ")" ++ String.singleton op.symbol ++ "(" ++ b ++ ")") =
          .binary op (parse a) (parse b) ∧
        diagnostics ("(" ++ a ++ ")" ++ String.singleton op.symbol ++ "(" ++ b ++ ")") =
          (diagnostics a).map (.shift 1) ++ (diagnostics b).map (.shift (a.length + 4))) ∧
      parse (f.name ++ "(" ++ a ++ ")") = .call f (parse a) ∧
        diagnostics (f.name ++ "(" ++ a ++ ")") =
          (diagnostics a).map (.shift (f.name.length + 1)) := by
  have hleft := reading_of_settled a rfl ha.settled
  have hright := reading_of_settled b rfl hb.settled
  have hbracketed := reading_of_settled ("(" ++ a ++ ")") (by simp [bracketed])
    (settled_bracketed ha.settled)
  have hjoin := reading_of_settled
    ("(" ++ a ++ ")" ++ String.singleton op.symbol ++ "(" ++ b ++ ")")
    (w := bracketed a.toList ++ op.symbol :: bracketed b.toList) (by simp [bracketed]) (by
      simp only [List.forall_mem_append, List.forall_mem_cons]
      exact ⟨settled_bracketed ha.settled, settled_symbol op, settled_bracketed hb.settled⟩)
  have hcall := reading_of_settled (f.name ++ "(" ++ a ++ ")")
    (w := f.letters ++ bracketed a.toList) (by simp [bracketed, Func.letters]) (by
      rw [List.forall_mem_append]
      exact ⟨settled_letters f, settled_bracketed ha.settled⟩)
  rw [reading_bracketed hna, hleft] at hbracketed
  rw [reading_join hna hnb, hleft, hright, String.length_toList] at hjoin
  rw [reading_call hna, hleft, Func.letters, String.length_toList] at hcall
  exact ⟨Prod.mk.inj hbracketed.symm, Prod.mk.inj hjoin.symm, Prod.mk.inj hcall.symm⟩

/-- Dropped text, an unknown word and a missing operand, next to an operand that is missing
altogether. -/
theorem parse_bracketed_operands_malformed :
    Normal "-2sin(w)+" ∧ Normal "" ∧ Nested "-2sin(w)+".toList ∧ Nested "".toList ∧
      parse "(-2sin(w)+)-()" =
        .binary .sub (.binary .add (.call .sin (.raw "w")) (.raw "")) (.raw "") ∧
      diagnostics "(-2sin(w)+)-()" =
        [.unexpectedPrefix ⟨1, 3⟩ "-2" .sin, .unrecognizedToken ⟨7, 8⟩ "w", .missingOperand ⟨10, 10⟩,
          .missingOperand ⟨13, 13⟩] ∧
      diagnostics "conj(-2sin(w)+)" =
        [.unexpectedPrefix ⟨5, 7⟩ "-2" .sin, .unrecognizedToken ⟨11, 12⟩ "w",
          .missingOperand ⟨14, 14⟩] := by
  have hleft : Normal "-2sin(w)+" := ⟨"-2 SIN(W) +", by decide +kernel⟩
  have hright : Normal "" := ⟨"", rfl⟩
  have hnested : Nested "-2sin(w)+".toList :=
    (nested_of_plain (w := ['-', '2', 's', 'i', 'n']) (by simp)).append
      ((nested_of_plain (w := ['w']) (by simp)).bracket.append
        (nested_of_plain (w := ['+']) (by simp)))
  have hempty : Nested "".toList := nested_of_plain (by simp)
  obtain ⟨-, ⟨hparse, hdiagnostics⟩, -, hcall⟩ :=
    parse_bracketed_operands "-2sin(w)+" "" hleft hright hnested hempty .sub .conj
  exact ⟨hleft, hright, hnested, hempty, hparse.trans (by decide +kernel),
    hdiagnostics.trans (by decide +kernel), hcall.trans (by decide +kernel)⟩

end Formula

end EscapeTime
