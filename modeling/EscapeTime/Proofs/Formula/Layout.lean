import EscapeTime.Proofs.Formula.Places
import EscapeTime.Proofs.Formula.Reading

namespace EscapeTime

/-!
# Where the cuts of a text lie

A cut lies in the span that it is made in, and what it leaves is cut in turn, so the spans of a tree
lie one inside the other. Nothing outside a span has a say in how the span is cut: the same text
further to the right is cut at the same places, moved along. It stands for the same expression, and
the same things are wrong with it.
-/

/-- The diagnostic moved to the right. -/
def Diagnostic.shift (n : Nat) : Diagnostic → Diagnostic
  | unrecognizedToken s text => unrecognizedToken (s.shift n) text
  | missingOperand s => missingOperand (s.shift n)
  | unexpectedPrefix s text f => unexpectedPrefix (s.shift n) text f

namespace SyntaxTree

open Formula

/-! ### One cut -/

section Cut

variable {w : List Char} {s : Span} {k : Nat}

lemma cut_of_operator {op : Operator} (h : rootOperator? (s.slice w) = some (k, op)) :
    cut w s = binary s (s.start + k) op (cut w ⟨s.start, s.start + k⟩)
      (cut w ⟨s.start + k + 1, s.stop⟩) := by
  rw [cut]
  split
  · rename_i h'
    obtain ⟨rfl, rfl⟩ := Prod.mk.inj (Option.some.inj (h.symm.trans h'))
    rfl
  · rename_i h'
    simp [h] at h'

lemma cut_of_name {f : Func} (hop : rootOperator? (s.slice w) = none)
    (h : rootFunc? (s.slice w) = some (k, f)) :
    cut w s = call s (s.start + k) f (cut w ⟨s.start + k + f.letters.length, s.stop⟩) := by
  rw [cut]
  split
  · rename_i h'
    simp [hop] at h'
  · split
    · rename_i h'
      obtain ⟨rfl, rfl⟩ := Prod.mk.inj (Option.some.inj (h.symm.trans h'))
      rfl
    · rename_i h'
      simp [h] at h'

lemma cut_of_open (hop : rootOperator? (s.slice w) = none) (hf : rootFunc? (s.slice w) = none)
    (h : (s.slice w).head? = some '(') : cut w s = group s (cut w (inside s)) := by
  rw [cut]
  split
  · rename_i h'
    simp [hop] at h'
  · split
    · rename_i h'
      simp [hf] at h'
    · rw [dif_pos h]

lemma cut_of_leaf (hop : rootOperator? (s.slice w) = none) (hf : rootFunc? (s.slice w) = none)
    (h : (s.slice w).head? ≠ some '(') : cut w s = leaf s := by
  rw [cut]
  split
  · rename_i h'
    simp [hop] at h'
  · split
    · rename_i h'
      simp [hf] at h'
    · rw [dif_neg h]

/-- What a span of the text stands for, and what is wrong with it. -/
def outcome (w : List Char) (s : Span) : Expr × List Diagnostic :=
  ((cut w s).expr w, (cut w s).diagnostics w)

lemma outcome_of_operator {op : Operator} (h : rootOperator? (s.slice w) = some (k, op)) :
    outcome w s =
      (.binary op (outcome w ⟨s.start, s.start + k⟩).1 (outcome w ⟨s.start + k + 1, s.stop⟩).1,
        (outcome w ⟨s.start, s.start + k⟩).2 ++ (outcome w ⟨s.start + k + 1, s.stop⟩).2) := by
  rw [outcome, cut_of_operator h]
  rfl

/-- A name at the start drops no text. -/
lemma outcome_of_name {f : Func} (hop : rootOperator? (s.slice w) = none)
    (h : rootFunc? (s.slice w) = some (0, f)) :
    outcome w s = (.call f (outcome w ⟨s.start + f.letters.length, s.stop⟩).1,
      (outcome w ⟨s.start + f.letters.length, s.stop⟩).2) := by
  rw [outcome, cut_of_name hop h, Nat.add_zero, diagnostics, if_neg (Nat.lt_irrefl _)]
  rfl

/-- Brackets leave no trace. -/
lemma outcome_of_open (hop : rootOperator? (s.slice w) = none) (hf : rootFunc? (s.slice w) = none)
    (h : (s.slice w).head? = some '(') : outcome w s = outcome w (inside s) := by
  rw [outcome, cut_of_open hop hf h]
  rfl

end Cut

/-! ### All cuts -/

/-- The tree covers the span: every cut lies in the span it is made in, a name stands where the tree
has it, and each part covers what the cut leaves for it. -/
inductive Covers (w : List Char) : Span → SyntaxTree → Prop
  | binary {s : Span} {position : Nat} {op : Operator} {left right : SyntaxTree}
    (hstart : s.start ≤ position) (hstop : position < s.stop)
    (hl : Covers w ⟨s.start, position⟩ left) (hr : Covers w ⟨position + 1, s.stop⟩ right) :
    Covers w s (.binary s position op left right)
  | call {s : Span} {position : Nat} {f : Func} {argument : SyntaxTree}
    (hstart : s.start ≤ position) (hstop : position + f.letters.length ≤ s.stop)
    (hname : f.letters <+: w.drop position)
    (hx : Covers w ⟨position + f.letters.length, s.stop⟩ argument) :
    Covers w s (.call s position f argument)
  | group {s : Span} {inner : SyntaxTree} (hlt : s.start < s.stop) (hw : s.stop ≤ w.length)
    (hx : Covers w (inside s) inner) : Covers w s (.group s inner)
  | leaf {s : Span} (hle : s.start ≤ s.stop) (hw : s.stop ≤ w.length) : Covers w s (.leaf s)

theorem covers_cut (w : List Char) (s : Span) (hle : s.start ≤ s.stop) (hw : s.stop ≤ w.length) :
    Covers w s (cut w s) := by
  fun_induction cut w s with
  | case1 s k op hroot hk _ ihl ihr =>
    rw [s.length_slice hw, Span.length] at hk
    refine .binary (by omega) (by omega) (ihl ?_ ?_) (ihr ?_ hw)
    all_goals simp only
    all_goals omega
  | case2 s hop k f hroot hk _ _ ih =>
    rw [s.length_slice hw, Span.length] at hk
    refine .call (by omega) (by omega) ?_ (ih (by simp only; omega) hw)
    obtain ⟨u, v, huv, rfl, -⟩ := (rootFunc?_eq_some_iff.1 hroot).stands
    -- the name stands in the span's text, which begins what is left of `w`
    have hpre : s.slice w <+: w.drop s.start := List.take_prefix _ _
    rw [huv] at hpre
    obtain ⟨t, ht⟩ := hpre
    refine ⟨v ++ t, ?_⟩
    rw [← List.drop_drop, ← ht, List.append_assoc, List.drop_left, List.append_assoc]
  | case3 s hop hf hhead hpos _ ih =>
    rw [s.length_slice hw, Span.length] at hpos
    refine .group (by omega) hw (ih ?_ ?_)
    all_goals simp only [inside]
    all_goals omega
  | case4 s hop hf hhead => exact .leaf hle hw

lemma covers_ofChars (w : List Char) : Covers w ⟨0, w.length⟩ (ofChars w) :=
  covers_cut w _ (Nat.zero_le _) (Nat.le_refl _)

/-! ### The same text further to the right -/

/-- The tree of the same text further to the right. -/
def shift (n : Nat) : SyntaxTree → SyntaxTree
  | binary s position op left right =>
    binary (s.shift n) (position + n) op (left.shift n) (right.shift n)
  | call s position f argument => call (s.shift n) (position + n) f (argument.shift n)
  | group s inner => group (s.shift n) (inner.shift n)
  | leaf s => leaf (s.shift n)

section Shift

variable (u : List Char) {w : List Char} (v : List Char) {s : Span}

lemma slice_shift (hw : s.stop ≤ w.length) :
    (s.shift u.length).slice (u ++ (w ++ v)) = s.slice w := by
  have hlength : (s.shift u.length).length = s.length := by
    simp only [Span.length, Span.shift]
    omega
  have hdrop : (u ++ (w ++ v)).drop (s.shift u.length).start = (w ++ v).drop s.start := by
    rw [Span.shift, Nat.add_comm, ← List.drop_drop, List.drop_left]
  rw [Span.slice, Span.slice, hlength, hdrop, List.drop_append, List.take_append_of_le_length]
  rw [List.length_drop, Span.length]
  omega

/-- **Cutting is local.** A text that stands further to the right, between other texts, is cut as it
is on its own. -/
theorem cut_shift (hw : s.stop ≤ w.length) :
    cut (u ++ (w ++ v)) (s.shift u.length) = (cut w s).shift u.length := by
  fun_induction cut w s with
  | case1 s k op hroot hk hlen ihl ihr =>
    have hleft := ihl (by simp only [Span.length] at hlen ⊢; omega)
    have hright := ihr hw
    rw [← slice_shift u v hw] at hroot
    rw [cut_of_operator hroot]
    simp only [Span.shift, Nat.add_right_comm _ _ u.length, shift] at hleft hright ⊢
    rw [hleft, hright]
  | case2 s hop k f hroot hk hpos hlen ih =>
    have hargument := ih hw
    rw [← slice_shift u v hw] at hop hroot
    rw [cut_of_name hop hroot]
    simp only [Span.shift, Nat.add_right_comm _ _ u.length, shift] at hargument ⊢
    rw [hargument]
  | case3 s hop hf hhead hpos hlen ih =>
    have hinner := ih (by simp only [Span.length, inside] at hlen ⊢; omega)
    have hinside : inside (s.shift u.length) = (inside s).shift u.length := by
      simp only [inside, Span.shift, Span.mk.injEq]
      simp only [Span.length] at hlen
      omega
    rw [← slice_shift u v hw] at hop hf hhead
    rw [cut_of_open hop hf hhead, hinside, hinner]
    rfl
  | case4 s hop hf hhead =>
    rw [← slice_shift u v hw] at hop hf hhead
    rw [cut_of_leaf hop hf hhead]
    rfl

lemma Covers.stop_le {t : SyntaxTree} (h : Covers w s t) : s.stop ≤ w.length := by
  induction h with
  | binary _ _ _ _ _ ihr => exact ihr
  | call _ _ _ _ ih => exact ih
  | group _ hw _ _ => exact hw
  | leaf _ hw => exact hw

theorem Covers.expr_shift {t : SyntaxTree} (h : Covers w s t) :
    (t.shift u.length).expr (u ++ (w ++ v)) = t.expr w := by
  induction h with
  | binary _ _ _ _ ihl ihr => rw [shift, expr, ihl, ihr, expr]
  | call _ _ _ _ ih => rw [shift, expr, ih, expr]
  | group _ _ _ ih => exact ih
  | leaf _ hw => rw [shift, expr, slice_shift u v hw, expr]

lemma leafDiagnostic?_shift (n : Nat) (s : Span) (text : List Char) :
    leafDiagnostic? (s.shift n) text = (leafDiagnostic? s text).map (Diagnostic.shift n) := by
  unfold leafDiagnostic?
  split
  · by_cases hempty : text.isEmpty <;> simp [hempty, Diagnostic.shift]
  · rfl

theorem Covers.diagnostics_shift {t : SyntaxTree} (h : Covers w s t) :
    (t.shift u.length).diagnostics (u ++ (w ++ v)) = (t.diagnostics w).map (.shift u.length) := by
  induction h with
  | binary _ _ _ _ ihl ihr => rw [shift, diagnostics, ihl, ihr, ← List.map_append, diagnostics]
  | @call s position f argument hstart hstop hname hx ih =>
    have hw : (dropped s position).stop ≤ w.length := by
      have := hx.stop_le
      simp only [dropped] at this ⊢
      omega
    have hdropped : dropped (s.shift u.length) (position + u.length) =
        (dropped s position).shift u.length := rfl
    rw [shift, diagnostics, diagnostics, ih, hdropped, slice_shift u v hw]
    by_cases hlt : s.start < position
    · rw [if_pos hlt, if_pos (by simp only [Span.shift]; omega)]
      rfl
    · rw [if_neg hlt, if_neg (by simp only [Span.shift]; omega)]
  | group _ _ _ ih => exact ih
  | leaf _ hw =>
    rw [shift, diagnostics, diagnostics, slice_shift u v hw, leafDiagnostic?_shift]
    cases leafDiagnostic? _ _ <;> rfl

theorem outcome_shift (hle : s.start ≤ s.stop) (hw : s.stop ≤ w.length) :
    outcome (u ++ (w ++ v)) (s.shift u.length) =
      ((outcome w s).1, (outcome w s).2.map (.shift u.length)) := by
  have hcovers := covers_cut w s hle hw
  rw [outcome, outcome, cut_shift u v hw, hcovers.expr_shift u v, hcovers.diagnostics_shift u v]

end Shift

end SyntaxTree

end EscapeTime
