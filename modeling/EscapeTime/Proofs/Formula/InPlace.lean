import EscapeTime.Proofs.Formula.Scan

namespace EscapeTime

/-!
# Reading a span in place

A span is read where it stands in the text by cutting it in place, and what a cut leaves is read in
the same way. Such a reading looks around in the whole text: for what precedes a minus, and for the
rest of a name. Still it does not leave the span. What the span stands for, and what is wrong with
it, is the same as for its text on its own, so that nothing around the span has a say in it.
-/

namespace InPlace

open Formula SyntaxTree

section Reading

variable {w : List Char} {s : Span}

lemma bounds_of_cutAt {c : Cut} (h : cutAt w s = .ok c) : s.start ≤ s.stop ∧ s.stop ≤ w.length := by
  by_contra hout
  rw [cutAt, textAt, if_neg hout] at h
  cases h

lemma shorter_of_cutAt {c : Cut} (h : cutAt w s = .ok c) :
    ∀ part ∈ c.parts s, part.length < s.length := by
  obtain ⟨hle, hw⟩ := bounds_of_cutAt h
  obtain rfl : (cut w s).root = c := Except.ok.inj ((cutAt_eq hle hw).symm.trans h)
  intro part hpart
  exact ((covers_cut w s hle hw).part part hpart).2.2.2

end Reading

/-- What is reported about the text before a name. -/
def reportDropped (w : List Char) (s : Span) (position : Nat) (f : Func) :
    Except BadAccess (List Diagnostic) :=
  if s.start < position then
    return [.unexpectedPrefix (dropped s position)
      (String.ofList (← textAt w (dropped s position))) f]
  else return []

/-- What the span stands for, and what is wrong with it. -/
def read (w : List Char) (s : Span) : Except BadAccess (Expr × List Diagnostic) :=
  match h : cutAt w s with
  | .error fault => .error fault
  | .ok (.operator position op) => do
    have := shorter_of_cutAt h
    let left ← read w ⟨s.start, position⟩
    let right ← read w ⟨position + 1, s.stop⟩
    return (.binary op left.1 right.1, left.2 ++ right.2)
  | .ok (.name position f) => do
    have := shorter_of_cutAt h
    let reports ← reportDropped w s position f
    let argument ← read w ⟨position + f.letters.length, s.stop⟩
    return (.call f argument.1, reports ++ argument.2)
  | .ok (.brackets inner) =>
    have := shorter_of_cutAt h
    read w inner
  | .ok .leaf => do
    let text ← textAt w s
    return (leafExpr text, (leafDiagnostic? s text).toList)
termination_by s.length
decreasing_by all_goals exact this _ (by simp [Cut.parts])

section Reading

variable {w : List Char} {s : Span}

/-- A span of the text is cut as its text is cut, and then what the cut leaves is read. -/
lemma read_of_root (hle : s.start ≤ s.stop) (hw : s.stop ≤ w.length) :
    read w s = match (cut w s).root with
      | .operator position op => do
        let left ← read w ⟨s.start, position⟩
        let right ← read w ⟨position + 1, s.stop⟩
        return (.binary op left.1 right.1, left.2 ++ right.2)
      | .name position f => do
        let reports ← reportDropped w s position f
        let argument ← read w ⟨position + f.letters.length, s.stop⟩
        return (.call f argument.1, reports ++ argument.2)
      | .brackets inner => read w inner
      | .leaf => do
        let text ← textAt w s
        return (leafExpr text, (leafDiagnostic? s text).toList) := by
  have hcut := cutAt_eq hle hw
  generalize (cut w s).root = c at hcut ⊢
  rw [read]
  split
  · rename_i h
    cases h.symm.trans hcut
  all_goals
    rename_i h
    cases h.symm.trans hcut
    rfl

lemma reportDropped_eq {position : Nat} (f : Func) (hle : s.start ≤ position)
    (hw : position ≤ w.length) :
    reportDropped w s position f = pure (if s.start < position then
      [.unexpectedPrefix (dropped s position) (String.ofList ((dropped s position).slice w)) f]
      else []) := by
  have htext : textAt w (dropped s position) = pure ((dropped s position).slice w) :=
    textAt_of_le hle hw
  unfold reportDropped
  split
  · rw [htext, pure_bind]
  · rfl

/-- **Reading in place.** No look-up fails, and the span stands for what its text stands for when it
is taken out; the same is wrong with it. -/
theorem read_eq (hle : s.start ≤ s.stop) (hw : s.stop ≤ w.length) :
    read w s = pure (outcome w s) := by
  fun_induction cut w s with
  | case1 s k op hroot hk hlen ihl ihr =>
    simp only [Span.length] at hlen
    have hleft := ihl (by simp only; omega) (by simp only; omega)
    have hright := ihr (by simp only; omega) hw
    rw [read_of_root hle hw, cut_of_operator hroot, outcome_of_operator hroot]
    simp only [root, hleft, hright, pure_bind]
  | case2 s hop k f hroot hk hpos hlen ih =>
    simp only [Span.length] at hlen
    have hreports := reportDropped_eq f (Nat.le_add_right s.start k)
      (show s.start + k ≤ w.length by omega)
    have hargument := ih (by simp only; omega) hw
    rw [read_of_root hle hw, cut_of_name hop hroot]
    simp only [root, hreports, hargument, pure_bind]
    rw [outcome, outcome, cut_of_name hop hroot, SyntaxTree.diagnostics]
    split <;> rfl
  | case3 s hop hf hhead hpos hlen ih =>
    simp only [Span.length] at hlen
    rw [read_of_root hle hw, cut_of_open hop hf hhead, outcome_of_open hop hf hhead]
    exact ih (by simp only [inside]; omega) (by simp only [inside]; omega)
  | case4 s hop hf hhead =>
    rw [read_of_root hle hw, outcome, cut_of_leaf hop hf hhead]
    simp only [root, textAt_of_le hle hw, pure_bind]
    rfl

/-- The span's text stands between what is before it and what is behind it. -/
lemma exists_eq_append_slice (hle : s.start ≤ s.stop) (hw : s.stop ≤ w.length) :
    ∃ u v, u.length = s.start ∧ w = u ++ (s.slice w ++ v) := by
  refine ⟨w.take s.start, (w.drop s.start).drop s.length, ?_, ?_⟩
  · rw [List.length_take]
    omega
  · rw [Span.slice, List.take_append_drop, List.take_append_drop]

lemma shift_zero_length (hle : s.start ≤ s.stop) : (⟨0, s.length⟩ : Span).shift s.start = s := by
  simp [Span.shift, Span.length, hle]

end Reading

/-- **What a span stands for is settled within it.** A span of any text is cut as its own text is
cut when it stands alone, at the same places moved along. It stands for the same expression and the
same is wrong with it; and that is what is found by looking characters up in the whole text. -/
theorem read_local (w : List Char) (s : Span) (hle : s.start ≤ s.stop) (hw : s.stop ≤ w.length) :
    let text := s.slice w
    let alone := cut text ⟨0, s.length⟩
    cut w s = alone.shift s.start ∧ (cut w s).expr w = alone.expr text ∧
      (cut w s).diagnostics w = (alone.diagnostics text).map (.shift s.start) ∧
      read w s = .ok (alone.expr text, (alone.diagnostics text).map (.shift s.start)) := by
  intro text alone
  obtain ⟨u, v, hu, huv⟩ := exists_eq_append_slice hle hw
  have hstop : (⟨0, s.length⟩ : Span).stop ≤ text.length := (s.length_slice hw).ge
  have hcut := cut_shift u v hstop
  have houtcome := outcome_shift u v (Nat.zero_le s.length) hstop
  rw [hu, shift_zero_length hle, ← huv] at hcut houtcome
  obtain ⟨hexpr, hdiagnostics⟩ := Prod.mk.inj houtcome
  refine ⟨hcut, hexpr, hdiagnostics, ?_⟩
  rw [read_eq hle hw, houtcome]
  rfl

/-- The span holds `-sinz+co`. What stands before it would make the minus an operator, and the
letter behind it would make the end a name. -/
theorem read_local_between_names :
    let w := "c-sinz+cosz".toList
    1 ≤ 9 ∧ 9 ≤ w.length ∧ read w ⟨1, 9⟩ =
      .ok (.binary .add (.call .sin (.symbol .iterate)) (.raw "co"),
        [.unexpectedPrefix ⟨1, 2⟩ "-" .sin, .unrecognizedToken ⟨7, 9⟩ "co"]) := by
  intro w
  refine ⟨by decide, by decide, ?_⟩
  obtain ⟨-, -, -, hread⟩ := read_local w ⟨1, 9⟩ (by decide) (by decide)
  rw [hread]
  have htext : (⟨1, 9⟩ : Span).slice w = "-sinz+co".toList := rfl
  have hlength : (⟨1, 9⟩ : Span).length = 8 := rfl
  have hcut : cut "-sinz+co".toList ⟨0, 8⟩ =
      .binary ⟨0, 8⟩ 5 .add (.call ⟨0, 5⟩ 1 .sin (.leaf ⟨4, 5⟩)) (.leaf ⟨6, 8⟩) := by
    rw [cut_of_operator (show rootOperator? _ = some (5, .add) from rfl),
      cut_of_name rfl (show rootFunc? _ = some (1, .sin) from rfl),
      cut_of_leaf rfl rfl (by decide), cut_of_leaf rfl rfl (by decide)]
    rfl
  rw [htext, hlength, hcut]
  rfl

end InPlace

end EscapeTime
