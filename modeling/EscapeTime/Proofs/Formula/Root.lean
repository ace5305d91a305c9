import EscapeTime.Proofs.Formula.Layout
import Mathlib.Order.Bounds.Basic

namespace EscapeTime

/-!
# Where a span is cut

The cut of a span is described by the positions of the whole text, with no word about how they are
searched. The brackets of the text need not match: a position counts when as many of them have been
closed as opened since the start of the span, even if more had been closed in between. Of the
operators at such positions the span is cut at the last among those that bind most loosely. A span
with no such operator is cut behind the last place of the first function that has one.
-/

namespace Formula

/-- Between the start of the span and the position as many brackets are closed as opened. -/
def Level (w : List Char) (s : Span) (j : Nat) : Prop :=
  let before := (⟨s.start, j⟩ : Span).slice w
  before.count '(' = before.count ')'

/-- The character at the position is the sign of an operand: a minus at the start of the span, or
behind an opening bracket or another operator. -/
def SignAt (w : List Char) (s : Span) (j : Nat) : Prop :=
  w[j]? = some '-' ∧ (j = s.start ∨ ∃ c ∈ ['(', '+', '*', '/', '^'], w[j - 1]? = some c)

/-- The positions in the span at which an operator of precedence `t` stands outside all brackets. -/
def operatorPlaces (w : List Char) (s : Span) (t : Nat) : Set Nat :=
  {j | s.start ≤ j ∧ j < s.stop ∧ (∃ op : Operator, w[j]? = some op.symbol ∧ op.precedence = t) ∧
    Level w s j ∧ ¬ SignAt w s j}

/-- The positions in the span at which the name of a function stands outside all brackets. -/
def namePlaces (w : List Char) (s : Span) (f : Func) : Set Nat :=
  {j | s.start ≤ j ∧ j + f.letters.length ≤ s.stop ∧ f.letters <+: w.drop j ∧ Level w s j}

/-! ### The span's own text -/

section Slice

variable {w : List Char} {s : Span} {k : Nat}

lemma getElem?_slice (w : List Char) (s : Span) (k : Nat) :
    (s.slice w)[k]? = if s.start + k < s.stop then w[s.start + k]? else none := by
  unfold Span.slice
  rw [List.getElem?_take, List.getElem?_drop]
  unfold Span.length
  split_ifs <;> first | rfl | omega

lemma level_iff (hk : s.start + k ≤ s.stop) :
    Level w s (s.start + k) ↔ depth ((s.slice w).take k) = 0 := by
  unfold Level
  rw [depth_eq_zero_iff, ← Span.slice_take w s (by unfold Span.length; omega)]

/-- The character before a place in the span's text is the one before it in the whole text, unless
the place is the first. -/
lemma startsOperand_slice_iff (hk : s.start + k ≤ s.stop) (hw : s.start + k ≤ w.length) :
    startsOperand ((s.slice w).take k).getLast? = true ↔
      s.start + k = s.start ∨ ∃ c ∈ ['(', '+', '*', '/', '^'], w[s.start + k - 1]? = some c := by
  cases k with
  | zero => simp [startsOperand]
  | succ k =>
    have hchar : w[s.start + k]? = some w[s.start + k] := List.getElem?_eq_getElem (by omega)
    have hlast : ((s.slice w).take (k + 1)).getLast? = some w[s.start + k] := by
      rw [List.getLast?_take, if_neg (by omega), Nat.add_sub_cancel, getElem?_slice,
        if_pos (by omega), hchar, Option.some_or]
    have hne : s.start + k + 1 ≠ s.start := by omega
    rw [hlast, ← Nat.add_assoc, Nat.add_sub_cancel, hchar]
    simp [startsOperand, hne]

end Slice

lemma operatorAt_iff {cs : List Char} {k : Nat} {op : Operator} :
    OperatorAt cs k op ↔ cs[k]? = some op.symbol ∧ depth (cs.take k) = 0 ∧
      (op = .sub → startsOperand (cs.take k).getLast? = false) := by
  constructor
  · rintro ⟨u, v, rfl, rfl, hu, hs⟩
    rw [List.take_left]
    exact ⟨by simp, hu, hs⟩
  · rintro ⟨hop, hlevel, hs⟩
    obtain ⟨hk, hop⟩ := List.getElem?_eq_some_iff.1 hop
    refine ⟨cs.take k, cs.drop (k + 1), ?_, List.length_take_of_le hk.le, hlevel, hs⟩
    rw [← hop, List.getElem_cons_drop, List.take_append_drop]

/-- An operator of the span's text stands at a position of the whole text. -/
lemma operatorAt_slice_iff {w : List Char} {s : Span} {k : Nat} {op : Operator} :
    OperatorAt (s.slice w) k op ↔ s.start + k < s.stop ∧ w[s.start + k]? = some op.symbol ∧
      Level w s (s.start + k) ∧ ¬ SignAt w s (s.start + k) := by
  rw [operatorAt_iff, getElem?_slice]
  by_cases hk : s.start + k < s.stop
  swap
  · simp [hk]
  rw [if_pos hk, level_iff hk.le]
  simp only [hk, true_and]
  refine and_congr_right fun hop => and_congr_right fun _ => ?_
  have hw : s.start + k < w.length := (List.getElem?_eq_some_iff.1 hop).1
  unfold SignAt
  rw [hop, Option.some.injEq, symbol_eq_minus_iff, ← startsOperand_slice_iff hk.le hw.le, not_and,
    Bool.not_eq_true]

lemma mem_operatorPlaces_iff {w : List Char} {s : Span} {t j : Nat} :
    j ∈ operatorPlaces w s t ↔
      ∃ k op, j = s.start + k ∧ OperatorAt (s.slice w) k op ∧ op.precedence = t := by
  constructor
  · rintro ⟨hstart, hstop, ⟨op, hop, hprec⟩, hlevel, hsign⟩
    obtain ⟨k, rfl⟩ := Nat.exists_eq_add_of_le hstart
    exact ⟨k, op, rfl, operatorAt_slice_iff.2 ⟨hstop, hop, hlevel, hsign⟩, hprec⟩
  · rintro ⟨k, op, rfl, h, hprec⟩
    obtain ⟨hstop, hop, hlevel, hsign⟩ := operatorAt_slice_iff.1 h
    exact ⟨by omega, hstop, ⟨op, hop, hprec⟩, hlevel, hsign⟩

lemma nameAt_iff {cs : List Char} {k : Nat} {f : Func} :
    NameAt cs k f ↔ f.letters <+: cs.drop k ∧ depth (cs.take k) = 0 := by
  constructor
  · rintro ⟨u, v, rfl, rfl, hu⟩
    rw [List.drop_left, List.take_left]
    exact ⟨List.prefix_append _ _, hu⟩
  · rintro ⟨⟨v, hv⟩, hlevel⟩
    have hk : k ≤ cs.length := by
      have hlength := congrArg List.length hv
      rw [List.length_append, List.length_drop] at hlength
      have := letters_length_pos f
      omega
    exact ⟨cs.take k, v, by rw [hv, List.take_append_drop], List.length_take_of_le hk, hlevel⟩

/-- A name of the span's text stands at a position of the whole text. -/
lemma nameAt_slice_iff {w : List Char} {s : Span} {k : Nat} {f : Func} :
    NameAt (s.slice w) k f ↔ s.start + k + f.letters.length ≤ s.stop ∧
      f.letters <+: w.drop (s.start + k) ∧ Level w s (s.start + k) := by
  have hpos := letters_length_pos f
  have hprefix : f.letters <+: (s.slice w).drop k ↔
      s.start + k + f.letters.length ≤ s.stop ∧ f.letters <+: w.drop (s.start + k) := by
    rw [← Span.slice_drop]
    simp only [Span.slice, Span.length, List.prefix_take_iff]
    rw [and_comm]
    exact and_congr_left fun _ => by omega
  rw [nameAt_iff, hprefix, and_assoc]
  refine and_congr_right fun hstop => and_congr_right fun _ => ?_
  rw [level_iff (by omega)]

lemma mem_namePlaces_iff {w : List Char} {s : Span} {f : Func} {j : Nat} :
    j ∈ namePlaces w s f ↔ ∃ k, j = s.start + k ∧ NameAt (s.slice w) k f := by
  constructor
  · rintro ⟨hstart, h⟩
    obtain ⟨k, rfl⟩ := Nat.exists_eq_add_of_le hstart
    exact ⟨k, rfl, nameAt_slice_iff.2 h⟩
  · rintro ⟨k, rfl, h⟩
    exact ⟨by omega, nameAt_slice_iff.1 h⟩

/-! ### The cut -/

section Root

variable {w : List Char} {s : Span} {k : Nat}

lemma RootOperator.isLeast {op : Operator} (h : RootOperator (s.slice w) k op) :
    IsLeast {t | (operatorPlaces w s t).Nonempty} op.precedence := by
  refine ⟨⟨_, mem_operatorPlaces_iff.2 ⟨k, op, rfl, h.stands, rfl⟩⟩, ?_⟩
  rintro t ⟨j, hj⟩
  obtain ⟨i, op', -, hop', rfl⟩ := mem_operatorPlaces_iff.1 hj
  exact h.loosest i op' hop'

lemma RootOperator.isGreatest {op : Operator} (h : RootOperator (s.slice w) k op) :
    IsGreatest (operatorPlaces w s op.precedence) (s.start + k) := by
  refine ⟨mem_operatorPlaces_iff.2 ⟨k, op, rfl, h.stands, rfl⟩, ?_⟩
  intro j hj
  obtain ⟨i, op', rfl, hop', hprec⟩ := mem_operatorPlaces_iff.1 hj
  have := h.last i op' hop' hprec
  omega

lemma RootName.rank_le {f : Func} (h : RootName (s.slice w) k f) {g : Func}
    (hg : (namePlaces w s g).Nonempty) : f.rank ≤ g.rank := by
  obtain ⟨j, hj⟩ := hg
  obtain ⟨i, -, hname⟩ := mem_namePlaces_iff.1 hj
  exact h.first i g hname

lemma RootName.isGreatest {f : Func} (h : RootName (s.slice w) k f) :
    IsGreatest (namePlaces w s f) (s.start + k) := by
  refine ⟨mem_namePlaces_iff.2 ⟨k, rfl, h.stands⟩, ?_⟩
  intro j hj
  obtain ⟨i, rfl, hname⟩ := mem_namePlaces_iff.1 hj
  have := h.last i hname
  omega

/-- A span is cut at an operator if any stands in it outside all brackets. -/
lemma exists_rootOperator (h : ∃ t, (operatorPlaces w s t).Nonempty) :
    ∃ k op, rootOperator? (s.slice w) = some (k, op) := by
  obtain ⟨t, j, hj⟩ := h
  obtain ⟨i, op, -, hop, -⟩ := mem_operatorPlaces_iff.1 hj
  cases hroot : rootOperator? (s.slice w) with
  | none => exact absurd hop (rootOperator?_eq_none_iff.1 hroot i op)
  | some r => exact ⟨r.1, r.2, rfl⟩

lemma rootOperator?_eq_none_of_places (h : ∀ t, operatorPlaces w s t = ∅) :
    rootOperator? (s.slice w) = none := by
  refine rootOperator?_eq_none_iff.2 fun i op hop => ?_
  have hmem : s.start + i ∈ operatorPlaces w s op.precedence :=
    mem_operatorPlaces_iff.2 ⟨i, op, rfl, hop, rfl⟩
  rw [h] at hmem
  exact hmem

/-- A function is called if the name of any stands in the span outside all brackets. -/
lemma exists_rootFunc (h : ∃ f, (namePlaces w s f).Nonempty) :
    ∃ k f, rootFunc? (s.slice w) = some (k, f) := by
  obtain ⟨f, j, hj⟩ := h
  obtain ⟨i, -, hname⟩ := mem_namePlaces_iff.1 hj
  cases hroot : rootFunc? (s.slice w) with
  | none => exact absurd hname (rootFunc?_eq_none_iff.1 hroot i f)
  | some r => exact ⟨r.1, r.2, rfl⟩

end Root

end Formula

namespace SyntaxTree

open Formula

/-- **The root of a span of any text.** If an operator stands in the span outside all brackets, then
for the least precedence that has one and its last position the span stands for the operation on
what is before and what is behind. If there is none but the name of a function stands there, then
for the first such function in their order and its last position the span stands for the call on what
is behind the name. -/
theorem expr_cut_at_root (w : List Char) (s : Span) :
    ((∃ t, (operatorPlaces w s t).Nonempty) → ∃ t p op,
      IsLeast {t | (operatorPlaces w s t).Nonempty} t ∧ IsGreatest (operatorPlaces w s t) p ∧
        w[p]? = some op.symbol ∧
        (cut w s).expr w =
          .binary op ((cut w ⟨s.start, p⟩).expr w) ((cut w ⟨p + 1, s.stop⟩).expr w)) ∧
    ((∀ t, operatorPlaces w s t = ∅) → (∃ f, (namePlaces w s f).Nonempty) → ∃ f p,
      (∀ g, (namePlaces w s g).Nonempty → f.rank ≤ g.rank) ∧ IsGreatest (namePlaces w s f) p ∧
        (cut w s).expr w = .call f ((cut w ⟨p + f.letters.length, s.stop⟩).expr w)) := by
  refine ⟨fun hplaces => ?_, fun hnone hplaces => ?_⟩
  · obtain ⟨k, op, hroot⟩ := exists_rootOperator hplaces
    have h := rootOperator?_eq_some_iff.1 hroot
    refine ⟨op.precedence, s.start + k, op, h.isLeast, h.isGreatest, ?_, ?_⟩
    · exact (operatorAt_slice_iff.1 h.stands).2.1
    · rw [cut_of_operator hroot, expr]
  · obtain ⟨k, f, hroot⟩ := exists_rootFunc hplaces
    have h := rootFunc?_eq_some_iff.1 hroot
    refine ⟨f, s.start + k, fun g hg => h.rank_le hg, h.isGreatest, ?_⟩
    rw [cut_of_name (rootOperator?_eq_none_of_places hnone) hroot, expr]

/-- Two texts whose brackets do not match. The plus stands behind as many closed brackets as opened
ones, the product does not; so do the first and the last name, but not the one between them. -/
theorem expr_cut_at_root_unmatched :
    let w := ")z*i(-c+2".toList
    let v := "sin)cos(sinz".toList
    (cut w ⟨0, 9⟩).expr w = .binary .add ((cut w ⟨0, 7⟩).expr w) ((cut w ⟨8, 9⟩).expr w) ∧
      (cut v ⟨0, 12⟩).expr v = .call .sin ((cut v ⟨11, 12⟩).expr v) := by
  intro w v
  constructor
  · have hplus : 7 ∈ operatorPlaces w ⟨0, 9⟩ 1 :=
      ⟨by decide, by decide, ⟨.add, rfl, rfl⟩, rfl, fun h => absurd h.1 (by decide)⟩
    obtain ⟨t, p, op, ht, hp, hop, hcut⟩ := (expr_cut_at_root w ⟨0, 9⟩).1 ⟨1, 7, hplus⟩
    obtain ⟨-, hstop, ⟨op', -, rfl⟩, -⟩ := hp.1
    have hloosest : op'.precedence = 1 := by
      have := ht.2 ⟨7, hplus⟩
      cases op' <;> simp_all [Operator.precedence]
    rw [hloosest] at hp
    have hlast : 7 ≤ p := hp.2 hplus
    obtain rfl | rfl : p = 7 ∨ p = 8 := by simp only at hstop; omega
    · obtain rfl : op = .add := symbol_injective (Option.some.inj hop).symm
      exact hcut
    · cases op <;> simp [w, Operator.symbol] at hop
  · have hnone : ∀ t, operatorPlaces v ⟨0, 12⟩ t = ∅ := by
      intro t
      refine Set.eq_empty_iff_forall_notMem.2 fun j hj => ?_
      obtain ⟨-, -, ⟨op, hop, -⟩, -⟩ := hj
      have hmem := List.mem_of_getElem? hop
      cases op <;> simp [v, Operator.symbol] at hmem
    have hname : 8 ∈ namePlaces v ⟨0, 12⟩ .sin := ⟨by decide, by decide, ⟨['z'], rfl⟩, rfl⟩
    obtain ⟨f, p, hfirst, hp, hcut⟩ := (expr_cut_at_root v ⟨0, 12⟩).2 hnone ⟨.sin, 8, hname⟩
    have hrank := hfirst .sin ⟨8, hname⟩
    have hletters : f.letters ⊆ v := fun c hc => List.mem_of_mem_drop (hp.1.2.2.1.subset hc)
    obtain rfl : f = .sin := by
      revert hrank hletters
      cases f <;> decide
    have hlast : 8 ≤ p := hp.2 hname
    have hstop : p + 3 ≤ 12 := hp.1.2.1
    obtain rfl | rfl : p = 8 ∨ p = 9 := by omega
    · exact hcut
    · exact absurd hp.1.2.2.1 (by decide)

end SyntaxTree

end EscapeTime
