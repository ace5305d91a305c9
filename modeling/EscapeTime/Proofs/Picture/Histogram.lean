import EscapeTime.Picture.Histogram
import Mathlib.Data.List.Induction
import Mathlib.Order.Bounds.Defs
import Mathlib.Tactic.Common

namespace EscapeTime

/-!
# The range of colours

A histogram is known from how many occurrences it counts of the values with a property, whatever the
property. So the running totals of a scan are numbers of cells: from the lowest value upwards the
cells up to a value, and from the highest downwards the cells from a value on. The lower bound is the
least value at which the first number reaches the threshold, the upper bound the greatest at which
the second does, among the cells that escape.
-/

namespace Histogram

/-! ### Occurrences -/

/-- The values that occur. -/
def values (h : Histogram) : List UInt32 := h.map (·.1)

/-- The occurrences of the values with a property. -/
def weight (p : UInt32 → Bool) : Histogram → Nat
  | [] => 0
  | (v, n) :: rest => (if p v then n else 0) + weight p rest

@[simp] lemma weight_nil (p : UInt32 → Bool) : weight p [] = 0 := rfl

@[simp] lemma weight_cons (p : UInt32 → Bool) (v : UInt32) (n : Nat) (h : Histogram) :
    weight p ((v, n) :: h) = (if p v then n else 0) + weight p h := rfl

lemma weight_append (p : UInt32 → Bool) (h h' : Histogram) :
    weight p (h ++ h') = weight p h + weight p h' := by
  induction h with
  | nil => simp
  | cons entry rest ih => rw [List.cons_append, weight, weight, ih, Nat.add_assoc]

lemma weight_reverse (p : UInt32 → Bool) (h : Histogram) : weight p h.reverse = weight p h := by
  induction h with
  | nil => rfl
  | cons entry rest ih =>
    obtain ⟨v, n⟩ := entry
    rw [List.reverse_cons, weight_append, ih, weight_cons, weight_cons, weight_nil]
    omega

lemma weight_eq_zero {p : UInt32 → Bool} {h : Histogram} (hnone : ∀ v ∈ h.values, p v = false) :
    weight p h = 0 := by
  induction h with
  | nil => rfl
  | cons entry rest ih =>
    obtain ⟨v, n⟩ := entry
    obtain ⟨hv, hrest⟩ := List.forall_mem_cons.1 hnone
    rw [weight_cons, if_neg (by simp [hv]), ih hrest]

lemma weight_filter (p q : UInt32 → Bool) (h : Histogram) :
    weight p (h.filter (q ·.1)) = weight (fun v => p v && q v) h := by
  induction h with
  | nil => rfl
  | cons entry rest ih =>
    obtain ⟨v, n⟩ := entry
    cases hq : q v with
    | false => simp [hq, ih]
    | true => simp [hq, ih]

lemma weight_bump (p : UInt32 → Bool) (v : UInt32) (h : Histogram) :
    weight p (bump v h) = weight p h + if p v then 1 else 0 := by
  induction h with
  | nil => simp [bump]
  | cons entry rest ih =>
    obtain ⟨w, n⟩ := entry
    unfold bump
    split_ifs with hlt heq hp
    all_goals simp_all
    all_goals omega

lemma ofList_concat (cells : List UInt32) (v : UInt32) :
    ofList (cells ++ [v]) = bump v (ofList cells) := by
  simp [ofList]

/-- What is counted are the cells. -/
lemma weight_ofList (p : UInt32 → Bool) (cells : List UInt32) :
    weight p (ofList cells) = cells.countP p := by
  induction cells using List.reverseRecOn with
  | nil => rfl
  | append_singleton cells v ih =>
    rw [ofList_concat, weight_bump, ih, List.countP_append, List.countP_singleton]

/-! ### The order of the values -/

lemma mem_values_bump {v w : UInt32} {h : Histogram} :
    w ∈ (bump v h).values ↔ w = v ∨ w ∈ h.values := by
  induction h with
  | nil => simp [bump, values]
  | cons entry rest ih =>
    simp only [values] at ih ⊢
    unfold bump
    split_ifs with hlt heq <;> grind

lemma mem_values_ofList {v : UInt32} {cells : List UInt32} :
    v ∈ (ofList cells).values ↔ v ∈ cells := by
  induction cells using List.reverseRecOn with
  | nil => rfl
  | append_singleton cells w ih =>
    rw [ofList_concat, mem_values_bump, ih, List.mem_append, List.mem_singleton, or_comm]

/-- Each value has one entry, and they ascend. -/
def Ascending (h : Histogram) : Prop := h.Pairwise fun a b => a.1 < b.1

lemma Ascending.bump {h : Histogram} (hasc : h.Ascending) (v : UInt32) :
    (bump v h).Ascending := by
  induction h with
  | nil => simp [Ascending, Histogram.bump]
  | cons entry rest ih =>
    obtain ⟨hfirst, hrest⟩ := List.pairwise_cons.1 hasc
    unfold Histogram.bump
    split_ifs with hlt heq
    · exact List.pairwise_cons.2 ⟨by grind, hasc⟩
    · exact List.pairwise_cons.2 ⟨hfirst, hrest⟩
    · refine List.pairwise_cons.2 ⟨fun e he => ?_, ih hrest⟩
      have hmem : e.1 = v ∨ e.1 ∈ values rest :=
        mem_values_bump.1 (List.mem_map.2 ⟨e, he, rfl⟩)
      rcases hmem with hv | hv
      · grind
      · obtain ⟨e', he', heq'⟩ := List.mem_map.1 hv
        exact heq' ▸ hfirst e' he'

lemma ascending_ofList (cells : List UInt32) : (ofList cells).Ascending := by
  induction cells using List.reverseRecOn with
  | nil => exact List.Pairwise.nil
  | append_singleton cells v ih =>
    rw [ofList_concat]
    exact ih.bump v

/-- Two values can be counted in either order. -/
lemma bump_comm (v w : UInt32) (h : Histogram) : bump v (bump w h) = bump w (bump v h) := by
  induction h with
  | nil => grind [bump]
  | cons entry rest ih => grind [bump]

lemma ofList_perm {cells cells' : List UInt32} (h : cells.Perm cells') :
    ofList cells = ofList cells' :=
  h.foldl_eq' (fun v _ w _ counts => bump_comm w v counts) []

/-! ### Where a scan stops -/

/-- A scan that does not reach the threshold has not enough occurrences in all. -/
lemma weight_lt_of_reach {threshold total : Nat} {h : Histogram} (hne : h ≠ [])
    (hnone : reach threshold total h = none) : total + weight (fun _ => true) h < threshold := by
  induction h generalizing total with
  | nil => exact absurd rfl hne
  | cons entry rest ih =>
    obtain ⟨v, n⟩ := entry
    simp only [reach] at hnone
    split_ifs at hnone with hle
    cases rest with
    | nil => simpa using hle
    | cons entry' rest' =>
      have htotal := ih (by simp) hnone
      rw [weight_cons, if_pos rfl]
      omega

/-- A scan stops at the first value, in the order in which it meets them, up to which there are
enough occurrences. -/
lemma reach_eq_some {r : UInt32 → UInt32 → Prop} [DecidableRel r] (hrefl : ∀ v, r v v)
    {threshold total : Nat} {h : Histogram} {v : UInt32}
    (hsorted : h.Pairwise fun a b => r a.1 b.1 ∧ ¬ r b.1 a.1)
    (hsome : reach threshold total h = some v) :
    v ∈ h.values ∧ threshold ≤ total + weight (r · v) h ∧
      ∀ w ∈ h.values, threshold ≤ total + weight (r · w) h → r v w := by
  induction h generalizing total with
  | nil => cases hsome
  | cons entry rest ih =>
    obtain ⟨u, n⟩ := entry
    obtain ⟨hfirst, hrest⟩ := List.pairwise_cons.1 hsorted
    have hlater : ∀ w ∈ values rest, r u w ∧ ¬ r w u := by
      intro w hw
      obtain ⟨e, he, rfl⟩ := List.mem_map.1 hw
      exact hfirst e he
    -- up to the first value there are its own occurrences and no others
    have hown : weight (r · u) rest = 0 := weight_eq_zero fun w hw => by simpa using (hlater w hw).2
    simp only [reach] at hsome
    split_ifs at hsome with hle
    · obtain rfl : u = v := Option.some.inj hsome
      refine ⟨by simp [values], by simp [hrefl]; omega, fun w hw _ => ?_⟩
      rcases List.mem_cons.1 hw with rfl | hw
      · exact hrefl w
      · exact (hlater w hw).1
    · obtain ⟨hv, hreach, hleast⟩ := ih hrest hsome
      refine ⟨List.mem_cons_of_mem u hv, ?_, fun w hw hw' => ?_⟩
      · rw [weight_cons, if_pos (by simpa using (hlater v hv).1)]
        omega
      · rcases List.mem_cons.1 hw with rfl | hw
        · rw [weight_cons, hown, if_pos (by simpa using hrefl w)] at hw'
          omega
        · rw [weight_cons, if_pos (by simpa using (hlater w hw).1)] at hw'
          exact hleast w hw (by omega)

lemma mem_values_filter {q : UInt32 → Bool} {v : UInt32} {h : Histogram} :
    v ∈ values (h.filter (q ·.1)) ↔ v ∈ h.values ∧ q v := by
  simp only [values, List.mem_map, List.mem_filter]
  grind

end Histogram

namespace Bounds

/-! ### The lower bound -/

/-- The value up to which there are `t` cells, and up to no smaller one. -/
def Lower (t : Nat) (cells : List UInt32) (v : UInt32) : Prop :=
  IsLeast {w | w ∈ cells ∧ t ≤ cells.countP (· ≤ w)} v

/-- No more cells are asked for than there are, so the scan reaches them. -/
lemma exists_lower {t : Nat} {cells : List UInt32} (hne : cells ≠ []) (ht : t ≤ cells.length) :
    ∃ v, (Histogram.ofList cells).reach t 0 = some v ∧ Lower t cells v := by
  have hcounts : Histogram.ofList cells ≠ [] := by
    obtain ⟨v, hv⟩ := List.exists_mem_of_ne_nil cells hne
    obtain ⟨entry, hentry, -⟩ := List.mem_map.1 (Histogram.mem_values_ofList.2 hv)
    exact List.ne_nil_of_mem hentry
  cases hreach : (Histogram.ofList cells).reach t 0 with
  | none =>
    have hfew := Histogram.weight_lt_of_reach hcounts hreach
    rw [Histogram.weight_ofList, List.countP_true] at hfew
    omega
  | some v =>
    have hsorted := (Histogram.ascending_ofList cells).imp
      (S := fun a b => a.1 ≤ b.1 ∧ ¬ b.1 ≤ a.1) fun h => by grind
    obtain ⟨hmem, hle, hleast⟩ := Histogram.reach_eq_some (r := (· ≤ ·))
      (fun _ => UInt32.le_rfl) hsorted hreach
    rw [Histogram.weight_ofList, Nat.zero_add] at hle
    refine ⟨v, rfl, ⟨Histogram.mem_values_ofList.1 hmem, hle⟩, fun w hw => ?_⟩
    refine hleast w (Histogram.mem_values_ofList.2 hw.1) ?_
    rw [Histogram.weight_ofList, Nat.zero_add]
    exact hw.2

/-! ### The upper bound -/

/-- The cells that escape. -/
def escaped (maxIterations : UInt32) (cells : List UInt32) : List UInt32 :=
  cells.filter (· != maxIterations)

/-- The value from which on there are `t` of the cells that escape, and from no greater one. If they
are too few for that it is the least of their values, and if there are none it is the lower bound. -/
inductive Upper (t : Nat) (least : UInt32) (cells : List UInt32) : UInt32 → Prop
  | reached {v : UInt32} (h : IsGreatest {w | w ∈ cells ∧ t ≤ cells.countP (w ≤ ·)} v) :
    Upper t least cells v
  | scarce {v : UInt32} (hfew : ∀ w ∈ cells, cells.countP (w ≤ ·) < t)
    (h : IsLeast {w | w ∈ cells} v) : Upper t least cells v
  | absent (h : cells = []) : Upper t least cells least

/-- The upper end of the colours, before it is compared with the lower one. -/
lemma upper_scan (t : Nat) (least maxIterations : UInt32) (cells : List UInt32) :
    let counts := (Histogram.ofList cells).filter (·.1 != maxIterations)
    Upper t least (escaped maxIterations cells)
      (((Histogram.reach t 0 counts.reverse).or (counts.head?.map (·.1))).getD least) := by
  intro counts
  have hasc : Histogram.Ascending counts :=
    (Histogram.ascending_ofList cells).sublist List.filter_sublist
  have hmem : ∀ {v}, v ∈ Histogram.values counts ↔ v ∈ escaped maxIterations cells := by
    intro v
    rw [Histogram.mem_values_filter (q := (· != maxIterations)), Histogram.mem_values_ofList,
      escaped, List.mem_filter]
  have hweight : ∀ p, Histogram.weight p counts = (escaped maxIterations cells).countP p := by
    intro p
    rw [Histogram.weight_filter p (· != maxIterations), Histogram.weight_ofList, escaped,
      List.countP_filter]
  cases hreach : Histogram.reach t 0 counts.reverse with
  | some v =>
    have hsorted : counts.reverse.Pairwise fun a b => b.1 ≤ a.1 ∧ ¬ a.1 ≤ b.1 :=
      List.pairwise_reverse.2 (hasc.imp fun h => by grind)
    obtain ⟨hv, hle, hgreatest⟩ := Histogram.reach_eq_some (r := fun a b => b ≤ a)
      (fun _ => UInt32.le_rfl) hsorted hreach
    simp only [Histogram.weight_reverse, hweight, Nat.zero_add] at hle hgreatest
    have hvalues : ∀ {w}, w ∈ Histogram.values counts.reverse ↔ w ∈ escaped maxIterations cells := by
      intro w
      rw [← hmem, Histogram.values, List.map_reverse, List.mem_reverse, Histogram.values]
    exact .reached ⟨⟨hvalues.1 hv, hle⟩, fun w hw => hgreatest w (hvalues.2 hw.1) hw.2⟩
  | none =>
    cases hcounts : counts with
    | nil =>
      refine .absent (List.eq_nil_iff_forall_not_mem.2 fun v hv => ?_)
      simpa [hcounts, Histogram.values] using hmem.2 hv
    | cons entry rest =>
      have hfew := Histogram.weight_lt_of_reach (by simp [hcounts]) hreach
      rw [Histogram.weight_reverse, hweight, List.countP_true, Nat.zero_add] at hfew
      refine .scarce (fun w _ => Nat.lt_of_le_of_lt List.countP_le_length hfew) ⟨?_, fun w hw => ?_⟩
      · exact hmem.1 (by simp [hcounts, Histogram.values])
      · rw [hcounts] at hasc
        have hw' := hmem.2 hw
        rw [hcounts] at hw'
        obtain ⟨e, he, rfl⟩ := List.mem_map.1 hw'
        rcases List.mem_cons.1 he with rfl | he
        · exact UInt32.le_rfl
        · exact UInt32.le_of_lt ((List.pairwise_cons.1 hasc).1 e he)

/-! ### Both bounds -/

/-- The bounds that belong to the cells of a grid. -/
structure Spread (cells : List UInt32) (maxIterations : UInt32) (b : Bounds) : Prop where
  lower : Lower (cells.length / 100) cells b.min
  upper : ∃ m, Upper (cells.length / 100) b.min (escaped maxIterations cells) m ∧
    b.max = Max.max b.min m

lemma raise_eq_max (least m : UInt32) : (if m < least then least else m) = Max.max least m := by
  change _ = if least ≤ m then m else least
  grind

lemma exists_spread {g : Grid UInt32} (hne : g.toList ≠ []) (maxIterations : UInt32) :
    ∃ b, ofGrid g maxIterations = .ok b ∧ Spread g.toList maxIterations b := by
  have hsize : threshold g = g.toList.length / 100 := by simp [threshold, Grid.toList]
  obtain ⟨least, hreach, hlower⟩ :=
    exists_lower hne (Nat.div_le_self g.toList.length 100)
  have hupper := upper_scan (g.toList.length / 100) least maxIterations g.toList
  simp only [ofGrid, hsize, hreach, Option.some_or]
  exact ⟨_, rfl, hlower, _, hupper, raise_eq_max _ _⟩

/-- Where the cells lie does not matter. -/
lemma ofGrid_perm {g g' : Grid UInt32} (h : g'.toList.Perm g.toList) (maxIterations : UInt32) :
    ofGrid g' maxIterations = ofGrid g maxIterations := by
  have hsize : threshold g' = threshold g := by
    have hlength := h.length_eq
    simp only [Grid.toList, Vector.length_toList] at hlength
    simp [threshold, Vector.size, hlength]
  rw [ofGrid, ofGrid, Histogram.ofList_perm h, hsize]

/-! ### The cells outside -/

/-- Fewer than `t`, and none if `t` is zero. -/
def Few (t n : Nat) : Prop := n < t ∨ t = 0 ∧ n = 0

lemma exists_last {r : UInt32 → UInt32 → Prop} (htrans : ∀ u v w, r u v → r v w → r u w)
    (htotal : ∀ v w, r v w ∨ r w v) {cells : List UInt32} (hne : cells ≠ []) :
    ∃ w ∈ cells, ∀ v ∈ cells, r v w := by
  induction cells with
  | nil => exact absurd rfl hne
  | cons u rest ih =>
    have hself : r u u := (htotal u u).elim id id
    cases rest with
    | nil => exact ⟨u, by simp, by simpa using hself⟩
    | cons u' rest' =>
      obtain ⟨w, hw, hlast⟩ := ih (by simp)
      rcases htotal u w with huw | hwu
      · exact ⟨w, List.mem_cons_of_mem u hw, List.forall_mem_cons.2 ⟨huw, hlast⟩⟩
      · exact ⟨u, List.mem_cons_self, List.forall_mem_cons.2
          ⟨hself, fun v hv => htrans v w u (hlast v hv) hwu⟩⟩

/-- If up to no cell before `b` there are `t` cells, there are few before `b` in all. -/
lemma few_before {r : UInt32 → UInt32 → Prop} [DecidableRel r]
    (htrans : ∀ u v w, r u v → r v w → r u w) (htotal : ∀ v w, r v w ∨ r w v)
    {t : Nat} {cells : List UInt32} {b : UInt32}
    (h : ∀ w ∈ cells, ¬ r b w → cells.countP (r · w) < t) :
    Few t (cells.countP fun v => ¬ r b v) := by
  by_cases hnone : cells.filter (fun v => ¬ r b v) = []
  · have hzero : cells.countP (fun v => ¬ r b v) = 0 := by
      rw [List.countP_eq_length_filter, hnone, List.length_nil]
    unfold Few
    omega
  · obtain ⟨w, hw, hlast⟩ := exists_last htrans htotal hnone
    obtain ⟨hmem, hbefore⟩ := List.mem_filter.1 hw
    have hbefore : ¬ r b w := by simpa using hbefore
    -- the cells before `b` are those up to the last of them
    have hsame : cells.countP (fun v => ¬ r b v) = cells.countP (r · w) := by
      refine List.countP_congr fun v hv => ?_
      simp only [decide_eq_true_eq]
      refine ⟨fun hvb => hlast v (List.mem_filter.2 ⟨hv, by simpa using hvb⟩), fun hvw hbv => ?_⟩
      exact hbefore (htrans b v w hbv hvw)
    rw [hsame]
    exact .inl (h w hmem hbefore)

namespace Spread

variable {cells : List UInt32} {maxIterations : UInt32} {b : Bounds}

lemma min_le_max (h : Spread cells maxIterations b) : b.min ≤ b.max := by
  obtain ⟨m, -, hmax⟩ := h.upper
  rw [hmax, ← raise_eq_max]
  grind

lemma min_mem (h : Spread cells maxIterations b) : b.min ∈ cells := h.lower.1.1

lemma max_mem (h : Spread cells maxIterations b) : b.max ∈ cells := by
  obtain ⟨m, hm, hmax⟩ := h.upper
  have hmem : m ∈ cells := by
    cases hm with
    | reached hm => exact (List.mem_filter.1 hm.1.1).1
    | scarce _ hm => exact (List.mem_filter.1 hm.1).1
    | absent => exact h.min_mem
  rw [hmax, ← raise_eq_max]
  split
  · exact h.min_mem
  · exact hmem

/-- Few cells lie below the lower bound. -/
lemma few_below (h : Spread cells maxIterations b) :
    Few (cells.length / 100) (cells.countP (· < b.min)) := by
  have hshort : ∀ w ∈ cells, ¬ b.min ≤ w → cells.countP (· ≤ w) < cells.length / 100 :=
    fun w hw hbelow => Nat.lt_of_not_le fun hle => hbelow (h.lower.2 ⟨hw, hle⟩)
  have hfew := few_before (r := (· ≤ ·)) (fun _ _ _ => UInt32.le_trans) UInt32.le_total hshort
  simpa only [UInt32.not_le] using hfew

/-- Few of the cells that escape lie above the upper bound. -/
lemma few_above (h : Spread cells maxIterations b) :
    Few (cells.length / 100) ((escaped maxIterations cells).countP (b.max < ·)) := by
  obtain ⟨m, hm, hmax⟩ := h.upper
  have hle : m ≤ b.max := by
    rw [hmax, ← raise_eq_max]
    grind
  have hshort : ∀ w ∈ escaped maxIterations cells, ¬ w ≤ b.max →
      (escaped maxIterations cells).countP (w ≤ ·) < cells.length / 100 := by
    intro w hw habove
    cases hm with
    | reached hm =>
      exact Nat.lt_of_not_le fun hreach => habove (UInt32.le_trans (hm.2 ⟨hw, hreach⟩) hle)
    | scarce hfew => exact hfew w hw
    | absent hnone => simp [hnone] at hw
  have hfew := few_before (r := fun v w => w ≤ v) (fun _ _ _ huv hvw => UInt32.le_trans hvw huv)
    (fun v w => UInt32.le_total w v) hshort
  simpa only [UInt32.not_le] using hfew

end Spread

/-- **The bounds are what they are meant to be.** Every grid with a cell has them. The lower one is the
least value up to which there is a hundredth of the cells. The upper one is the greatest value from
which on there are that many cells that escape, or what stands in for it, raised to the lower one if
need be. Both are values of the grid, few cells lie outside, and how the cells are arranged does not
matter. -/
theorem ofGrid_spread (g : Grid UInt32) (maxIterations : UInt32) (hcells : 0 < g.height * g.width) :
    ∃ b m, ofGrid g maxIterations = .ok b ∧
      Lower (g.height * g.width / 100) g.toList b.min ∧
      Upper (g.height * g.width / 100) b.min (escaped maxIterations g.toList) m ∧
      b.max = Max.max b.min m ∧
      b.min ≤ b.max ∧ b.min ∈ g.toList ∧ b.max ∈ g.toList ∧
      Few (g.height * g.width / 100) (g.toList.countP (· < b.min)) ∧
      Few (g.height * g.width / 100) ((escaped maxIterations g.toList).countP (b.max < ·)) ∧
      ∀ g' : Grid UInt32, g'.toList.Perm g.toList → ofGrid g' maxIterations = .ok b := by
  have hlength : g.toList.length = g.height * g.width := by simp [Grid.toList]
  obtain ⟨b, hb, hspread⟩ :=
    exists_spread (List.ne_nil_of_length_pos (hlength ▸ hcells)) maxIterations
  obtain ⟨m, hm, hmax⟩ := hspread.upper
  rw [← hlength]
  exact ⟨b, m, hb, hspread.lower, hm, hmax, hspread.min_le_max, hspread.min_mem, hspread.max_mem,
    hspread.few_below, hspread.few_above, fun g' hperm => (ofGrid_perm hperm maxIterations).trans hb⟩

/-- Two cells are a hundredth of two hundred: with one cell each at 1, 2, 40 and 50 and all others at
10, the colours run from 2 to 40. -/
theorem ofGrid_spread_outliers :
    let g := ((((Grid.replicate 5 40 10).set 0 0 1).set 1 7 2).set 2 20 40).set 4 39 50
    0 < g.height * g.width ∧ ofGrid g 100 = .ok ⟨2, 40⟩ ∧ Lower 2 g.toList 2 ∧
      Upper 2 2 (escaped 100 g.toList) 40 ∧ Few 2 (g.toList.countP (· < 2)) ∧
      Few 2 ((escaped 100 g.toList).countP (40 < ·)) := by
  intro g
  have hcells : 0 < g.height * g.width := by decide
  have hthreshold : g.height * g.width / 100 = 2 := by decide
  have hvalue : (ofGrid g 100).toOption = some ⟨2, 40⟩ := by decide +kernel
  obtain ⟨b, m, hb, hlower, hupper, hmax, -, -, -, hbelow, habove, -⟩ := ofGrid_spread g 100 hcells
  obtain rfl : b = ⟨2, 40⟩ := by simpa [hb, Except.toOption] using hvalue
  rw [hthreshold] at hlower hupper hbelow habove
  have hm : m = 40 := by
    rw [← raise_eq_max] at hmax
    grind
  exact ⟨hcells, hb, hlower, hm ▸ hupper, hbelow, habove⟩

end Bounds

end EscapeTime
