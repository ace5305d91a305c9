import EscapeTime.Proofs.Plane.Workers
import Mathlib.Logic.Function.Iterate
import Mathlib.Order.Bounds.Basic

namespace EscapeTime

/-!
# The first escape, and how long it is waited for

The count of an orbit is the number of the first iterate whose successor has escaped, or the limit
where none escapes before it. This says all about a count: there is one number at most of which it
holds. So a run with a lower limit finds the same escape if it comes in time, and stops at its own
limit if not. Over a whole picture, a higher limit changes only the cells that held the old one.
-/

/-! ### First escapes -/

/-- The number of the first escape, or the limit if there is none below it. -/
structure FirstEscape (escapes : Nat → Prop) (limit n : Nat) : Prop where
  le : n ≤ limit
  stays : ∀ k < n, ¬ escapes k
  leaves : n < limit → escapes n

namespace FirstEscape

variable {escapes : Nat → Prop} {limit limit' m n : Nat}

lemma not_lt (hm : FirstEscape escapes limit m) (hn : FirstEscape escapes limit n) : ¬ m < n := by
  intro hlt
  have hle := hn.le
  exact hn.stays m hlt (hm.leaves (by omega))

lemma unique (hm : FirstEscape escapes limit m) (hn : FirstEscape escapes limit n) : m = n := by
  have hmn := hm.not_lt hn
  have hnm := hn.not_lt hm
  omega

/-- With a lower limit the first escape is the same, or comes too late. -/
lemma cut (h : FirstEscape escapes limit' n) (hle : limit ≤ limit') :
    FirstEscape escapes limit (min limit n) where
  le := Nat.min_le_left _ _
  stays k hk := h.stays k (by omega)
  leaves hlt := by
    rw [Nat.min_eq_right (by omega)]
    exact h.leaves (by omega)

lemma isLeast (h : FirstEscape escapes limit n) (hex : ∃ k < limit, escapes k) :
    IsLeast {k | k < limit ∧ escapes k} n := by
  obtain ⟨k, hk, hesc⟩ := hex
  have hlower : ∀ j, escapes j → n ≤ j := fun j hj => Nat.le_of_not_lt fun hlt => h.stays j hlt hj
  have hlt : n < limit := Nat.lt_of_le_of_lt (hlower k hesc) hk
  exact ⟨⟨hlt, h.leaves hlt⟩, fun j hj => hlower j hj.2⟩

lemma eq_limit (h : FirstEscape escapes limit n) (hnone : ¬ ∃ k < limit, escapes k) : n = limit := by
  by_contra hne
  have hlt : n < limit := Nat.lt_of_le_of_ne h.le hne
  exact hnone ⟨n, hlt, h.leaves hlt⟩

end FirstEscape

/-! ### One orbit -/

namespace Evaluator

/-- On the orbit from `z`, the iterate after the `n`-th lies outside the disc or is not a number. -/
def EscapesAt (p : Primitives) (e : Evaluator) (z c : Complex) (radius : Float) (n : Nat) : Prop :=
  radius * radius < ((fun z => e.eval p z c)^[n + 1] z).normSq ∨
    ((fun z => e.eval p z c)^[n + 1] z).normSq.isNaN

variable {p : Primitives} {e : Evaluator} {c : Complex}

lemma getElem?_orbit {n k : Nat} (h : k < n) (z : Complex) :
    (e.orbit p c n z)[k]? = some ((fun z => e.eval p z c)^[k + 1] z) := by
  induction n generalizing k z with
  | zero => omega
  | succ n ih =>
    cases k with
    | zero => rfl
    | succ k =>
      rw [orbit, List.getElem?_cons_succ, ih (by omega)]
      rfl

lemma hasEscaped_orbit {n k : Nat} (z : Complex) (radius : Float)
    (h : k < (e.orbit p c n z).length) :
    hasEscaped (radius * radius) (e.orbit p c n z)[k] = true ↔ e.EscapesAt p z c radius k := by
  have hlt : k < n := by rwa [length_orbit] at h
  have hiterate := getElem?_orbit (p := p) (e := e) (c := c) hlt z
  rw [List.getElem?_eq_getElem h, Option.some.injEq] at hiterate
  rw [hiterate, EscapesAt, hasEscaped, Bool.or_eq_true, decide_eq_true_eq]

/-- The count is that of the first escape, whatever the buffer held. -/
theorem firstEscape_escapeCount (buffer : Array Complex) (z c : Complex) (limit : UInt32)
    (radius : Float) :
    FirstEscape (e.EscapesAt p z c radius) limit.toNat
      (e.escapeCount p buffer z c limit radius).toNat := by
  have hlength : (e.orbit p c limit.toNat z).length = limit.toNat := length_orbit _ z
  rw [escapeCount, toNat_escapeWith]
  refine ⟨?_, fun k hk => ?_, fun hlt => ?_⟩
  · exact Nat.le_trans List.findIdx_le_length (Nat.le_of_eq hlength)
  · have hplace : k < (e.orbit p c limit.toNat z).length :=
      Nat.lt_of_lt_of_le hk List.findIdx_le_length
    rw [← hasEscaped_orbit z radius hplace, List.not_of_lt_findIdx hk]
    exact Bool.false_ne_true
  · rw [← hasEscaped_orbit z radius (Nat.lt_of_lt_of_eq hlt hlength.symm)]
    exact List.findIdx_getElem

lemma toNat_escapeCount_cut (buffer buffer' : Array Complex) (z c : Complex) {limit limit' : UInt32}
    (hle : limit ≤ limit') (radius : Float) :
    (e.escapeCount p buffer z c limit radius).toNat =
      min limit.toNat (e.escapeCount p buffer' z c limit' radius).toNat :=
  (firstEscape_escapeCount buffer z c limit radius).unique
    ((firstEscape_escapeCount buffer' z c limit' radius).cut (UInt32.le_iff_toNat_le.1 hle))

end Evaluator

/-! ### A whole picture -/

namespace Engine

variable {p : Primitives} {e : Evaluator}

/-- What a cell holds under a limit and under a higher one. -/
structure Raised (limit limit' n n' : UInt32) : Prop where
  le : n ≤ limit
  le' : n' ≤ limit'
  cut : n.toNat = min limit.toNat n'.toNat
  same : n ≠ limit → n' = n

lemma raised_of_cut {limit limit' n n' : UInt32} (hle : n' ≤ limit')
    (hcut : n.toNat = min limit.toNat n'.toNat) : Raised limit limit' n n' where
  le := UInt32.le_iff_toNat_le.2 (by omega)
  le' := hle
  cut := hcut
  same hne := by
    rw [Ne, ← UInt32.toNat_inj] at hne
    exact UInt32.toNat_inj.1 (by omega)

lemma raised_count (c : Engine) {limit' : UInt32} (hle : c.maxIterations ≤ limit') (row col : Nat) :
    Raised c.maxIterations limit' (c.count p e row col)
      (count p e { c with maxIterations := limit' } row col) := by
  rw [count, count]
  cases c.mode <;>
    exact raised_of_cut
      (UInt32.le_iff_toNat_le.2 (Evaluator.firstEscape_escapeCount _ _ _ _ _).le)
      (Evaluator.toNat_escapeCount_cut _ _ _ _ hle _)

/-- **A count is the first escape, and a higher limit changes only what was cut off.** In any buffer,
the count of an orbit is the least number below the limit whose next iterate has escaped, and the
limit itself if there is none. With a lower limit it is the lesser of that limit and the count with
the higher one. No cell of a picture exceeds the limit, and a cell that is below it keeps its count
when the limit is raised, whatever workers fill the two grids. -/
theorem escapeCounts_raise_limit (p : Primitives) (e : Evaluator) :
    (∀ (buffer : Array Complex) (z c : Complex) (limit : UInt32) (radius : Float),
      ((∃ n < limit.toNat, e.EscapesAt p z c radius n) →
        IsLeast {n | n < limit.toNat ∧ e.EscapesAt p z c radius n}
          (e.escapeCount p buffer z c limit radius).toNat) ∧
      ((¬ ∃ n < limit.toNat, e.EscapesAt p z c radius n) →
        e.escapeCount p buffer z c limit radius = limit)) ∧
    (∀ (buffer buffer' : Array Complex) (z c : Complex) (limit limit' : UInt32) (radius : Float),
      limit ≤ limit' → (e.escapeCount p buffer z c limit radius).toNat =
        min limit.toNat (e.escapeCount p buffer' z c limit' radius).toNat) ∧
    ∀ (c : Engine) (limit' : UInt32) (offered offered' : Nat), 0 < c.width → 0 < c.height →
      c.maxIterations ≤ limit' → ∃ g g', c.escapeCountsOn p e offered = .ok g ∧
        escapeCountsOn p e { c with maxIterations := limit' } offered' = .ok g' ∧
        ∀ row < c.height, ∀ col < c.width, ∃ n n', g.get? row col = some n ∧
          g'.get? row col = some n' ∧ Raised c.maxIterations limit' n n' := by
  refine ⟨fun buffer z c limit radius => ?_, ?_, ?_⟩
  · have hfirst := e.firstEscape_escapeCount (p := p) buffer z c limit radius
    exact ⟨hfirst.isLeast, fun hnone => UInt32.toNat_inj.1 (hfirst.eq_limit hnone)⟩
  · intro buffer buffer' z c limit limit' radius hle
    exact Evaluator.toNat_escapeCount_cut buffer buffer' z c hle radius
  · intro c limit' offered offered' hwidth hheight hle
    obtain ⟨g, hg, hcounts⟩ := exists_escapeCountsOn (p := p) (e := e) c hwidth hheight offered
    obtain ⟨g', hg', hcounts'⟩ := exists_escapeCountsOn (p := p) (e := e)
      { c with maxIterations := limit' } hwidth hheight offered'
    refine ⟨g, g', hg, hg', fun row hrow col hcol => ?_⟩
    exact ⟨_, _, hcounts.cells row hrow col hcol, hcounts'.cells row hrow col hcol,
      c.raised_count hle row col⟩

/-- Doubling, from 1 on: 2 still lies on the circle, and 4 outside. -/
theorem escapeCounts_raise_limit_doubling :
    let e : Evaluator := ⟨1, [.loadIterate, .store 0, .binary .add 0 0]⟩
    (∃ n < 10, e.EscapesAt .standard .one .zero 2.0 n) ∧
      IsLeast {n | n < 10 ∧ e.EscapesAt .standard .one .zero 2.0 n} 1 ∧
      (e.escapeCount .standard #[] .one .zero 1 2.0).toNat = 1 ∧
      ∃ g g', escapeCountsOn .standard e ⟨3, 2, 1, 2.0, .julia .zero, .standard, 0⟩ 4 = .ok g ∧
        escapeCountsOn .standard e ⟨3, 2, 10, 2.0, .julia .zero, .standard, 0⟩ 1 = .ok g' ∧
        ∃ n n', g.get? 1 2 = some n ∧ g'.get? 1 2 = some n' ∧ Raised 1 10 n n' := by
  intro e
  obtain ⟨hfirst, hcut, hgrids⟩ := escapeCounts_raise_limit .standard e
  have hescapes : ∃ n < 10, e.EscapesAt .standard .one .zero 2.0 n :=
    ⟨1, by decide, .inl (by decide +kernel)⟩
  have hcount : (e.escapeCount .standard #[] .one .zero 10 2.0).toNat = 1 := by decide +kernel
  have hleast := (hfirst #[] .one .zero 10 2.0).1 hescapes
  rw [hcount] at hleast
  refine ⟨hescapes, hleast, ?_, ?_⟩
  · rw [hcut #[] #[] _ _ 1 10 2.0 (by decide), hcount]
    rfl
  · obtain ⟨g, g', hg, hg', hcells⟩ := hgrids ⟨3, 2, 1, 2.0, .julia .zero, .standard, 0⟩ 10 4 1
      (by decide) (by decide) (by decide)
    exact ⟨g, g', hg, hg', hcells 1 (by decide) 2 (by decide)⟩

end Engine

end EscapeTime
