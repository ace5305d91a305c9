import EscapeTime.Plane.Orbit
import Mathlib.Tactic.Common

namespace EscapeTime.Evaluator

/-!
# Escape counts are places in the orbit

A run makes its buffer ready before it uses it, so the same buffer can serve run after run and no
result shows what it held before. An escape count, computed step by step in one buffer, is therefore
the place of the first iterate of the orbit that has escaped.
-/

variable {p : Primitives} {e : Evaluator} {c : Complex}

/-! ### Buffers -/

lemma reset_eq (n : Nat) (buffer : Array Complex) : reset n buffer = Vector.replicate n .zero := by
  ext i hi
  · simp [reset, Array.getElem_append]

/-- Neither the value nor the buffer after a run depends on the buffer before. -/
lemma evalWith_eq (buffer : Array Complex) (z c : Complex) :
    e.evalWith p buffer z c = e.evalWith p e.scratch z c := by
  simp only [evalWith, runWith, reset_eq]

lemma evalWith_fst (buffer : Array Complex) (z c : Complex) :
    (e.evalWith p buffer z c).1 = e.eval p z c := by
  rw [evalWith_eq, eval]

/-! ### Counts -/

lemma length_orbit (n : Nat) (z : Complex) : (e.orbit p c n z).length = n := by
  induction n generalizing z with
  | zero => rfl
  | succ n ih => rw [orbit, List.length_cons, ih]

/-- Going on from the `n`-th iterate, the count goes up until an iterate has escaped. -/
lemma escapeFrom_fst (limit : Float) (n fuel : Nat) (z : Complex) (buffer : Array Complex) :
    (escapeFrom p e c limit n fuel z buffer).1 =
      n + (e.orbit p c fuel z).findIdx (hasEscaped limit) := by
  induction fuel generalizing n z buffer with
  | zero => rfl
  | succ fuel ih =>
    rw [escapeFrom, orbit, List.findIdx_cons, ← evalWith_fst buffer]
    dsimp only
    cases hasEscaped limit (e.evalWith p buffer z c).1 with
    | true => rfl
    | false =>
      simp only [Bool.false_eq_true, if_false, ih, cond_false]
      omega

/-- An escape count is the place of the first iterate that has escaped, or the number of iterates
allowed if none has. -/
theorem toNat_escapeWith (buffer : Array Complex) (z c : Complex) (maxIterations : UInt32)
    (radius : Float) :
    (e.escapeWith p buffer z c maxIterations radius).1.toNat =
      (e.orbit p c maxIterations.toNat z).findIdx (hasEscaped (radius * radius)) := by
  have hle : (e.orbit p c maxIterations.toNat z).findIdx (hasEscaped (radius * radius)) ≤
      maxIterations.toNat :=
    Nat.le_trans List.findIdx_le_length (Nat.le_of_eq (length_orbit _ z))
  simp only [escapeWith, escapeFrom_fst, Nat.zero_add]
  exact UInt32.toNat_ofNat_of_lt (Nat.lt_of_le_of_lt hle maxIterations.toNat_lt_size)

/-- An escape count does not depend on the buffer it is computed in. -/
lemma escapeWith_fst (buffer : Array Complex) (z c : Complex) (maxIterations : UInt32)
    (radius : Float) :
    (e.escapeWith p buffer z c maxIterations radius).1 =
      e.escapeCount p e.scratch z c maxIterations radius := by
  rw [← UInt32.toNat_inj, toNat_escapeWith, escapeCount, toNat_escapeWith]

/-- The greatest count is that of an orbit that does not escape. -/
theorem escapeCount_eq_max_iff (buffer : Array Complex) (z c : Complex) (maxIterations : UInt32)
    (radius : Float) :
    e.escapeCount p buffer z c maxIterations radius = maxIterations ↔
      ∀ z' ∈ e.orbit p c maxIterations.toNat z, hasEscaped (radius * radius) z' = false := by
  rw [← UInt32.toNat_inj, escapeCount, toNat_escapeWith, ← List.findIdx_eq_length, length_orbit]

end EscapeTime.Evaluator
