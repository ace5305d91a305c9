import EscapeTime.Complex.Power
import Mathlib.Data.Complex.Basic
import Mathlib.Logic.Function.Iterate

namespace EscapeTime

/-!
# Powers by squaring

The product so far, times the base to the exponent that is left, is the same after every round.
After at most 64 rounds nothing is left of the exponent, and the product is the power. All that is
used of the multiplication is that it is associative and has a unit. In double precision it is not
associative, but the computation does not depend on where the parts of a complex number are taken
from; with parts that are computed exactly, the power is exact.
-/

namespace Squaring

variable {α : Type} {mul : α → α → α}

lemma toNat_left_iterate (s : Squaring α) (k : ℕ) :
    ((round mul)^[k] s).left.toNat = s.left.toNat / 2 ^ k := by
  induction k with
  | zero => simp
  | succ k ih =>
    rw [Function.iterate_succ_apply', toNat_left_round, ih, Nat.div_div_eq_div_mul, pow_succ]

/-- As long as digits are left, the rounds do not change what comes out. -/
lemma run_iterate {s : Squaring α} {k : ℕ} (h : ∀ j < k, ((round mul)^[j] s).left ≠ 0) :
    ((round mul)^[k] s).run mul = s.run mul := by
  induction k with
  | zero => rfl
  | succ k ih =>
    rw [Function.iterate_succ_apply', ← ih fun j hj => h j (by omega)]
    conv_rhs => rw [run, if_neg (h k (by omega))]

/-- From `s` the rounds end after `k` of them at `t`: there is a digit to take in each, and none is
left at `t`. -/
structure Ends (mul : α → α → α) (s : Squaring α) (k : ℕ) (t : Squaring α) : Prop where
  reached : (round mul)^[k] s = t
  before : ∀ j < k, ((round mul)^[j] s).left ≠ 0
  done : t.left = 0

/-- **Squaring ends**, after at most 64 rounds. -/
lemma exists_ends (mul : α → α → α) (s : Squaring α) : ∃ k ≤ 64, ∃ t, Ends mul s k t := by
  -- 64 halvings leave nothing of a word
  have hlast : ((round mul)^[64] s).left = 0 := by
    have hlt := s.left.toNat_lt
    rw [← UInt64.toNat_inj, toNat_left_iterate, Nat.div_eq_of_lt (by omega)]
    rfl
  have hsome : ∃ k, ((round mul)^[k] s).left = 0 := ⟨64, hlast⟩
  classical
  exact ⟨Nat.find hsome, Nat.find_min' hsome hlast, _, rfl, fun j => Nat.find_min hsome,
    Nat.find_spec hsome⟩

/-- The product at the end of the rounds is what comes out. -/
lemma Ends.run_eq {s t : Squaring α} {k : ℕ} (h : Ends mul s k t) : s.run mul = t.acc := by
  rw [← run_iterate h.before, h.reached, run, if_pos h.done]

/-- What a round keeps while digits are left, all rounds keep. -/
lemma Ends.keeps {s t : Squaring α} {k : ℕ} (h : Ends mul s k t) {P : Squaring α → Prop}
    (hround : ∀ u : Squaring α, u.left ≠ 0 → P u → P (u.round mul)) (hs : P s) : P t := by
  obtain ⟨rfl, hbefore, -⟩ := h
  induction k with
  | zero => exact hs
  | succ k ih =>
    rw [Function.iterate_succ_apply']
    exact hround _ (hbefore k (by omega)) (ih fun j hj => hbefore j (by omega))

lemma left_and_one_iff (s : Squaring α) : s.left &&& 1 = 1 ↔ s.left.toNat % 2 = 1 := by
  rw [← UInt64.toNat_inj, UInt64.toNat_and]
  simp

/-- One round splits the lowest digit off the exponent. -/
lemma round_power {M : Type} [Monoid M] (s : Squaring M) :
    (s.round (· * ·)).acc * (s.round (· * ·)).base ^ (s.round (· * ·)).left.toNat =
      s.acc * s.base ^ s.left.toNat := by
  rw [toNat_left_round]
  simp only [round, left_and_one_iff]
  split_ifs with hodd
  · conv_rhs => rw [show s.left.toNat = 2 * (s.left.toNat / 2) + 1 by omega]
    rw [pow_succ', pow_mul, pow_two, mul_assoc]
  · conv_rhs => rw [show s.left.toNat = 2 * (s.left.toNat / 2) by omega]
    rw [pow_mul, pow_two]

/-- The product at the end of the rounds is the power. -/
lemma Ends.acc_eq {M : Type} [Monoid M] {s t : Squaring M} {k : ℕ} (h : Ends (· * ·) s k t) :
    t.acc = s.acc * s.base ^ s.left.toNat := by
  have hkept := h.keeps
    (P := fun u => u.acc * u.base ^ u.left.toNat = s.acc * s.base ^ s.left.toNat)
    (fun u _ hu => (round_power u).trans hu) rfl
  simpa [h.done] using hkept

/-- The rounds pass through a map that carries one multiplication over into the other. -/
lemma map_run {β : Type} {mul' : β → β → β} {f : α → β} (h : ∀ a b, f (mul a b) = mul' (f a) (f b))
    (s : Squaring α) : f (s.run mul) = run mul' ⟨f s.acc, f s.base, s.left⟩ := by
  fun_induction run mul s with
  | case1 s hzero => rw [run, if_pos hzero]
  | case2 s hleft ih =>
    conv_rhs => rw [run, if_neg hleft]
    rw [ih]
    simp only [round, apply_ite f, h]

end Squaring

/-! ### Whole exponents -/

/-- The size of a word, of the least one, too. -/
lemma toNat_abs (n : Int64) : n.abs.toUInt64.toNat = n.toInt.natAbs := by
  have habs : n.abs.toUInt64.toNat = n.toBitVec.abs.toNat := by
    rw [← Int64.toBitVec_abs]
    rfl
  have hint : n.toInt = n.toBitVec.toInt := rfl
  have hlt := n.toBitVec.isLt
  rw [habs, hint, BitVec.toNat_abs, BitVec.toInt_eq_msb_cond]
  split_ifs with hneg
  · omega
  · omega

lemma run_eq_pow {M : Type} [Monoid M] (b : M) (n : Int64) :
    Squaring.run (· * ·) ⟨1, b, n.abs.toUInt64⟩ = b ^ n.toInt.natAbs := by
  obtain ⟨k, -, t, hends⟩ := Squaring.exists_ends (· * ·) ⟨1, b, n.abs.toUInt64⟩
  rw [hends.run_eq, hends.acc_eq, one_mul, toNat_abs]

/-- Where there are inverses, whole powers are those of the library. -/
lemma wholePower_eq_zpow {G : Type} [DivisionMonoid G] (b : G) (n : Int64) :
    wholePower (· * ·) (· / ·) 1 b n = b ^ n.toInt := by
  have hneg : n < 0 ↔ n.toInt < 0 := Int64.lt_iff_toInt_lt
  rw [wholePower, run_eq_pow]
  split_ifs with h
  · rw [one_div, ← zpow_natCast, ← zpow_neg]
    congr 1
    have := hneg.1 h
    omega
  · rw [← zpow_natCast]
    congr 1
    have := mt hneg.2 h
    omega

lemma map_wholePower {α β : Type} {mul div : α → α → α} {mul' div' : β → β → β} {f : α → β}
    (hmul : ∀ a b, f (mul a b) = mul' (f a) (f b)) (hdiv : ∀ a b, f (div a b) = div' (f a) (f b))
    (one base : α) (n : Int64) :
    f (wholePower mul div one base n) = wholePower mul' div' (f one) (f base) n := by
  simp only [wholePower, apply_ite f, hdiv, Squaring.map_run hmul]

/-! ### Parts from any arithmetic -/

/-- A complex number whose parts are taken from any arithmetic. -/
structure Cartesian (R : Type) where
  re : R
  im : R

namespace Cartesian

variable {R : Type} [Add R] [Sub R] [Mul R]

protected def mul (a b : Cartesian R) : Cartesian R :=
  ⟨a.re * b.re - a.im * b.im, a.re * b.im + a.im * b.re⟩

protected def div [Div R] (a b : Cartesian R) : Cartesian R :=
  let d := b.re * b.re + b.im * b.im
  ⟨(a.re * b.re + a.im * b.im) / d, (a.im * b.re - a.re * b.im) / d⟩

/-- The complex number with rational parts. -/
def value (a : Cartesian ℚ) : ℂ := ⟨a.re, a.im⟩

lemma value_mul (a b : Cartesian ℚ) : (a.mul b).value = a.value * b.value := by
  apply Complex.ext <;> simp [value, Cartesian.mul]

lemma value_div (a b : Cartesian ℚ) : (a.div b).value = a.value / b.value := by
  apply Complex.ext
  · simp [value, Cartesian.div, Complex.div_re, Complex.normSq_apply, add_div]
  · simp [value, Cartesian.div, Complex.div_im, Complex.normSq_apply, sub_div]

end Cartesian

namespace Complex

/-- The parts in double precision. -/
def parts (a : Complex) : Cartesian Float := ⟨a.re, a.im⟩

lemma parts_powWhole (a : Complex) (n : Int64) :
    (a.powWhole n.toInt).parts =
      wholePower Cartesian.mul Cartesian.div one.parts a.parts n := by
  rw [powWhole, Int64.ofInt_toInt]
  exact map_wholePower (fun _ _ => rfl) (fun _ _ => rfl) one a n

end Complex

/-- **Powers by squaring.** For every exponent, the least one included, the rounds end, after 64 of
them at the latest. Under any associative multiplication with a unit the product at their end is the
power with the size of the exponent, and the whole power is this or its inverse. The powers of
complex numbers are this computation in double precision; with rational parts it gives the powers of
the complex numbers. -/
theorem wholePower_by_squaring (n : Int64) :
    (∀ (α : Type) (mul : α → α → α) (one base : α),
        ∃ k ≤ 64, ∃ t, Squaring.Ends mul ⟨one, base, n.abs.toUInt64⟩ k t) ∧
      (∀ (M : Type) [Monoid M] (div : M → M → M) (b : M),
        (∃ k t, Squaring.Ends (· * ·) ⟨1, b, n.abs.toUInt64⟩ k t ∧ t.acc = b ^ n.toInt.natAbs) ∧
        wholePower (· * ·) div 1 b n =
          if 0 ≤ n.toInt then b ^ n.toInt.natAbs else div 1 (b ^ n.toInt.natAbs)) ∧
      (∀ a : Complex, (a.powWhole n.toInt).parts =
        wholePower Cartesian.mul Cartesian.div Complex.one.parts a.parts n) ∧
      ∀ b : Cartesian ℚ,
        (wholePower Cartesian.mul Cartesian.div ⟨1, 0⟩ b n).value = b.value ^ n.toInt := by
  refine ⟨fun α mul one base => Squaring.exists_ends mul _, fun M _ div b => ⟨?_, ?_⟩,
    fun a => a.parts_powWhole n, fun b => ?_⟩
  · obtain ⟨k, -, t, hends⟩ := Squaring.exists_ends (· * ·) ⟨1, b, n.abs.toUInt64⟩
    exact ⟨k, t, hends, by rw [hends.acc_eq, one_mul, toNat_abs]⟩
  · have hneg : n < 0 ↔ ¬0 ≤ n.toInt := Int64.lt_iff_toInt_lt.trans not_le.symm
    simp only [wholePower, run_eq_pow, hneg, ite_not]
  · rw [map_wholePower Cartesian.value_mul Cartesian.value_div, ← wholePower_eq_zpow]
    congr 1
    apply Complex.ext <;> simp [Cartesian.value]

end EscapeTime
