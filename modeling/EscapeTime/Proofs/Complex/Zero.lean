import EscapeTime.Proofs.Complex.Double
import EscapeTime.Proofs.Complex.Squaring

namespace EscapeTime.Complex

/-!
# Powers of zero and zero powers

Every number to the power zero is one. Zero, with any signs of its parts, has the power zero, except
where the exponent is a negative whole number of moderate size: then the inverse of zero is taken
before it is seen that the base is zero, and both parts are not a number.
-/

open Double Float.Model

/-! ### Whole exponents -/

lemma form_greatestWholeExponent :
    form greatestWholeExponent = .finite .positive (2 ^ 52) (-42) (by positivity) := by
  rfl

/-- A double within the limit has a whole part within the limit. -/
lemma toNat_toUInt64_abs_le {x : Float} (h : x.abs ≤ greatestWholeExponent) :
    x.abs.toUInt64.toNat ≤ 1024 := by
  rw [le_iff, form_greatestWholeExponent, form_abs] at h
  have habs := form_abs x
  cases hform : form x with
  | notANumber | infinity s =>
    rw [hform] at h
    cases h
  | zero s =>
    rw [hform] at habs
    have hzero : x.abs = 0.0 := form_injective (habs.trans rfl)
    rw [hzero]
    decide +kernel
  | finite s m e hm =>
    have hlt := mantissa_lt hform
    rw [hform] at h habs
    have hle : ((compare e (-42)).then (compare m (2 ^ 52))).isLE = true := h
    have hcases : e < -42 ∨ e = -42 ∧ m ≤ 2 ^ 52 := by
      rcases lt_trichotomy e (-42) with hless | rfl | hgreater
      · exact .inl hless
      · rw [compare_eq_iff_eq.2 rfl] at hle
        exact .inr ⟨rfl, Nat.isLE_compare.1 hle⟩
      · rw [compare_gt_iff_gt.2 hgreater] at hle
        cases hle
    have hquotient : m / 2 ^ (-e).toNat ≤ 1024 := by
      rcases hcases with hless | ⟨rfl, hm⟩
      · have hpow : 2 ^ 43 ≤ 2 ^ (-e).toNat := Nat.pow_le_pow_right (by decide) (by omega)
        calc m / 2 ^ (-e).toNat ≤ m / 2 ^ 43 := Nat.div_le_div_left hpow (by positivity)
          _ ≤ 1024 := by omega
      · have hshift : (- -42 : ℤ).toNat = 42 := rfl
        rw [hshift]
        omega
    rw [toNat_toUInt64 habs (by omega) (hquotient.trans_lt (by decide))]
    exact hquotient

/-- Equality of doubles is that of their bits, away from zero. -/
lemma eq_toFloat_of_beq {k : UInt64} {x : Float} (hpos : 0 < k.toNat) (hlt : k.toNat < 2 ^ 53)
    (h : (k.toFloat == x) = true) : x = k.toFloat := by
  have hform := form_toFloat hpos hlt
  rcases (Float.beq_iff_ne_nan_and_eq.1 h).2.2 with heq | ⟨hzero, -⟩ | ⟨hzero, -⟩
  · exact heq.symm
  · rw [hzero] at hform
    cases hform
  · rw [hzero] at hform
    cases hform

/-- Only the doubles of words within the limit, with either sign, are taken as whole numbers. -/
lemma whole?_cases {x : Float} {n : ℤ} (h : whole? x = some n) :
    ∃ k : UInt64, k.toNat ≤ 1024 ∧
      (x = k.toFloat ∧ n = k.toNat ∨ x = -k.toFloat ∧ n = -k.toNat) := by
  simp only [whole?] at h
  obtain ⟨htest, hn⟩ := Option.ite_none_right_eq_some.1 h
  simp only [Bool.and_eq_true, decide_eq_true_eq] at htest
  obtain ⟨hlimit, hwhole⟩ := htest
  have hsize := toNat_toUInt64_abs_le hlimit
  generalize x.abs.toUInt64 = k at hwhole hn hsize
  refine ⟨k, hsize, ?_⟩
  by_cases hzero : k.toNat = 0
  · obtain rfl : k = 0 := UInt64.toNat_inj.1 hzero
    obtain rfl : 0 = n := by simpa using hn
    exact (eq_zero_of_abs (BEq.symm hwhole)).imp (⟨·, rfl⟩) (⟨·, rfl⟩)
  · have hpos := Nat.pos_of_ne_zero hzero
    have hlt : k.toNat < 2 ^ 53 := by omega
    have habs := eq_toFloat_of_beq hpos hlt hwhole
    rcases eq_or_eq_neg_of_abs (form_toFloat hpos hlt) habs with ⟨hx, hsign⟩ | ⟨hx, hsign⟩
    · rw [if_neg hsign] at hn
      exact .inl ⟨hx, (Option.some.inj hn).symm⟩
    · rw [if_pos hsign] at hn
      exact .inr ⟨hx, (Option.some.inj hn).symm⟩

lemma abs_neg_toFloat {k : UInt64} (hpos : 0 < k.toNat) (hlt : k.toNat < 2 ^ 53) :
    (-k.toFloat).abs = k.toFloat := by
  apply form_injective
  rw [form_abs, form_neg, form_toFloat hpos hlt]
  rfl

lemma toFloat_le {k : UInt64} (hpos : 0 < k.toNat) (hle : k.toNat ≤ 1024) :
    k.toFloat ≤ greatestWholeExponent := by
  rw [le_iff, form_toFloat hpos (by omega), form_greatestWholeExponent]
  have hlog : k.toNat.log2 < 11 := (Nat.log2_lt hpos.ne').2 (by omega)
  show ((compare ((k.toNat.log2 : ℤ) - 52) (-42)).then
    (compare (k.toNat * 2 ^ (52 - k.toNat.log2)) (2 ^ 52))).isLE = true
  rcases Nat.lt_or_eq_of_le (Nat.le_of_lt_succ hlog) with hless | heq
  · rw [compare_lt_iff_lt.2 (by omega)]
    rfl
  · -- the greatest of the words is the limit itself
    have hlow := Nat.log2_self_le hpos.ne'
    rw [heq] at hlow ⊢
    obtain hk : k.toNat = 1024 := by omega
    rw [hk]
    decide +kernel

lemma whole?_neg_toFloat {k : UInt64} (hpos : 0 < k.toNat) (hle : k.toNat ≤ 1024) :
    whole? (-k.toFloat) = some (-(k.toNat : ℤ)) := by
  have hlt : k.toNat < 2 ^ 53 := by omega
  have hneg : -k.toFloat < 0.0 := by
    rw [lt_iff, form_neg, form_toFloat hpos hlt]
    rfl
  have hself : (k.toFloat == k.toFloat) = true := by
    have hform := form_toFloat hpos hlt
    refine Float.beq_self_iff.2 fun hnan => ?_
    rw [hnan] at hform
    cases hform
  simp only [whole?, abs_neg_toFloat hpos hlt, toUInt64_toFloat hpos hlt, toFloat_le hpos hle,
    hself, hneg, decide_true, Bool.and_self, if_true]

/-! ### Zeros -/

/-- One of the two zeros. -/
def IsZero (x : Float) : Prop := x = 0.0 ∨ x = -0.0

instance : DecidablePred IsZero := fun x => inferInstanceAs (Decidable (x = 0.0 ∨ x = -0.0))

lemma IsZero.add {x y : Float} (hx : IsZero x) (hy : IsZero y) : IsZero (x + y) := by
  rcases hx with rfl | rfl <;> rcases hy with rfl | rfl <;> decide +kernel

lemma IsZero.sub {x y : Float} (hx : IsZero x) (hy : IsZero y) : IsZero (x - y) := by
  rcases hx with rfl | rfl <;> rcases hy with rfl | rfl <;> decide +kernel

lemma IsZero.mul {x y : Float} (hx : IsZero x) (hy : IsZero y) : IsZero (x * y) := by
  rcases hx with rfl | rfl <;> rcases hy with rfl | rfl <;> decide +kernel

lemma IsZero.one_mul {x : Float} (hx : IsZero x) : IsZero (1.0 * x) := by
  rcases hx with rfl | rfl <;> decide +kernel

lemma IsZero.isNaN_div {x y : Float} (hx : IsZero x) (hy : IsZero y) : (x / y).isNaN = true := by
  rcases hx with rfl | rfl <;> rcases hy with rfl | rfl <;> decide +kernel

/-- Both parts are zeros. -/
def Vanishes (a : Complex) : Prop := IsZero a.re ∧ IsZero a.im

lemma beq_zero_iff_vanishes (a : Complex) : (a == zero) = true ↔ Vanishes a := by
  show (a.re == 0.0 && a.im == 0.0) = true ↔ _
  rw [Bool.and_eq_true, beq_zero_iff, beq_zero_iff]
  rfl

lemma Vanishes.mul {a b : Complex} (ha : Vanishes a) (hb : Vanishes b) : Vanishes (a.mul b) :=
  ⟨(ha.1.mul hb.1).sub (ha.2.mul hb.2), (ha.1.mul hb.2).add (ha.2.mul hb.1)⟩

lemma Vanishes.one_mul {b : Complex} (hb : Vanishes b) : Vanishes (one.mul b) :=
  have hzero : IsZero 0.0 := .inl rfl
  ⟨hb.1.one_mul.sub (hzero.mul hb.2), hb.2.one_mul.add (hzero.mul hb.1)⟩

lemma Vanishes.isNaN_one_div {b : Complex} (hb : Vanishes b) :
    (one.div b).re.isNaN = true ∧ (one.div b).im.isNaN = true := by
  have hzero : IsZero 0.0 := .inl rfl
  have hnorm : IsZero b.normSq := (hb.1.mul hb.1).add (hb.2.mul hb.2)
  exact ⟨(hb.1.one_mul.add (hzero.mul hb.2)).isNaN_div hnorm,
    ((hzero.mul hb.1).sub hb.2.one_mul).isNaN_div hnorm⟩

lemma not_vanishes_of_isNaN {a : Complex} (h : a.re.isNaN = true) : ¬ Vanishes a := by
  rintro ⟨hre | hre, -⟩ <;> rw [hre] at h <;> revert h <;> decide +kernel

/-! ### Powers of zero -/

/-- Squaring keeps a vanishing base. The product is one until a digit is taken, and there is one to
take as long as it is one. -/
lemma Vanishes.run {a : Complex} (ha : Vanishes a) {left : UInt64} (hleft : left ≠ 0) :
    Vanishes (Squaring.run Complex.mul ⟨one, a, left⟩) := by
  obtain ⟨k, -, t, hends⟩ := Squaring.exists_ends Complex.mul ⟨one, a, left⟩
  have hkept := hends.keeps
    (P := fun u => Vanishes u.base ∧ (Vanishes u.acc ∨ u.acc = one ∧ u.left ≠ 0)) ?_
    ⟨ha, .inr ⟨rfl, hleft⟩⟩
  · rw [hends.run_eq]
    exact hkept.2.resolve_right fun h => h.2 hends.done
  · rintro u hu ⟨hbase, hacc⟩
    refine ⟨hbase.mul hbase, ?_⟩
    by_cases hodd : u.left &&& 1 = 1
    · -- the product vanishes from here on
      simp only [Squaring.round, if_pos hodd]
      rcases hacc with hacc | ⟨hacc, -⟩
      · exact .inl (hacc.mul hbase)
      · rw [hacc]
        exact .inl hbase.one_mul
    · -- a digit that is zero is not the last one
      have hstill : (u.round Complex.mul).left ≠ 0 := by
        rw [Squaring.left_and_one_iff] at hodd
        rw [ne_eq, ← UInt64.toNat_inj, Squaring.toNat_left_round]
        rw [ne_eq, ← UInt64.toNat_inj] at hu
        simp only [UInt64.toNat_zero] at hu ⊢
        omega
      simp only [Squaring.round, if_neg hodd]
      exact hacc.imp_right fun h => ⟨h.1, hstill⟩

lemma powWhole_zero (a : Complex) : a.powWhole 0 = one := by
  have hleft : (Int64.ofInt 0).abs.toUInt64 = 0 := by decide
  have hneg : ¬ Int64.ofInt 0 < 0 := by decide
  rw [powWhole, wholePower, hleft, if_neg hneg, Squaring.run, if_pos rfl]

section

variable {a : Complex} {n : ℤ}

lemma toInt_ofInt (hn : n.natAbs ≤ 1024) : (Int64.ofInt n).toInt = n :=
  Int64.toInt_ofInt_of_le (by omega) (by omega)

lemma Vanishes.run_abs (ha : Vanishes a) (hzero : n ≠ 0) (hn : n.natAbs ≤ 1024) :
    Vanishes (Squaring.run Complex.mul ⟨one, a, (Int64.ofInt n).abs.toUInt64⟩) := by
  apply ha.run
  rw [ne_eq, ← UInt64.toNat_inj, toNat_abs, toInt_ofInt hn]
  exact Int.natAbs_ne_zero.2 hzero

lemma Vanishes.powWhole (ha : Vanishes a) (hpos : 0 < n) (hn : n.natAbs ≤ 1024) :
    Vanishes (a.powWhole n) := by
  have hneg : ¬ Int64.ofInt n < 0 := by
    rw [Int64.lt_iff_toInt_lt, toInt_ofInt hn]
    exact hpos.le.not_gt
  rw [Complex.powWhole, wholePower, if_neg hneg]
  exact ha.run_abs hpos.ne' hn

/-- The inverse of a power of zero is not a number. -/
lemma Vanishes.isNaN_powWhole (ha : Vanishes a) (hlt : n < 0) (hn : n.natAbs ≤ 1024) :
    (a.powWhole n).re.isNaN = true ∧ (a.powWhole n).im.isNaN = true := by
  have hneg : Int64.ofInt n < 0 := by
    rw [Int64.lt_iff_toInt_lt, toInt_ofInt hn]
    exact hlt
  rw [Complex.powWhole, wholePower, if_pos hneg]
  exact (ha.run_abs hlt.ne hn).isNaN_one_div

end

/-! ### The routes of a power -/

/-- The exponent is a negative whole number within the limit of squaring. -/
def NegativeWhole (w : Complex) : Prop :=
  (w.im == 0.0) = true ∧ ∃ k : UInt64, 0 < k.toNat ∧ k.toNat ≤ 1024 ∧ w.re = -k.toFloat

lemma wholeExponent?_eq_some_iff {w : Complex} {n : ℤ} :
    wholeExponent? w = some n ↔ (w.im == 0.0) = true ∧ whole? w.re = some n :=
  Option.ite_none_right_eq_some

lemma natAbs_le_of_wholeExponent? {w : Complex} {n : ℤ} (h : wholeExponent? w = some n) :
    n.natAbs ≤ 1024 := by
  obtain ⟨k, hk, ⟨-, rfl⟩ | ⟨-, rfl⟩⟩ := whole?_cases (wholeExponent?_eq_some_iff.1 h).2
  · omega
  · omega

lemma wholeExponent?_eq_zero_iff {w : Complex} : wholeExponent? w = some 0 ↔ Vanishes w := by
  rw [wholeExponent?_eq_some_iff, beq_zero_iff, and_comm, Vanishes]
  refine and_congr_left' ⟨fun h => ?_, ?_⟩
  · obtain ⟨k, -, ⟨hre, hk⟩ | ⟨hre, hk⟩⟩ := whole?_cases h
    all_goals obtain rfl : k = 0 := UInt64.toNat_inj.1 (by simpa using hk.symm)
    · exact .inl hre
    · exact .inr hre
  · rintro (hre | hre) <;> rw [hre] <;> decide +kernel

lemma exists_neg_wholeExponent?_iff {w : Complex} :
    (∃ n ∈ wholeExponent? w, n < 0) ↔ NegativeWhole w := by
  constructor
  · rintro ⟨n, hn, hneg⟩
    obtain ⟨him, hre⟩ := wholeExponent?_eq_some_iff.1 hn
    obtain ⟨k, hk, ⟨-, rfl⟩ | ⟨hw, rfl⟩⟩ := whole?_cases hre
    · omega
    · exact ⟨him, k, by omega, hk, hw⟩
  · rintro ⟨him, k, hpos, hk, hw⟩
    refine ⟨-k.toNat, wholeExponent?_eq_some_iff.2 ⟨him, ?_⟩, by omega⟩
    rw [hw, whole?_neg_toFloat hpos hk]

instance : DecidablePred NegativeWhole := fun w =>
  decidable_of_iff (∃ n ∈ wholeExponent? w, n < 0) exists_neg_wholeExponent?_iff

lemma pow_of_wholeExponent? {w : Complex} {n : ℤ} (h : wholeExponent? w = some n) (a : Complex) :
    a.pow w = a.powWhole n := by
  rw [pow, h]

lemma Vanishes.isNaN_pow {a w : Complex} (ha : Vanishes a) (hw : NegativeWhole w) :
    (a.pow w).re.isNaN = true ∧ (a.pow w).im.isNaN = true := by
  obtain ⟨n, hn, hneg⟩ := exists_neg_wholeExponent?_iff.2 hw
  rw [pow_of_wholeExponent? hn]
  exact ha.isNaN_powWhole hneg (natAbs_le_of_wholeExponent? hn)

/-- Apart from the negative whole exponents, both routes that are left to zero lead to zero. -/
lemma Vanishes.pow {a w : Complex} (ha : Vanishes a) (hzero : ¬ Vanishes w)
    (hw : ¬ NegativeWhole w) : Vanishes (a.pow w) := by
  cases hroute : wholeExponent? w with
  | none =>
    rw [Complex.pow, hroute]
    simp only [(beq_zero_iff_vanishes a).2 ha, if_true]
    exact ⟨.inl rfl, .inl rfl⟩
  | some n =>
    have hn : n ≠ 0 := by
      rintro rfl
      exact hzero (wholeExponent?_eq_zero_iff.1 hroute)
    have hneg : ¬ n < 0 := fun h => hw (exists_neg_wholeExponent?_iff.1 ⟨n, hroute, h⟩)
    rw [pow_of_wholeExponent? hroute]
    exact ha.powWhole (by omega) (natAbs_le_of_wholeExponent? hroute)

/-- **Zero as an exponent and as a base.** Every number to the power zero is one. For an exponent
other than zero, the power of zero is zero unless the exponent is a negative whole number within the
limit of squaring; then both parts are not a number. -/
theorem pow_zero_and_zero_pow (a w : Complex) :
    ((w == zero) = true → a.pow w = one) ∧
    ((a == zero) = true → (w == zero) = false →
      ((a.pow w == zero) = true ↔ ¬ NegativeWhole w) ∧
      (NegativeWhole w → (a.pow w).re.isNaN = true ∧ (a.pow w).im.isNaN = true)) := by
  simp only [← Bool.not_eq_true, beq_zero_iff_vanishes]
  refine ⟨fun hw => ?_, fun ha hzero => ⟨⟨fun hpow hw => ?_, ha.pow hzero⟩, ha.isNaN_pow⟩⟩
  · rw [pow_of_wholeExponent? (wholeExponent?_eq_zero_iff.2 hw), powWhole_zero]
  · exact not_vanishes_of_isNaN (ha.isNaN_pow hw).1 hpow

/-- Just beyond the limit a negative whole exponent gives zero, at the limit it does not. -/
theorem zero_pow_around_limit :
    pow ⟨0.0 / 0.0, 0.0⟩ ⟨-0.0, 0.0⟩ = one ∧
    (pow ⟨0.0, -0.0⟩ ⟨-1025.0, 0.0⟩ == zero) = true ∧
    (pow ⟨0.0, -0.0⟩ ⟨-1024.0, -0.0⟩).re.isNaN = true :=
  ⟨(pow_zero_and_zero_pow ⟨0.0 / 0.0, 0.0⟩ ⟨-0.0, 0.0⟩).1 (by decide +kernel),
    ((pow_zero_and_zero_pow ⟨0.0, -0.0⟩ ⟨-1025.0, 0.0⟩).2 (by decide +kernel)
      (by decide +kernel)).1.2 (by decide +kernel),
    (((pow_zero_and_zero_pow ⟨0.0, -0.0⟩ ⟨-1024.0, -0.0⟩).2 (by decide +kernel)
      (by decide +kernel)).2 (by decide +kernel)).1⟩

/-- The inverse of zero, taken as a power, is not zero. The exponent is finite and not zero. -/
theorem zero_pow_neg_one_ne_zero :
    (-1.0 : Float).isFinite = true ∧ (⟨-1.0, 0.0⟩ == zero) = false ∧
      (zero.pow ⟨-1.0, 0.0⟩ == zero) = false := by
  have hzero : Vanishes zero := ⟨.inl rfl, .inl rfl⟩
  have hpow := hzero.isNaN_pow (w := ⟨-1.0, 0.0⟩) (by decide +kernel)
  refine ⟨by decide +kernel, by decide +kernel, ?_⟩
  rw [← Bool.not_eq_true, beq_zero_iff_vanishes]
  exact not_vanishes_of_isNaN hpow.1

end EscapeTime.Complex
