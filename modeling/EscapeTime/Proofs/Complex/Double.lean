import EscapeTime.Complex.Power
import Mathlib

namespace EscapeTime.Double

/-!
# Doubles taken apart

A double of 64 bits is taken apart into a sign, a whole number and a power of two, and it is
determined by them. Sizes, negatives and comparisons are read off from these. A whole number of at
most 53 binary digits is a double, without rounding, and is read back from it.
-/

open Float.Model
open Float.Model.UnpackedFloat (Sign packComponents unpackSign unpackExponent unpackMantissa)

/-- What a sign, an exponent and a fraction stand for. -/
def ofFields (s : Sign) (e : BitVec 11) (m : BitVec 52) : UnpackedFloat :=
  if e = -1#11 then
    if m = 0#52 then .infinity s else .notANumber
  else if e = 0#11 then
    if h : m = 0#52 then .zero s
    else .finite s m.toNat (-1074) (Nat.pos_of_ne_zero fun hzero => h (BitVec.eq_of_toNat_eq hzero))
  else .finite s (2 ^ 52 + m.toNat) (e.toNat - 1075) (by omega)

lemma unpack_eq_ofFields (b : BitVec Format.binary64.numBits) :
    UnpackedFloat.unpack .binary64 b =
      ofFields (.ofBitVec (unpackSign b)) (unpackExponent b) (unpackMantissa b) := by
  have happend : (1#1 ++ unpackMantissa b).toNat = 2 ^ 52 + (unpackMantissa b).toNat := by
    rw [BitVec.toNat_append, ← Nat.shiftLeft_add_eq_or_of_lt (unpackMantissa b).isLt]
    rfl
  rw [UnpackedFloat.unpack, ofFields]
  split_ifs with hinf hfrac hsub hzero
  · rfl
  · rfl
  · rfl
  · have hexp : (unpackExponent b).toNat = 0 := by rw [hsub]; rfl
    congr 1
    rw [hexp]
    rfl
  · simp only [happend]
    rfl

lemma unpack_packComponents (s : Sign) (e : BitVec 11) (m : BitVec 52) :
    UnpackedFloat.unpack .binary64 (packComponents .binary64 s e m) = ofFields s e m := by
  rw [unpack_eq_ofFields, UnpackedFloat.unpackSign_packComponents, Sign.ofBitVec_toBitVec,
    UnpackedFloat.unpackExponent_packComponents, UnpackedFloat.unpackMantissa_packComponents]

/-- Nothing is lost but the bits of a "not a number". -/
lemma unpack_pack_unpack (b : BitVec Format.binary64.numBits) :
    UnpackedFloat.unpack .binary64 ((UnpackedFloat.unpack .binary64 b).pack .binary64) =
      UnpackedFloat.unpack .binary64 b := by
  rw [UnpackedFloat.pack_unpack]
  split_ifs with hnan
  · simp only [UnpackedFloat.isNaNBits, decide_eq_true_eq] at hnan
    rw [UnpackedFloat.unpack_packedNaN, unpack_eq_ofFields, ofFields, if_pos hnan.1, if_neg hnan.2]
  · rfl

lemma unpack_pack_ofFields (s : Sign) (e : BitVec 11) (m : BitVec 52) :
    UnpackedFloat.unpack .binary64 (UnpackedFloat.pack .binary64 (ofFields s e m)) =
      ofFields s e m := by
  rw [← unpack_packComponents, unpack_pack_unpack]

lemma abs_ofFields (s : Sign) (e : BitVec 11) (m : BitVec 52) :
    (ofFields s e m).abs = ofFields .positive e m := by
  simp only [ofFields]
  split_ifs <;> rfl

lemma neg_ofFields (s : Sign) (e : BitVec 11) (m : BitVec 52) :
    (ofFields s e m).neg = ofFields (-s) e m := by
  simp only [ofFields]
  split_ifs <;> rfl

/-! ### Doubles -/

/-- The sign and the size of a double, taken apart. -/
def form (x : Float) : UnpackedFloat := x.toModel.unpack

lemma exists_ofFields (x : Float) : ∃ s e m, form x = ofFields s e m :=
  ⟨_, _, _, unpack_eq_ofFields x.toModel.toBits.toBitVec⟩

lemma form_abs (x : Float) : form x.abs = (form x).abs := by
  obtain ⟨s, e, m, h⟩ := exists_ofFields x
  have hform : form x.abs =
      UnpackedFloat.unpack .binary64 (UnpackedFloat.pack .binary64 (form x).abs) := rfl
  rw [hform, h, abs_ofFields, unpack_pack_ofFields]

lemma form_neg (x : Float) : form (-x) = (form x).neg := by
  obtain ⟨s, e, m, h⟩ := exists_ofFields x
  have hform : form (-x) =
      UnpackedFloat.unpack .binary64 (UnpackedFloat.pack .binary64 (form x).neg) := rfl
  rw [hform, h, neg_ofFields, unpack_pack_ofFields]

lemma mantissa_lt {x : Float} {s : Sign} {m : ℕ} {e : ℤ} {hm : 0 < m}
    (h : form x = .finite s m e hm) : m < 2 ^ 53 := by
  obtain ⟨s', e', m', hfields⟩ := exists_ofFields x
  have hlt := m'.isLt
  rw [h, ofFields] at hfields
  split_ifs at hfields
  · obtain ⟨-, rfl, -⟩ := UnpackedFloat.finite.inj hfields
    omega
  · obtain ⟨-, rfl, -⟩ := UnpackedFloat.finite.inj hfields
    omega

/-- A double is what it is taken apart to. -/
lemma form_injective {x y : Float} (h : form x = form y) : x = y := by
  rw [← Float.toBits_inj, ← UInt64.toBitVec_inj]
  exact (UnpackedFloat.unpack_inj_of_valid x.toModel.valid y.toModel.valid).1 h

/-! ### Comparison -/

lemma le_iff (x y : Float) : x ≤ y ↔ ((form x).compare (form y)).any Ordering.isLE = true := by
  show decide (_ = true) = true ↔ _
  simp only [decide_eq_true_eq]
  rfl

lemma lt_iff (x y : Float) : x < y ↔ (form x).compare (form y) = some .lt := by
  show decide (_ = true) = true ↔ _
  simp only [decide_eq_true_eq]
  exact beq_iff_eq

/-- The doubles that are equal to zero are the two zeros. -/
lemma beq_zero_iff (x : Float) : (x == 0.0) = true ↔ x = 0.0 ∨ x = -0.0 := by
  constructor
  · intro h
    rcases (Float.beq_iff_ne_nan_and_eq.1 h).2.2 with hx | ⟨hx, -⟩ | ⟨hx, -⟩
    · exact .inl hx
    · exact .inl hx
    · exact .inr hx
  · rintro (rfl | rfl) <;> decide +kernel

/-- A double of size zero is one of the two zeros. -/
lemma eq_zero_of_abs {x : Float} (h : (x.abs == 0.0) = true) : x = 0.0 ∨ x = -0.0 := by
  have hzero : ∃ s, (form x).abs = .zero s := by
    rw [← form_abs]
    rcases (beq_zero_iff x.abs).1 h with hx | hx
    · exact ⟨.positive, congrArg form hx⟩
    · exact ⟨.negative, congrArg form hx⟩
  cases hform : form x with
  | zero s =>
    cases s with
    | positive => exact .inl (form_injective (hform.trans rfl))
    | negative => exact .inr (form_injective (hform.trans rfl))
  | notANumber | infinity s | finite s m e hm =>
    rw [hform] at hzero
    obtain ⟨t, ht⟩ := hzero
    cases ht

/-- A double with a given size is one of two. -/
lemma eq_or_eq_neg_of_abs {x y : Float} {m : ℕ} {e : ℤ} {hm : 0 < m}
    (hy : form y = .finite .positive m e hm) (h : x.abs = y) :
    x = y ∧ ¬x < 0.0 ∨ x = -y ∧ x < 0.0 := by
  rw [← h, form_abs] at hy
  cases hform : form x with
  | notANumber | infinity s | zero s =>
    rw [hform] at hy
    cases hy
  | finite s m' e' hm' =>
    have habs := form_abs x
    rw [h, hform] at habs
    cases s with
    | positive =>
      refine .inl ⟨form_injective (hform.trans habs.symm), fun hlt => ?_⟩
      rw [lt_iff, hform] at hlt
      cases hlt
    | negative =>
      refine .inr ⟨form_injective ?_, ?_⟩
      · rw [form_neg, habs, hform]
        rfl
      · rw [lt_iff, hform]
        rfl

/-! ### Whole numbers -/

open Float.Model.UnpackedFloat (ExtendedMantissa)

lemma unpack_pack_normal {s : Sign} {m : ℕ} {e : ℤ} {hm : 0 < m} (hlow : 2 ^ 52 ≤ m)
    (hhigh : m < 2 ^ 53) (he : -1074 ≤ e) (he' : e ≤ 971) :
    UnpackedFloat.unpack .binary64 (UnpackedFloat.pack .binary64 (.finite s m e hm)) =
      .finite s m e hm := by
  have hexp : (BitVec.ofNat 11 (e + 1075).toNat).toNat = (e + 1075).toNat := by
    rw [BitVec.toNat_ofNat]
    omega
  have hfraction : (BitVec.ofNat 52 (m - 2 ^ 52)).toNat = m - 2 ^ 52 := by
    rw [BitVec.toNat_ofNat]
    omega
  have hfields : UnpackedFloat.finite s m e hm =
      ofFields s (BitVec.ofNat 11 (e + 1075).toNat) (BitVec.ofNat 52 (m - 2 ^ 52)) := by
    have hnormal : BitVec.ofNat 11 (e + 1075).toNat ≠ 0#11 := fun h => by
      have hzero : (e + 1075).toNat = 0 := hexp ▸ congrArg BitVec.toNat h
      omega
    have hfinite : BitVec.ofNat 11 (e + 1075).toNat ≠ -1#11 := fun h => by
      have htop : (e + 1075).toNat = 2047 := hexp ▸ congrArg BitVec.toNat h
      omega
    rw [ofFields, if_neg hfinite, if_neg hnormal, UnpackedFloat.finite.injEq]
    refine ⟨rfl, ?_, ?_⟩
    · omega
    · omega
  rw [hfields, unpack_pack_ofFields]

lemma mantissa_shiftRight (x : ExtendedMantissa) (k : ℕ) :
    (x >>> k).mantissa = x.mantissa / 2 ^ k := by
  induction k with
  | zero =>
    rw [pow_zero, Nat.div_one]
    rfl
  | succ k ih =>
    have hstep : (x >>> (k + 1)).mantissa = (x >>> k).mantissa / 2 := rfl
    rw [hstep, ih, Nat.div_div_eq_div_mul, pow_succ]

/-- A number of 53 binary digits is not rounded. -/
lemma shiftToTargetExponent_normal {m : ℕ} {e : ℤ} (hlow : 2 ^ 52 ≤ m) (hhigh : m < 2 ^ 53)
    (he : -1074 ≤ e) :
    UnpackedFloat.shiftToTargetExponent .binary64 m e .exact = (⟨m, false, false⟩, e) := by
  have hlog : m.log2 = 52 := (Nat.log2_eq_iff (by omega)).2 ⟨hlow, hhigh⟩
  have htarget : Format.binary64.targetExponent (totalExponent m e) = e := by
    have hbits : (Format.binary64.mantissaBits : ℤ) = 53 := rfl
    have hleast : Format.binary64.minExponent = -1074 := rfl
    rw [Format.targetExponent, totalExponent, hlog, hbits, hleast]
    omega
  rw [UnpackedFloat.shiftToTargetExponent, htarget, UnpackedFloat.shiftToExponent]
  simp only [sub_self, Int.toNat_zero, Nat.cast_zero, add_zero]
  rfl

lemma roundWithAccuracy_normal {s : Sign} {m : ℕ} {e : ℤ} (hlow : 2 ^ 52 ≤ m) (hhigh : m < 2 ^ 53)
    (he : -1074 ≤ e) :
    UnpackedFloat.roundWithAccuracy .binary64 s m e .exact = .finite s m e (by omega) := by
  have hshift := shiftToTargetExponent_normal hlow hhigh he
  have hrounded : (⟨m, false, false⟩ : ExtendedMantissa).roundedMantissa = m := rfl
  simp only [UnpackedFloat.roundWithAccuracy, hshift, hrounded]
  rw [dif_neg (by omega)]

/-- Shifted to the left until it has 53 binary digits. -/
lemma shifted_bounds {n : ℕ} (hpos : 0 < n) (hlt : n < 2 ^ 53) :
    n.log2 ≤ 52 ∧ 2 ^ 52 ≤ n * 2 ^ (52 - n.log2) ∧ n * 2 ^ (52 - n.log2) < 2 ^ 53 := by
  have hlog : n.log2 < 53 := (Nat.log2_lt hpos.ne').2 hlt
  obtain ⟨hlow, hhigh⟩ := (Nat.log2_eq_iff hpos.ne').1 rfl
  have hpow : 2 ^ 52 = 2 ^ n.log2 * 2 ^ (52 - n.log2) := by
    rw [← pow_add]
    congr 1
    omega
  have hpow' : 2 ^ 53 = 2 ^ (n.log2 + 1) * 2 ^ (52 - n.log2) := by
    rw [← pow_add]
    congr 1
    omega
  refine ⟨by omega, ?_, ?_⟩
  · rw [hpow]
    exact Nat.mul_le_mul_right _ hlow
  · rw [hpow']
    exact Nat.mul_lt_mul_of_pos_right hhigh (by positivity)

lemma ofNat_eq {n : ℕ} (hpos : 0 < n) (hlt : n < 2 ^ 53) :
    UnpackedFloat.ofNat .binary64 n =
      .finite .positive (n * 2 ^ (52 - n.log2)) (n.log2 - 52) (by positivity) := by
  obtain ⟨hlog, hlow, hhigh⟩ := shifted_bounds hpos hlt
  have hsign : compare (n : ℤ) 0 = .gt := compare_gt_iff_gt.2 (by omega)
  have htarget : Format.binary64.targetExponent (totalExponent n 0) = n.log2 - 52 := by
    have hbits : (Format.binary64.mantissaBits : ℤ) = 53 := rfl
    have hleast : Format.binary64.minExponent = -1074 := rfl
    rw [Format.targetExponent, totalExponent, hbits, hleast]
    omega
  have hshift : (0 - ((n.log2 : ℤ) - 52)).toNat = 52 - n.log2 := by omega
  have hexp : (0 : ℤ) - (52 - n.log2 : ℕ) = n.log2 - 52 := by omega
  simp only [UnpackedFloat.ofNat, UnpackedFloat.ofInt, UnpackedFloat.normalize, hsign,
    UnpackedFloat.round, UnpackedFloat.decreaseExponent, Int.toNat_natCast, htarget, hshift, hexp,
    Nat.shiftLeft_eq]
  exact roundWithAccuracy_normal hlow hhigh (by omega)

/-- Words of 53 binary digits are doubles. -/
lemma form_toFloat {k : UInt64} (hpos : 0 < k.toNat) (hlt : k.toNat < 2 ^ 53) :
    form k.toFloat = .finite .positive (k.toNat * 2 ^ (52 - k.toNat.log2)) (k.toNat.log2 - 52)
      (by positivity) := by
  obtain ⟨hlog, hlow, hhigh⟩ := shifted_bounds hpos hlt
  have hform : form k.toFloat = UnpackedFloat.unpack .binary64
      (UnpackedFloat.pack .binary64 (UnpackedFloat.ofNat .binary64 k.toNat)) := rfl
  -- with 53 digits the mantissa is packed as it is
  rw [hform, ofNat_eq hpos hlt, unpack_pack_normal hlow hhigh (by omega) (by omega)]

lemma roundToInt_eq {m : ℕ} {e : ℤ} (he : e ≤ 0) :
    UnpackedFloat.roundToInt .positive m e = (m / 2 ^ (-e).toNat : ℕ) := by
  have hleft : e.toNat = 0 := by omega
  simp only [UnpackedFloat.roundToInt, UnpackedFloat.decreaseExponent,
    UnpackedFloat.shiftToExponent, sub_zero, hleft, Nat.shiftLeft_zero, Nat.cast_zero, zero_sub,
    mantissa_shiftRight]
  rfl

/-- The whole part of a double that is less than the words. -/
lemma toNat_toUInt64 {x : Float} {m : ℕ} {e : ℤ} {hm : 0 < m}
    (h : form x = .finite .positive m e hm) (he : e ≤ 0)
    (hsmall : m / 2 ^ (-e).toNat < UInt64.size) :
    x.toUInt64.toNat = m / 2 ^ (-e).toNat := by
  have hint : x.toUInt64 =
      UInt64.ofNatClamp (UnpackedFloat.toInt 0 (UInt64.size - 1) (form x)).toNat := rfl
  rw [hint, h, UnpackedFloat.toInt, roundToInt_eq he, Int.toNat_natCast, UInt64.ofNatClamp,
    dif_pos hsmall, UInt64.toNat_ofNatLT]

lemma toUInt64_toFloat {k : UInt64} (hpos : 0 < k.toNat) (hlt : k.toNat < 2 ^ 53) :
    k.toFloat.toUInt64 = k := by
  obtain ⟨hlog, -, -⟩ := shifted_bounds hpos hlt
  have hshift : (-((k.toNat.log2 : ℤ) - 52)).toNat = 52 - k.toNat.log2 := by omega
  have hback : k.toNat * 2 ^ (52 - k.toNat.log2) / 2 ^ (52 - k.toNat.log2) = k.toNat :=
    Nat.mul_div_cancel _ (by positivity)
  have hnat := toNat_toUInt64 (form_toFloat hpos hlt) (by omega)
    (by rw [hshift, hback]; exact k.toNat_lt)
  rw [hshift, hback] at hnat
  exact UInt64.toNat_inj.1 hnat

end EscapeTime.Double
