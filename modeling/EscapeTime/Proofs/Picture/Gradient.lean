import EscapeTime.Picture.Palette
import Mathlib.Tactic.Common

namespace EscapeTime

/-!
# Along the gradient

The place of a value between the bounds is counted in 255ths, and each byte of its colour lies as many
255ths of the way from the low one to the high one; both are rounded down. The words are wide enough
for every number on the way, so the places and the bytes are exact quotients. A quotient does not fall
when the number that is divided rises. Hence greater values lie further along, and no byte turns back
or leaves the stretch between its ends.
-/

/-! ### Places -/

namespace Bounds

/-- The value, brought between the bounds. -/
def clamp (b : Bounds) (v : UInt32) : Nat := Max.max b.min.toNat (Min.min v.toNat b.max.toNat)

/-- The place of a value in 255ths, computed with numbers of any size. -/
def place (b : Bounds) (v : UInt32) : Nat :=
  255 * (b.clamp v - b.min.toNat) / (b.max.toNat - b.min.toNat)

variable {b : Bounds} {u v : UInt32}

lemma min_le_clamp (b : Bounds) (v : UInt32) : b.min.toNat ≤ b.clamp v := Nat.le_max_left _ _

lemma clamp_le_max (hb : b.min < b.max) (v : UInt32) : b.clamp v ≤ b.max.toNat := by
  rw [UInt32.lt_iff_toNat_lt] at hb
  unfold clamp
  omega

lemma clamp_mono (b : Bounds) (huv : u ≤ v) : b.clamp u ≤ b.clamp v := by
  rw [UInt32.le_iff_toNat_le] at huv
  unfold clamp
  omega

lemma place_mono (b : Bounds) (huv : u ≤ v) : b.place u ≤ b.place v := by
  have hclamp := b.clamp_mono huv
  exact Nat.div_le_div_right (Nat.mul_le_mul_left 255 (by omega))

lemma place_of_le_min (hb : b.min < b.max) (hv : v ≤ b.min) : b.place v = 0 := by
  rw [UInt32.lt_iff_toNat_lt] at hb
  rw [UInt32.le_iff_toNat_le] at hv
  have hclamp : b.clamp v - b.min.toNat = 0 := by
    unfold clamp
    omega
  rw [place, hclamp, Nat.mul_zero, Nat.zero_div]

lemma place_of_max_le (hb : b.min < b.max) (hv : b.max ≤ v) : b.place v = 255 := by
  rw [UInt32.lt_iff_toNat_lt] at hb
  rw [UInt32.le_iff_toNat_le] at hv
  have hclamp : b.clamp v = b.max.toNat := by
    unfold clamp
    omega
  rw [place, hclamp, Nat.mul_div_cancel 255 (by omega)]

lemma place_le (hb : b.min < b.max) (v : UInt32) : b.place v ≤ 255 := by
  have hclamp := clamp_le_max hb v
  rw [UInt32.lt_iff_toNat_lt] at hb
  refine Nat.div_le_of_le_mul ?_
  rw [Nat.mul_comm]
  exact Nat.mul_le_mul_right 255 (by omega)

/-- What is divided fits into a long word. -/
lemma product_lt (hb : b.min < b.max) (v : UInt32) :
    255 * (b.clamp v - b.min.toNat) < UInt64.size := by
  have hclamp := clamp_le_max hb v
  have hmax := b.max.toNat_lt_size
  unfold UInt32.size at hmax
  unfold UInt64.size
  omega

/-- The place that is computed in words is the exact one. -/
lemma toNat_intensity (hb : b.min < b.max) (v : UInt32) : (b.intensity v).toNat = b.place v := by
  have hlt := UInt32.lt_iff_toNat_lt.1 hb
  -- the value between the bounds, as a word
  obtain ⟨w, hw⟩ : ∃ w, w = if v < b.min then b.min else if b.max < v then b.max else v := ⟨_, rfl⟩
  have hclamp : w.toNat = b.clamp v := by
    rw [hw, clamp]
    split_ifs with hlow hhigh
    · rw [UInt32.lt_iff_toNat_lt] at hlow
      omega
    · rw [UInt32.lt_iff_toNat_lt] at hhigh
      omega
    · rw [UInt32.lt_iff_toNat_lt] at hlow hhigh
      omega
  have hmin : b.min ≤ w := by
    rw [UInt32.le_iff_toNat_le, hclamp]
    exact b.min_le_clamp v
  have hproduct := product_lt hb v
  have hquotient := place_le hb v
  unfold place at hquotient
  calc
    (b.intensity v).toNat =
        255 * (w.toNat - b.min.toNat) % UInt64.size / (b.max.toNat - b.min.toNat) % UInt8.size := by
      rw [intensity, if_neg (by rw [UInt32.le_iff_toNat_le]; omega)]
      simp only [← hw, UInt64.toNat_toUInt8, UInt64.toNat_div, UInt64.toNat_mul,
        UInt32.toNat_toUInt64, UInt32.toNat_sub_of_le _ _ hmin,
        UInt32.toNat_sub_of_le _ _ (UInt32.le_of_lt hb)]
      rfl
    _ = b.place v := by
      rw [hclamp, Nat.mod_eq_of_lt hproduct, Nat.mod_eq_of_lt (Nat.lt_succ_of_le hquotient), place]

end Bounds

/-! ### Bytes -/

namespace Rgb

inductive Channel
  | red
  | green
  | blue

/-- One of the three bytes of a colour. -/
def channel (c : Rgb) : Channel → UInt8
  | .red => c.r
  | .green => c.g
  | .blue => c.b

/-- On the way from `low` to `high`, be it up or down, one comes to `x` and then to `y`. -/
def Toward (low high x y : UInt8) : Prop :=
  (low ≤ high → low ≤ x ∧ x ≤ y ∧ y ≤ high) ∧ (high ≤ low → high ≤ y ∧ y ≤ x ∧ x ≤ low)

lemma ext_channel {c c' : Rgb} (h : ∀ ch, c.channel ch = c'.channel ch) : c = c' := by
  obtain ⟨r, g, b⟩ := c
  obtain ⟨r', g', b'⟩ := c'
  obtain rfl : r = r' := h .red
  obtain rfl : g = g' := h .green
  obtain rfl : b = b' := h .blue
  rfl

lemma channel_mix (a b : Rgb) (i : UInt8) (ch : Channel) :
    (a.mix b i).channel ch = mixByte (a.channel ch) (b.channel ch) i := by
  cases ch <;> rfl

variable {a b i j : UInt8}

lemma mixExact_zero (a b : UInt8) : mixExact a b 0 = a.toNat := by
  simp [mixExact]

lemma mixExact_full (a b : UInt8) : mixExact a b 255 = b.toNat := by
  have hfull : ((b.toNat : Int) - a.toNat) * (255 : UInt8).toNat / 255 = b.toNat - a.toNat :=
    Int.mul_ediv_cancel _ (by decide)
  rw [mixExact, hfull]
  omega

lemma mixExact_mono (hab : a ≤ b) (hij : i ≤ j) : mixExact a b i ≤ mixExact a b j := by
  rw [UInt8.le_iff_toNat_le] at hab hij
  have hproduct : ((b.toNat : Int) - a.toNat) * i.toNat ≤ (b.toNat - a.toNat) * j.toNat :=
    Int.mul_le_mul_of_nonneg_left (by omega) (by omega)
  have hquotient := Int.ediv_le_ediv (by decide : (0 : Int) < 255) hproduct
  unfold mixExact
  omega

/-- A negative number that grows in size falls, and so does its quotient, which is rounded down. -/
lemma mixExact_anti (hba : b ≤ a) (hij : i ≤ j) : mixExact a b j ≤ mixExact a b i := by
  rw [UInt8.le_iff_toNat_le] at hba hij
  have hproduct : ((b.toNat : Int) - a.toNat) * j.toNat ≤ (b.toNat - a.toNat) * i.toNat :=
    Int.mul_le_mul_of_nonpos_left (by omega) (by omega)
  have hquotient := Int.ediv_le_ediv (by decide : (0 : Int) < 255) hproduct
  unfold mixExact
  omega

lemma byte_le_full (i : UInt8) : i ≤ 255 := by
  have hlt := i.toNat_lt
  rw [UInt8.le_iff_toNat_le]
  exact Nat.le_of_lt_succ hlt

/-- The exact share is that of a byte. -/
lemma mixExact_mem (a b i : UInt8) : 0 ≤ mixExact a b i ∧ mixExact a b i < 256 := by
  have ha := a.toNat_lt
  have hb := b.toNat_lt
  have hzero := mixExact_zero a b
  have hfull := mixExact_full a b
  rcases Nat.le_total a.toNat b.toNat with h | h
  · have hlow := mixExact_mono (UInt8.le_iff_toNat_le.2 h) (UInt8.zero_le (a := i))
    have hhigh := mixExact_mono (UInt8.le_iff_toNat_le.2 h) (byte_le_full i)
    omega
  · have hlow := mixExact_anti (UInt8.le_iff_toNat_le.2 h) (byte_le_full i)
    have hhigh := mixExact_anti (UInt8.le_iff_toNat_le.2 h) (UInt8.zero_le (a := i))
    omega

/-- To make a byte of the exact share does not change it. -/
lemma toNat_mixByte (a b i : UInt8) : ((mixByte a b i).toNat : Int) = mixExact a b i := by
  obtain ⟨hnonneg, hlt⟩ := mixExact_mem a b i
  have hmod : mixExact a b i % 256 = mixExact a b i := Int.emod_eq_of_lt hnonneg hlt
  have hbyte : mixByte a b i = .ofNat (mixExact a b i % 256).toNat := rfl
  rw [hbyte, hmod, UInt8.toNat_ofNat_of_lt' (by unfold UInt8.size; omega)]
  exact Int.toNat_of_nonneg hnonneg

/-- The product of a step and a place fits into a word with a sign. -/
lemma step_fits (a b i : UInt8) :
    Int32.minValue.toInt ≤ ((b.toNat : Int) - a.toNat) * i.toNat ∧
      ((b.toNat : Int) - a.toNat) * i.toNat ≤ Int32.maxValue.toInt := by
  have ha := a.toNat_lt
  have hb := b.toNat_lt
  have hi := i.toNat_lt
  have hlow : (-256 : Int) * i.toNat ≤ ((b.toNat : Int) - a.toNat) * i.toNat :=
    Int.mul_le_mul_of_nonneg_right (by omega) (by omega)
  have hhigh : ((b.toNat : Int) - a.toNat) * i.toNat ≤ 256 * i.toNat :=
    Int.mul_le_mul_of_nonneg_right (by omega) (by omega)
  have hmin : Int32.minValue.toInt = -2147483648 := by decide
  have hmax : Int32.maxValue.toInt = 2147483647 := by decide
  omega

lemma mixByte_zero (a b : UInt8) : mixByte a b 0 = a := by
  have h := toNat_mixByte a b 0
  rw [mixExact_zero] at h
  exact UInt8.toNat_inj.1 (by omega)

lemma mixByte_full (a b : UInt8) : mixByte a b 255 = b := by
  have h := toNat_mixByte a b 255
  rw [mixExact_full] at h
  exact UInt8.toNat_inj.1 (by omega)

lemma mixByte_mono (hab : a ≤ b) (hij : i ≤ j) : mixByte a b i ≤ mixByte a b j := by
  have h := mixExact_mono hab hij
  rw [← toNat_mixByte, ← toNat_mixByte] at h
  exact UInt8.le_iff_toNat_le.2 (by omega)

lemma mixByte_anti (hba : b ≤ a) (hij : i ≤ j) : mixByte a b j ≤ mixByte a b i := by
  have h := mixExact_anti hba hij
  rw [← toNat_mixByte, ← toNat_mixByte] at h
  exact UInt8.le_iff_toNat_le.2 (by omega)

/-- A byte further along lies further on the way, and all lie on it. -/
lemma toward_mixByte (a b : UInt8) (hij : i ≤ j) : Toward a b (mixByte a b i) (mixByte a b j) := by
  refine ⟨fun hab => ⟨?_, mixByte_mono hab hij, ?_⟩, fun hba => ⟨?_, mixByte_anti hba hij, ?_⟩⟩
  · simpa only [mixByte_zero] using mixByte_mono hab (UInt8.zero_le (a := i))
  · simpa only [mixByte_full] using mixByte_mono hab (byte_le_full j)
  · simpa only [mixByte_full] using mixByte_anti hba (byte_le_full j)
  · simpa only [mixByte_zero] using mixByte_anti hba (UInt8.zero_le (a := i))

end Rgb

/-! ### Colours -/

namespace Gradient

variable {b : Bounds} {v : UInt32}

lemma color_of_le_min (g : Gradient) (hb : b.min < b.max) (hv : v ≤ b.min) :
    g.color b v = g.low := by
  have hplace : b.intensity v = 0 :=
    UInt8.toNat_inj.1 ((Bounds.toNat_intensity hb v).trans (Bounds.place_of_le_min hb hv))
  refine Rgb.ext_channel fun ch => ?_
  rw [color, hplace, Rgb.channel_mix, Rgb.mixByte_zero]

lemma color_of_max_le (g : Gradient) (hb : b.min < b.max) (hv : b.max ≤ v) :
    g.color b v = g.high := by
  have hplace : b.intensity v = 255 :=
    UInt8.toNat_inj.1 ((Bounds.toNat_intensity hb v).trans (Bounds.place_of_max_le hb hv))
  refine Rgb.ext_channel fun ch => ?_
  rw [color, hplace, Rgb.channel_mix, Rgb.mixByte_full]

/-- **Greater values lie further along the gradient.** Between bounds that differ the place of a value
is the exact quotient, at most 255, and no greater than that of a greater value. Values up to the
lower bound have the low colour and those from the upper bound on the high one. Each byte of a
colour is the exact share of the way, computed within a word and not changed by making it a byte; it
lies between its ends, and a greater value's byte lies no further from the high end. -/
theorem color_toward_high (g : Gradient) (b : Bounds) (hb : b.min < b.max) (u v : UInt32)
    (huv : u ≤ v) :
    ((b.intensity v).toNat = b.place v ∧ 255 * (b.clamp v - b.min.toNat) < UInt64.size ∧
      b.place v ≤ 255 ∧ b.intensity u ≤ b.intensity v) ∧
    (v ≤ b.min → g.color b v = g.low) ∧ (b.max ≤ v → g.color b v = g.high) ∧
    ∀ ch : Rgb.Channel,
      (((g.color b v).channel ch).toNat : Int) =
        Rgb.mixExact (g.low.channel ch) (g.high.channel ch) (b.intensity v) ∧
      (Int32.minValue.toInt ≤
          (((g.high.channel ch).toNat : Int) - (g.low.channel ch).toNat) * (b.intensity v).toNat ∧
        (((g.high.channel ch).toNat : Int) - (g.low.channel ch).toNat) * (b.intensity v).toNat ≤
          Int32.maxValue.toInt) ∧
      Rgb.Toward (g.low.channel ch) (g.high.channel ch) ((g.color b u).channel ch)
        ((g.color b v).channel ch) := by
  have hmono : b.intensity u ≤ b.intensity v := by
    rw [UInt8.le_iff_toNat_le, Bounds.toNat_intensity hb, Bounds.toNat_intensity hb]
    exact b.place_mono huv
  refine ⟨⟨Bounds.toNat_intensity hb v, Bounds.product_lt hb v, Bounds.place_le hb v, hmono⟩,
    g.color_of_le_min hb, g.color_of_max_le hb, fun ch => ?_⟩
  rw [color, color, Rgb.channel_mix, Rgb.channel_mix]
  exact ⟨Rgb.toNat_mixByte _ _ _, Rgb.step_fits _ _ _, Rgb.toward_mixByte _ _ hmono⟩

/-- A red byte that falls from 200 to 0: halfway it is rounded down to 99, and further on it is lower. -/
theorem color_toward_high_falling :
    (⟨0, 255⟩ : Bounds).min < (⟨0, 255⟩ : Bounds).max ∧ (128 : UInt32) ≤ 200 ∧
      ((⟨⟨200, 0, 10⟩, ⟨0, 255, 10⟩, ⟨0, 0, 0⟩⟩ : Gradient).color ⟨0, 255⟩ 128).r = 99 ∧
      Rgb.Toward 200 0 99
        ((⟨⟨200, 0, 10⟩, ⟨0, 255, 10⟩, ⟨0, 0, 0⟩⟩ : Gradient).color ⟨0, 255⟩ 200).r := by
  have hred : ((⟨⟨200, 0, 10⟩, ⟨0, 255, 10⟩, ⟨0, 0, 0⟩⟩ : Gradient).color ⟨0, 255⟩ 128).r = 99 := by
    decide
  obtain ⟨-, -, -, hchannels⟩ := color_toward_high ⟨⟨200, 0, 10⟩, ⟨0, 255, 10⟩, ⟨0, 0, 0⟩⟩ ⟨0, 255⟩
    (by decide) 128 200 (by decide)
  refine ⟨by decide, by decide, hred, ?_⟩
  rw [← hred]
  exact (hchannels .red).2.2

end Gradient

end EscapeTime
