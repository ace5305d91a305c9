import EscapeTime.Picture.Palette
import EscapeTime.Proofs.Picture.Histogram

namespace EscapeTime

/-!
# Colouring cannot fail

The only grid without a range of colours is the one without cells. The palette has at least one
colour and is looked up at no place past its end, so each cell finds its colour, and it is the one
that the gradient gives to the cell's value.
-/

/-! ### The range of colours -/

namespace Bounds

lemma exists_ofGrid {g : Grid UInt32} (h : g.toList ≠ []) (maxIterations : UInt32) :
    ∃ b, ofGrid g maxIterations = .ok b := by
  obtain ⟨b, hb, -⟩ := exists_spread h maxIterations
  exact ⟨b, hb⟩

lemma ofGrid_of_eq_nil {g : Grid UInt32} (h : g.toList = []) (maxIterations : UInt32) :
    ofGrid g maxIterations = .error .emptyGrid := by
  simp [ofGrid, h, Histogram.ofList, Histogram.reach]

end Bounds

/-! ### Looking a colour up -/

/-- Values past the upper bound lie where the upper bound does. -/
lemma Bounds.intensity_of_le {b : Bounds} {v : UInt32} (h : b.max ≤ v) :
    b.intensity v = b.intensity b.max := by
  have hclamp : ¬ b.max ≤ b.min → ∀ u, b.max ≤ u →
      (if u < b.min then b.min else if b.max < u then b.max else u) = b.max := by
    intro hmin u hu
    rw [UInt32.le_iff_toNat_le] at hmin hu
    rw [if_neg (by rw [UInt32.lt_iff_toNat_lt]; omega)]
    split
    · rfl
    · rename_i hlt
      rw [UInt32.lt_iff_toNat_lt] at hlt
      exact UInt32.toNat_inj.1 (by omega)
  unfold intensity
  split
  · rfl
  · rename_i hmin
    rw [hclamp hmin v h, hclamp hmin b.max UInt32.le_rfl]

/-- The colour of a value, of one that never escapes too. -/
def Gradient.paint (g : Gradient) (b : Bounds) (maxIterations v : UInt32) : Rgb :=
  if v = maxIterations then g.interior else g.color b v

namespace Palette

@[simp] lemma maxIterations_build (b : Bounds) (g : Gradient) (maxIterations : UInt32) :
    (build b g maxIterations).maxIterations = maxIterations := rfl

@[simp] lemma interior_build (b : Bounds) (g : Gradient) (maxIterations : UInt32) :
    (build b g maxIterations).interior = g.interior := rfl

/-- The colours stand at the values from zero to the upper bound. -/
lemma getElem?_colors (b : Bounds) (g : Gradient) (maxIterations : UInt32) {n : Nat}
    (h : n ≤ b.max.toNat) : (build b g maxIterations).colors[n]? = some (g.color b (.ofNat n)) := by
  simp [build, Nat.lt_succ_of_le h]

/-- What is looked up is what the gradient gives. -/
theorem lookup_build (b : Bounds) (g : Gradient) (maxIterations v : UInt32) :
    (build b g maxIterations).lookup v = .ok (g.paint b maxIterations v) := by
  have hsize : (build b g maxIterations).size - 1 = b.max.toNat := by simp [size, build]
  have hcolor : g.color b (.ofNat (min v.toNat b.max.toNat)) = g.color b v := by
    rcases Nat.le_total v.toNat b.max.toNat with hle | hle
    · rw [Nat.min_eq_left hle, UInt32.ofNat_toNat]
    · rw [Nat.min_eq_right hle, UInt32.ofNat_toNat, Gradient.color, Gradient.color,
        Bounds.intensity_of_le (UInt32.le_iff_toNat_le.2 hle)]
  rw [lookup, maxIterations_build, interior_build, Gradient.paint]
  by_cases hv : v = maxIterations
  · rw [if_pos hv, if_pos hv]
  · rw [if_neg hv, if_neg hv]
    simp only [hsize, getElem?_colors b g maxIterations (Nat.min_le_right _ _), hcolor]

end Palette

/-! ### The whole grid -/

namespace Grid

lemma mapM_eq_ok {α β ε : Type} {f : α → Except ε β} {h : α → β} (hf : ∀ a, f a = .ok (h a))
    (g : Grid α) : g.mapM f = .ok ⟨g.height, g.width, g.cells.map h⟩ := by
  obtain rfl : f = fun a => pure (h a) := funext hf
  rw [mapM, Vector.mapM_pure]
  rfl

/-- A grid with a range of colours has a picture of its size, with the colour of each cell's value in
its place. -/
theorem exists_colorize {g : Grid UInt32} {b : Bounds} {maxIterations : UInt32}
    (hb : Bounds.ofGrid g maxIterations = .ok b) (gradient : Gradient) :
    ∃ image, g.colorize maxIterations gradient = .ok image ∧ image.height = g.height ∧
      image.width = g.width ∧
      ∀ row col, image.get? row col = (g.get? row col).map (gradient.paint b maxIterations) := by
  refine ⟨⟨g.height, g.width, g.cells.map (gradient.paint b maxIterations)⟩, ?_, rfl, rfl, ?_⟩
  · rw [colorize, hb]
    exact mapM_eq_ok (Palette.lookup_build b gradient maxIterations) g
  · intro row col
    simp only [get?]
    split
    · exact Vector.getElem?_map
    · rfl

lemma colorize_of_eq_nil {g : Grid UInt32} (h : g.toList = []) (maxIterations : UInt32)
    (gradient : Gradient) : g.colorize maxIterations gradient = .error .emptyGrid := by
  rw [colorize, Bounds.ofGrid_of_eq_nil h]
  rfl

/-- **The palette agrees with the formula.** Whatever the bounds, every value finds the colour that is
computed for it, the values past the end of the palette too. So a grid with a cell has a picture of
its size with the computed colours, one without a cell is refused for that, and no colour is ever
missing. -/
theorem colorize_eq_formula :
    (∀ (b : Bounds) (gradient : Gradient) (maxIterations v : UInt32),
      (Palette.build b gradient maxIterations).lookup v =
        .ok (if v = maxIterations then gradient.interior
          else gradient.low.mix gradient.high (b.intensity v))) ∧
    ∀ (g : Grid UInt32) (maxIterations : UInt32) (gradient : Gradient),
      (0 < g.height * g.width → ∃ b image, Bounds.ofGrid g maxIterations = .ok b ∧
        g.colorize maxIterations gradient = .ok image ∧
        image.height = g.height ∧ image.width = g.width ∧
        ∀ row col, image.get? row col = (g.get? row col).map fun v =>
          if v = maxIterations then gradient.interior
          else gradient.low.mix gradient.high (b.intensity v)) ∧
      (g.height * g.width = 0 → g.colorize maxIterations gradient = .error .emptyGrid) ∧
      ∀ index, g.colorize maxIterations gradient ≠ .error (.missingColor index) := by
  refine ⟨Palette.lookup_build, fun g maxIterations gradient => ?_⟩
  have hlength : g.toList.length = g.height * g.width := by simp [toList]
  by_cases hcells : g.toList = []
  · have hempty := colorize_of_eq_nil hcells maxIterations gradient
    refine ⟨fun hpos => ?_, fun _ => hempty, fun index h => ?_⟩
    · rw [← hlength, hcells] at hpos
      exact absurd hpos (Nat.lt_irrefl 0)
    · rw [hempty] at h
      cases h
  · obtain ⟨b, hb⟩ := Bounds.exists_ofGrid hcells maxIterations
    obtain ⟨image, himage, hheight, hwidth, hget⟩ := exists_colorize hb gradient
    refine ⟨fun _ => ⟨b, image, hb, himage, hheight, hwidth, hget⟩, fun hzero => ?_, fun index h => ?_⟩
    · exact absurd (List.eq_nil_of_length_eq_zero (hlength.trans hzero)) hcells
    · rw [himage] at h
      cases h

/-- Counts from 0 to 2 and a cell that never escapes, with a gradient from black to blue. -/
theorem colorize_eq_formula_blue :
    ∃ image, colorize ⟨2, 2, #v[0, 1, 2, 100]⟩ 100 ⟨⟨0, 0, 0⟩, ⟨0, 0, 255⟩, ⟨9, 9, 9⟩⟩ = .ok image ∧
      image.height = 2 ∧ image.width = 2 ∧ image.get? 0 1 = some ⟨0, 0, 127⟩ ∧
      image.get? 1 0 = some ⟨0, 0, 255⟩ ∧ image.get? 1 1 = some ⟨9, 9, 9⟩ := by
  have hbounds : (Bounds.ofGrid ⟨2, 2, #v[0, 1, 2, 100]⟩ 100).toOption = some ⟨0, 2⟩ := by
    decide +kernel
  obtain ⟨b, image, hb, himage, hheight, hwidth, hget⟩ :=
    (colorize_eq_formula.2 ⟨2, 2, #v[0, 1, 2, 100]⟩ 100
      ⟨⟨0, 0, 0⟩, ⟨0, 0, 255⟩, ⟨9, 9, 9⟩⟩).1 (by decide)
  obtain rfl : b = ⟨0, 2⟩ := by simpa [hb, Except.toOption] using hbounds
  refine ⟨image, himage, hheight, hwidth, ?_, ?_, ?_⟩ <;> rw [hget] <;> decide +kernel

end Grid

end EscapeTime
