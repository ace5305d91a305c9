import EscapeTime.Proofs.Config
import EscapeTime.Proofs.Picture.Ppm
import EscapeTime.Proofs.Render

namespace EscapeTime

/-!
# The size of a picture

Each size of a configuration that is read is a positive word, and that is all that is known of it:
the checks look at one size at a time. The grid has as many cells as the product of the sizes and the
picture three bytes for each, so either may be more than a block of memory can hold. Only bounds on
both sizes rule this out. The grid that is counted here is taken to be had all the same.
-/

open Json

/-! ### Sizes that are read -/

namespace Engine

/-- Both sizes fit their words. -/
def Worded (c : Engine) : Prop := c.width ≤ greatestSize ∧ c.height ≤ greatestSize

lemma worded_standard : Worded .standard := by constructor <;> decide

lemma worded_of_ofJson? {room : Nat} {v : Json} {c : Engine} (h : ofJson? room v = some c) :
    c.Worded := by
  simp only [ofJson?, Option.bind_eq_bind, Option.bind_eq_some_iff] at h
  obtain ⟨fields, -, h⟩ := h
  split at h
  · simp only [Option.bind_eq_some_iff] at h
    obtain ⟨width, hwidth, height, hheight, _, -, _, -, _, -, _, -, _, -, hc⟩ := h
    obtain rfl := Option.some.inj hc
    exact ⟨orDefault_induction (P := (· ≤ greatestSize)) worded_standard.1
        (fun _ _ => natural?_le) hwidth,
      orDefault_induction (P := (· ≤ greatestSize)) worded_standard.2
        (fun _ _ => natural?_le) hheight⟩
  · cases h

end Engine

namespace Config

lemma worded_of_ofJson? {room : Nat} {v : Json} {c : Config} (h : ofJson? room v = some c) :
    c.engine.Worded := by
  simp only [ofJson?, Option.bind_eq_bind, Option.bind_eq_some_iff] at h
  obtain ⟨fields, -, h⟩ := h
  split at h
  · simp only [Option.bind_eq_some_iff] at h
    obtain ⟨_, -, _, -, engine, hengine, _, -, hc⟩ := h
    obtain rfl := Option.some.inj hc
    exact orDefault_induction Engine.worded_standard (fun _ _ => Engine.worded_of_ofJson?) hengine
  · cases h

/-- The document that gives the sizes and nothing else. -/
def sized (width height : Nat) : Json :=
  .record [("engine", .record [("width", .ofNat width), ("height", .ofNat height)])]

lemma ofText_sized {width height : Nat} (hwidth : 0 < width ∧ width ≤ Engine.greatestSize)
    (hheight : 0 < height ∧ height ≤ Engine.greatestSize) :
    ofText (String.ofList (sized width height).compact) =
      .ok { standard with engine := { Engine.standard with width := width, height := height } } := by
  have hwritable : Writable (sized width height) := writable_record (by
    simpa using writable_record (by simp))
  have hengine : Engine.ofJson? (depthLimit - 1)
      (.record [("width", .ofNat width), ("height", .ofNat height)]) =
      some { Engine.standard with width := width, height := height } := by
    have hfields : fields? ["width", "height", "max_iterations", "escape_radius", "mode",
        "viewport", "threads"] (.record [("width", .ofNat width), ("height", .ofNat height)]) =
        some [some (.ofNat width), some (.ofNat height), none, none, none, none, none] := rfl
    simp only [Engine.ofJson?, hfields, Option.bind_eq_bind, Option.bind_some, orDefault,
      natural?_ofNat hwidth.2, natural?_ofNat hheight.2]
    rfl
  refine ofText_eq_ok_iff.2 ⟨?_, validate_eq_ok_iff.2 ?_⟩
  · rw [String.toList_ofList, parse?_compact hwritable, Option.bind_some]
    have hfields : fields? ["expression", "raw_leaf", "engine", "gradient"] (sized width height) =
        some [none, none, some (.record [("width", .ofNat width), ("height", .ofNat height)]),
          none] := rfl
    simp only [ofJson?, hfields, Option.bind_eq_bind, Option.bind_some, orDefault, hengine]
    rfl
  · exact { sensible_standard with width := by simpa using hwidth.1.ne', height := hheight.1.ne' }

lemma sizes_of_ofText {s : String} {c : Config} (h : ofText s = .ok c) :
    (0 < c.engine.width ∧ c.engine.width ≤ Engine.greatestSize) ∧
      0 < c.engine.height ∧ c.engine.height ≤ Engine.greatestSize := by
  obtain ⟨hread, hvalid⟩ := ofText_eq_ok_iff.1 h
  obtain ⟨v, -, hv⟩ := Option.bind_eq_some_iff.1 hread
  obtain ⟨hwidth, hheight⟩ := size_pos_of_validate hvalid
  have hworded := worded_of_ofJson? hv
  exact ⟨⟨hwidth, hworded.1⟩, hheight, hworded.2⟩

end Config

/-! ### Sizes that fit into memory -/

namespace Engine

/-- The bytes of the pixels. -/
def byteCount (c : Engine) : Nat := 3 * c.cellCount

/-- The numbers of cells and of bytes are extents of blocks of memory. -/
def Fits (c : Engine) : Prop := c.cellCount ≤ greatestExtent ∧ c.byteCount ≤ greatestExtent

/-- The bytes are more than the cells. -/
lemma fits_iff_byteCount {c : Engine} : c.Fits ↔ c.byteCount ≤ greatestExtent := by
  refine ⟨fun hfits => hfits.2, fun hle => ⟨?_, hle⟩⟩
  unfold byteCount at hle
  omega

/-- One division tells whether the picture fits. -/
lemma fits_iff_le_div {c : Engine} (h : 0 < c.height) :
    c.Fits ↔ c.width ≤ greatestExtent / (3 * c.height) := by
  have hbytes : c.width * (3 * c.height) = c.byteCount := by
    rw [byteCount, cellCount, Nat.mul_left_comm]
  rw [fits_iff_byteCount, Nat.le_div_iff_mul_le (by omega), hbytes]

lemma Counts.length_toList {p : Primitives} {ev : Evaluator} {c : Engine} {g : Grid UInt32}
    (h : c.Counts p ev g) : g.toList.length = c.cellCount := by
  rw [Grid.length_toList, h.height, h.width, Nat.mul_comm, cellCount]

end Engine

namespace Config

lemma Depicts.length_body {c : Config} {ev : Evaluator} {image : Grid Rgb}
    (h : c.Depicts ev image) : (Ppm.body image).length = c.engine.byteCount := by
  rw [Ppm.length_body, h.width, h.height, Nat.mul_assoc, Engine.byteCount, Engine.cellCount]

/-- Bounds on the sizes of what is accepted make it fit if the greatest picture within them does. -/
lemma forall_fits_iff (width height : Nat) :
    (∀ s c, ofText s = .ok c → c.engine.width ≤ width → c.engine.height ≤ height →
      c.engine.Fits) ↔
    3 * (min width Engine.greatestSize * min height Engine.greatestSize) ≤
      Engine.greatestExtent := by
  constructor
  · intro h
    rcases Nat.eq_zero_or_pos (min width Engine.greatestSize) with hzero | hwidth
    · simp [hzero]
    rcases Nat.eq_zero_or_pos (min height Engine.greatestSize) with hzero | hheight
    · simp [hzero]
    have hfits := h _ _ (ofText_sized ⟨hwidth, min_le_right _ _⟩ ⟨hheight, min_le_right _ _⟩)
      (min_le_left _ _) (min_le_left _ _)
    exact hfits.2
  · intro h s c hc hwidth hheight
    obtain ⟨⟨-, hwidth'⟩, -, hheight'⟩ := sizes_of_ofText hc
    have hcells : c.engine.cellCount ≤
        min width Engine.greatestSize * min height Engine.greatestSize :=
      Nat.mul_le_mul (le_min hwidth hwidth') (le_min hheight hheight')
    rw [Engine.fits_iff_byteCount]
    exact (Nat.mul_le_mul_left 3 hcells).trans h

/-- **What is accepted need not fit.** The sizes of what is read are any two positive words. The grid
has as many cells as their product and the picture three bytes for each, and one division tells
whether they fit into memory. So only bounds on both sizes make sure that every picture fits, and
they do exactly if the greatest picture within them does. -/
theorem ofText_sizes_fit_iff (width height : Nat) :
    ((∃ s c, ofText s = .ok c ∧ c.engine.width = width ∧ c.engine.height = height) ↔
      (0 < width ∧ width ≤ Engine.greatestSize) ∧ 0 < height ∧ height ≤ Engine.greatestSize) ∧
    (∀ s c, ofText s = .ok c → c.engine.width = width → c.engine.height = height →
      (∀ p ev offered, ∃ g, c.engine.escapeCountsOn p ev offered = .ok g ∧
        g.toList.length = width * height) ∧
      (∀ image, c.render = .ok image → (Ppm.body image).length = 3 * (width * height)) ∧
      (c.engine.Fits ↔ width ≤ Engine.greatestExtent / (3 * height))) ∧
    ((∀ s c, ofText s = .ok c → c.engine.width ≤ width → c.engine.height ≤ height →
        c.engine.Fits) ↔
      3 * (min width Engine.greatestSize * min height Engine.greatestSize) ≤
        Engine.greatestExtent) := by
  refine ⟨⟨?_, fun h => ⟨_, _, ofText_sized h.1 h.2, rfl, rfl⟩⟩, ?_, forall_fits_iff width height⟩
  · rintro ⟨s, c, h, rfl, rfl⟩
    exact sizes_of_ofText h
  rintro s c h rfl rfl
  obtain ⟨hwidth, hheight⟩ := sizes_of_ofText h
  refine ⟨fun p ev offered => ?_, fun image himage => ?_, Engine.fits_iff_le_div hheight.1⟩
  · obtain ⟨g, hg, hcounts⟩ := Engine.exists_escapeCountsOn c.engine hwidth.1 hheight.1 offered
    exact ⟨g, hg, hcounts.length_toList⟩
  · rcases render_cases (ofText_eq_ok_iff.1 h).2 with ⟨-, image', ev, hrender, -, hdepicts⟩ |
      ⟨d, ds, -, -, hrender⟩
    · obtain rfl := Except.ok.inj (hrender.symm.trans himage)
      exact hdepicts.length_body
    · rw [hrender] at himage
      cases himage

/-- All that is accepted fits if its sides are at most those of the greatest square that does. A
single row is accepted whose cells fit and whose bytes do not. -/
theorem ofText_sizes_fit_iff_square :
    (∀ s c, ofText s = .ok c → c.engine.width ≤ 1753413056 → c.engine.height ≤ 1753413056 →
      c.engine.Fits) ∧
    (¬ ∀ s c, ofText s = .ok c → c.engine.width ≤ 1753413057 → c.engine.height ≤ 1753413057 →
      c.engine.Fits) ∧
    ∃ s c, ofText s = .ok c ∧ c.engine.cellCount ≤ Engine.greatestExtent ∧ ¬ c.engine.Fits := by
  obtain ⟨-, -, hsquare⟩ := ofText_sizes_fit_iff 1753413056 1753413056
  obtain ⟨-, -, hnext⟩ := ofText_sizes_fit_iff 1753413057 1753413057
  obtain ⟨haccepted, hrow, -⟩ := ofText_sizes_fit_iff 4611686018427387904 1
  obtain ⟨s, c, h, hw, hh⟩ := haccepted.2 (by decide)
  refine ⟨hsquare.2 (by decide), fun hall => ?_, s, c, h, ?_, fun hfits => ?_⟩
  · exact absurd (hnext.1 hall) (by decide)
  · rw [Engine.cellCount, hw, hh]
    decide
  · exact absurd ((hrow s c h hw hh).2.2.1 hfits) (by decide)

/-- A square that is accepted though the number of its cells is not even a word. -/
theorem ofText_sizes_overflow :
    ∃ c, ofText "\x7b\"engine\":\x7b\"width\":4294967296,\"height\":4294967296\x7d\x7d" = .ok c ∧
      Engine.greatestSize < c.engine.cellCount ∧ ¬ c.engine.Fits := by
  have hword : 0 < 4294967296 ∧ 4294967296 ≤ Engine.greatestSize := by decide
  have htext : String.ofList (sized 4294967296 4294967296).compact =
      "\x7b\"engine\":\x7b\"width\":4294967296,\"height\":4294967296\x7d\x7d" := by decide +kernel
  refine ⟨_, htext ▸ ofText_sized hword hword, by decide, fun hfits => ?_⟩
  exact absurd hfits.1 (by decide)

end Config

end EscapeTime
