import EscapeTime.Config
import EscapeTime.Proofs.Kernel.Agreement
import EscapeTime.Proofs.Kernel.Unrecognized
import EscapeTime.Proofs.Picture.Palette
import EscapeTime.Proofs.Plane.Workers

namespace EscapeTime

/-!
# A valid configuration has a picture

Each stage can fail in its own way, and each is handed what it cannot fail on. What the reader takes
for a number the evaluator can read, and the code generation names no slot that it has not taken. The
size is positive, so the grid has a cell and its values have a range of colours. What remains is
strict reading, which refuses a formula that is not understood in full. In the picture the pixels
whose orbits do not escape have the colour of the interior.
-/

/-! ### Compilation -/

namespace Kernel

/-- Compilation fails on the first diagnostic if the policy is strict, and on nothing else. -/
lemma compileWith_eq (policy : Policy) (source : String) :
    compileWith policy source =
      match policy, Formula.diagnostics source with
      | .strict, d :: _ => .error (.parse d)
      | _, _ => .ok (compile source) := by
  cases policy with
  | compat => rfl
  | strict =>
    cases h : Formula.diagnostics source with
    | nil => simp [compileWith, Formula.parseStrict_eq_ok_iff.2 ⟨h, rfl⟩, compile]
    | cons d ds =>
      have herror : Formula.parseStrict source = .error d :=
        Formula.parseStrict_eq_error_iff.2 (by rw [h]; rfl)
      simp [compileWith, herror]

/-- The evaluator accepts the kernel of every formula. -/
lemma exists_evaluator_compile (source : String) :
    ∃ ev, Evaluator.ofKernel (compile source) = .ok ev := by
  obtain ⟨ev, hev, -⟩ := exists_evaluator (e := Formula.parse source)
    (Expr.readable_of_isNumeral fun _ => SyntaxTree.isNumeral_of_mem_literals)
  exact ⟨ev, hev⟩

end Kernel

/-! ### Pixels -/

namespace Engine

/-- The orbit of a pixel, as far as it is followed. -/
def pixelOrbit (p : Primitives) (e : Evaluator) (c : Engine) (row col : Nat) : List Complex :=
  let point := c.viewport.point row col c.width c.height
  match c.mode with
  | .mandelbrot => e.orbit p point c.maxIterations.toNat .zero
  | .julia parameter => e.orbit p parameter c.maxIterations.toNat point

/-- No iterate of the pixel's orbit has escaped. -/
def Stays (p : Primitives) (e : Evaluator) (c : Engine) (row col : Nat) : Prop :=
  ∀ z ∈ c.pixelOrbit p e row col,
    Evaluator.hasEscaped (c.escapeRadius * c.escapeRadius) z = false

lemma count_eq_max_iff {p : Primitives} {e : Evaluator} {c : Engine} {row col : Nat} :
    c.count p e row col = c.maxIterations ↔ c.Stays p e row col := by
  rw [count, Stays, pixelOrbit]
  cases c.mode <;> exact Evaluator.escapeCount_eq_max_iff _ _ _ _ _

end Engine

namespace Config

/-- The picture has the size that is asked for. A pixel whose orbit does not escape has the colour of
the interior; any other has the colour of its count in the range of colours of all counts. -/
structure Depicts (c : Config) (ev : Evaluator) (image : Grid Rgb) : Prop where
  height : image.height = c.engine.height
  width : image.width = c.engine.width
  interior : ∀ row < c.engine.height, ∀ col < c.engine.width,
    c.engine.Stays .standard ev row col → image.get? row col = some c.gradient.interior
  escaped : ∃ g b, c.engine.Counts .standard ev g ∧
    Bounds.ofGrid g c.engine.maxIterations = .ok b ∧
    ∀ row < c.engine.height, ∀ col < c.engine.width, ¬ c.engine.Stays .standard ev row col →
      image.get? row col = some (c.gradient.color b (c.engine.count .standard ev row col))

lemma size_pos_of_validate {c : Config} (h : c.validate = .ok ()) :
    0 < c.engine.width ∧ 0 < c.engine.height := by
  by_contra hsize
  have hempty : (c.engine.width = 0 || c.engine.height = 0) = true := by
    simp only [Bool.or_eq_true, decide_eq_true_eq]
    omega
  simp [validate, fault?, hempty] at h

/-- The counts of a picture that is not empty can be coloured. -/
lemma exists_depicts {c : Config} {ev : Evaluator} {g : Grid UInt32} (hwidth : 0 < c.engine.width)
    (hheight : 0 < c.engine.height) (hg : c.engine.Counts .standard ev g) :
    ∃ image, g.colorize c.engine.maxIterations c.gradient = .ok image ∧ c.Depicts ev image := by
  have hcells : g.toList ≠ [] :=
    Grid.toList_ne_nil (by rwa [hg.height]) (by rwa [hg.width])
  obtain ⟨b, hb⟩ := Bounds.exists_ofGrid hcells c.engine.maxIterations
  obtain ⟨image, himage, hh, hw, hget⟩ := Grid.exists_colorize hb c.gradient
  have hpixel : ∀ row < c.engine.height, ∀ col < c.engine.width, image.get? row col =
      some (c.gradient.paint b c.engine.maxIterations (c.engine.count .standard ev row col)) := by
    intro row hrow col hcol
    rw [hget, hg.cells row hrow col hcol, Option.map_some]
  refine ⟨image, himage, hh.trans hg.height, hw.trans hg.width, ?_, g, b, hg, hb, ?_⟩
  · intro row hrow col hcol hstays
    rw [hpixel row hrow col hcol, Gradient.paint, if_pos (Engine.count_eq_max_iff.2 hstays)]
  · intro row hrow col hcol hescapes
    rw [hpixel row hrow col hcol, Gradient.paint, if_neg fun hmax =>
      hescapes (Engine.count_eq_max_iff.1 hmax)]

/-- Once there is an evaluator nothing can fail. -/
lemma exists_draw {c : Config} (hvalid : c.validate = .ok ()) (ev : Evaluator) :
    ∃ image, c.draw ev = .ok image ∧ c.Depicts ev image := by
  obtain ⟨hwidth, hheight⟩ := size_pos_of_validate hvalid
  obtain ⟨g, hgrid, hg⟩ := Engine.exists_escapeCountsOn (p := .standard) (e := ev) c.engine hwidth
    hheight 1
  obtain ⟨image, himage, hdepicts⟩ := exists_depicts hwidth hheight hg
  refine ⟨image, ?_, hdepicts⟩
  simp only [draw, Engine.escapeCounts, hgrid, bind, Except.bind, himage]

lemma exists_render {c : Config} (hvalid : c.validate = .ok ())
    (hcompile : Kernel.compileWith c.policy c.expression = .ok (.compile c.expression)) :
    ∃ image ev, c.render = .ok image ∧ Evaluator.ofKernel (.compile c.expression) = .ok ev ∧
      c.Depicts ev image := by
  obtain ⟨ev, hev⟩ := Kernel.exists_evaluator_compile c.expression
  obtain ⟨image, himage, hdepicts⟩ := exists_draw hvalid ev
  refine ⟨image, ev, ?_, hev, hdepicts⟩
  simp only [render, evaluator, hvalid, hcompile, hev, Except.mapError, bind, Except.bind, himage]

/-- The two outcomes for a valid configuration. -/
lemma render_cases {c : Config} (hvalid : c.validate = .ok ()) :
    ((c.policy = .compat ∨ Formula.diagnostics c.expression = []) ∧
      ∃ image ev, c.render = .ok image ∧ Evaluator.ofKernel (.compile c.expression) = .ok ev ∧
        c.Depicts ev image) ∨
    ∃ d ds, c.policy = .strict ∧ Formula.diagnostics c.expression = d :: ds ∧
      c.render = .error (.parse d) := by
  have hcompile := Kernel.compileWith_eq c.policy c.expression
  cases hpolicy : c.policy with
  | compat =>
    rw [hpolicy] at hcompile
    exact .inl ⟨.inl rfl, exists_render hvalid (by rw [hpolicy, hcompile])⟩
  | strict =>
    rw [hpolicy] at hcompile
    cases hd : Formula.diagnostics c.expression with
    | nil =>
      rw [hd] at hcompile
      exact .inl ⟨.inr rfl, exists_render hvalid (by rw [hpolicy, hcompile])⟩
    | cons d ds =>
      rw [hd] at hcompile
      refine .inr ⟨d, ds, rfl, rfl, ?_⟩
      simp only [render, evaluator, hvalid, hpolicy, hcompile, bind, Except.bind]

/-- **A valid configuration fails only on a formula that is refused.** Under the compatible policy it
has a picture. Under the strict policy it has one exactly when there is nothing to report on the
formula, and otherwise fails with the first diagnostic. No other error can occur, and what is
returned depicts the orbits of the pixels. -/
theorem render_fails_only_on_formula (c : Config) (hvalid : c.validate = .ok ()) :
    (c.policy = .compat → ∃ image, c.render = .ok image) ∧
      (c.policy = .strict →
        ((∃ image, c.render = .ok image) ↔ Formula.diagnostics c.expression = []) ∧
        ∀ d ds, Formula.diagnostics c.expression = d :: ds → c.render = .error (.parse d)) ∧
      (∀ err, c.render = .error err → ∃ d, err = .parse d) ∧
      ∀ image, c.render = .ok image → ∃ ev,
        Evaluator.ofKernel (.compile c.expression) = .ok ev ∧ c.Depicts ev image := by
  rcases render_cases hvalid with ⟨hread, image, ev, hrender, hev, hdepicts⟩ |
    ⟨d, ds, hstrict, hd, hrender⟩
  · refine ⟨fun _ => ⟨image, hrender⟩, fun hstrict => ?_, fun err h => ?_, fun image' h => ?_⟩
    · have hnone : Formula.diagnostics c.expression = [] :=
        hread.resolve_left (by rw [hstrict]; decide)
      exact ⟨⟨fun _ => hnone, fun _ => ⟨image, hrender⟩⟩, fun d ds h => by simp [hnone] at h⟩
    · rw [hrender] at h
      cases h
    · obtain rfl := Except.ok.inj (hrender.symm.trans h)
      exact ⟨ev, hev, hdepicts⟩
  · refine ⟨fun hcompat => ?_, fun _ => ⟨?_, ?_⟩, fun err h => ?_, fun image h => ?_⟩
    · rw [hstrict] at hcompat
      cases hcompat
    · simp [hrender, hd]
    · intro d' ds' h
      rw [hrender, (List.cons.inj (hd.symm.trans h)).1]
    · exact ⟨d, (Except.error.inj (hrender.symm.trans h)).symm⟩
    · rw [hrender] at h
      cases h

/-- A formula with a word that is not understood has a picture under the compatible policy, and is
refused for that word under the strict one. -/
theorem render_unknown_word :
    (∃ image, render ⟨"z^2+foo", .compat, ⟨3, 2, 5, 2.0, .mandelbrot, .standard, 0⟩, .standard⟩ =
        .ok image ∧ image.height = 2 ∧ image.width = 3) ∧
      render ⟨"z^2+foo", .strict, ⟨3, 2, 5, 2.0, .mandelbrot, .standard, 0⟩, .standard⟩ =
        .error (.parse (.unrecognizedToken ⟨4, 7⟩ "foo")) := by
  have hvalid : ∀ policy, validate ⟨"z^2+foo", policy, ⟨3, 2, 5, 2.0, .mandelbrot, .standard, 0⟩,
      .standard⟩ = .ok () := by
    intro policy
    cases policy <;> rfl
  obtain ⟨hcompat, -, -, hpicture⟩ := render_fails_only_on_formula _ (hvalid .compat)
  obtain ⟨-, hstrict, -⟩ := render_fails_only_on_formula _ (hvalid .strict)
  obtain ⟨image, himage⟩ := hcompat rfl
  obtain ⟨ev, -, hdepicts⟩ := hpicture image himage
  have hd : Formula.diagnostics "z^2+foo" = [.unrecognizedToken ⟨4, 7⟩ "foo"] := by decide +kernel
  exact ⟨⟨image, himage, hdepicts.height, hdepicts.width⟩, (hstrict rfl).2 _ _ hd⟩

end Config

end EscapeTime
