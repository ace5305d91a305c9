import EscapeTime.Plane.Document
import EscapeTime.Proofs.Json.Decode

namespace EscapeTime

/-!
# Stored settings of the plane

The settings are read back from their document, in any order of the keys, if the doubles in it are;
the standard values stand for those that are left out, at each level on its own.
-/

open Json

namespace Complex

/-- Both parts are read as they were written. -/
def ReadsBack (a : Complex) : Prop := Json.ReadsBack a.re ∧ Json.ReadsBack a.im

lemma ofJson?_toJson {a : Complex} (h : a.ReadsBack) : ofJson? a.toJson = some a := by
  have hparts : ofJson? a.toJson = (float? (.ofFloat a.re)).bind fun re =>
      (float? (.ofFloat a.im)).bind fun im => some ⟨re, im⟩ := rfl
  rw [hparts, h.1, h.2]
  rfl

lemma orderFree_ofJson? : OrderFree ofJson? := by
  intro v w h
  refine bind_congr_rel (fields?_rel _ h) ?_
  rintro _ _ (- | ⟨hre, - | ⟨him, - | -⟩⟩)
  on_goal 3 => simp only [orderFree_float?.required hre, orderFree_float?.required him]
  all_goals rfl

@[simp] lemma writable_toJson (a : Complex) : Writable a.toJson := writable_record (by simp)

end Complex

namespace Mode

/-- The parameter is read as it was written, if there is one. -/
def ReadsBack : Mode → Prop
  | mandelbrot => True
  | julia c => c.ReadsBack

lemma sound_toJson {m : Mode} (h : m.ReadsBack) (room : Nat) : m.toJson.sound (room + 2) = true := by
  cases m with
  | mandelbrot => rfl
  | julia c =>
    have hre := h.1.sound room
    have him := h.2.sound room
    simp [toJson, Complex.toJson, sound, record, Json.text, hre, him]

lemma ofJson?_toJson {m : Mode} (h : m.ReadsBack) (room : Nat) :
    ofJson? (room + 2) m.toJson = some m := by
  have hsound := sound_toJson h room
  cases m with
  | mandelbrot => rfl
  | julia c =>
    have hbody : ofJson? (room + 2) (julia c).toJson =
        if !(julia c).toJson.sound (room + 2) then none
        else (Complex.ofJson? c.toJson).bind fun c => some (julia c) := by
      cases hs : (julia c).toJson.sound (room + 2) <;> simp only [ofJson?, hs] <;> rfl
    rw [hbody, hsound, Complex.ofJson?_toJson h]
    rfl

lemma orderFree_ofJson? (room : Nat) : OrderFree (ofJson? room) := by
  intro v w h
  simp only [ofJson?, sound_reordered room h]
  cases sound room w with
  | false => rfl
  | true =>
    refine bind_congr_rel (variant?_rel h) ?_
    rintro ⟨kind, body⟩ ⟨kind', body'⟩ ⟨hkind, hbody⟩
    simp only [orderFree_string? hkind]
    cases kind'.string? with
    | none => rfl
    | some s =>
      simp only [Option.bind_eq_bind, Option.bind_some]
      split
      · cases hbody with
        | array hitems => cases hitems <;> rfl
        | _ => rfl
      · refine bind_congr_rel (fields?_rel _ hbody) ?_
        rintro _ _ (- | ⟨hc, - | -⟩)
        on_goal 2 => simp only [Complex.orderFree_ofJson?.required hc]
        all_goals rfl
      · rfl

@[simp] lemma writable_toJson (m : Mode) : Writable m.toJson := by
  cases m with
  | mandelbrot => exact writable_record (by simp)
  | julia c => exact writable_record (by simp)

end Mode

namespace Viewport

/-- The viewport with the standard values where a name is left out. -/
def without (omitted : String → Bool) (v : Viewport) : Viewport where
  center := if omitted "center" then standard.center else v.center
  span := if omitted "span" then standard.span else v.span

lemma ofJson?_leaveOut {v : Viewport} (hcenter : v.center.ReadsBack) (hspan : Json.ReadsBack v.span)
    (omitted : String → Bool) : ofJson? (v.toJson.leaveOut omitted) = some (v.without omitted) := by
  have hfields := fields?_leaveOut [("center", v.center.toJson), ("span", .ofFloat v.span)] (by simp)
    omitted
  simp only [List.map_cons, List.map_nil] at hfields
  simp only [ofJson?, toJson, hfields, Option.bind_eq_bind, Option.bind_some,
    orDefault_ite (Complex.ofJson?_toJson hcenter), orDefault_ite hspan]
  rfl

lemma orderFree_ofJson? : OrderFree ofJson? := by
  intro v w h
  refine bind_congr_rel (fields?_rel _ h) ?_
  rintro _ _ (- | ⟨hcenter, - | ⟨hspan, - | -⟩⟩)
  on_goal 3 => simp only [Complex.orderFree_ofJson?.orDefault _ hcenter,
    orderFree_float?.orDefault _ hspan]
  all_goals rfl

@[simp] lemma writable_toJson (v : Viewport) : Writable v.toJson := writable_record (by simp)

end Viewport

namespace Engine

/-- All that is not whole is read as it was written, and the sizes fit their words. -/
structure Storable (c : Engine) : Prop where
  width : c.width ≤ greatestSize
  height : c.height ≤ greatestSize
  threads : c.threads ≤ greatestSize
  radius : Json.ReadsBack c.escapeRadius
  mode : c.mode.ReadsBack
  center : c.viewport.center.ReadsBack
  span : Json.ReadsBack c.viewport.span

/-- The points of the plane that the settings name. -/
def points (c : Engine) : List Complex :=
  c.viewport.center :: match c.mode with
    | .mandelbrot => []
    | .julia a => [a]

/-- The doubles of the settings. -/
def floats (c : Engine) : List Float :=
  c.escapeRadius :: c.viewport.span :: c.points.flatMap fun a => [a.re, a.im]

/-- The sizes of the settings. -/
def sizes (c : Engine) : List Nat := [c.width, c.height, c.threads]

lemma storable_of_forall {c : Engine} (hsize : ∀ n ∈ c.sizes, n ≤ greatestSize)
    (hread : ∀ x ∈ c.floats, Json.ReadsBack x) : c.Storable where
  width := hsize _ (by simp [sizes])
  height := hsize _ (by simp [sizes])
  threads := hsize _ (by simp [sizes])
  radius := hread _ (by simp [floats])
  mode := by
    cases hmode : c.mode with
    | mandelbrot => trivial
    | julia a =>
      exact ⟨hread a.re (by simp [floats, points, hmode]), hread a.im (by simp [floats, points, hmode])⟩
  center := ⟨hread _ (by simp [floats, points]), hread _ (by simp [floats, points])⟩
  span := hread _ (by simp [floats])

lemma count?_ofNat (n : UInt32) : count? (.ofNat n.toNat) = some n := by
  have hle : n.toNat ≤ greatestCount := Nat.le_pred_of_lt n.toNat_lt
  rw [count?, natural?_ofNat hle, Option.map_some, UInt32.ofNat_toNat]

/-- The settings with the standard values where a name is left out, here and in the viewport. -/
def without (omitted inViewport : String → Bool) (c : Engine) : Engine where
  width := if omitted "width" then standard.width else c.width
  height := if omitted "height" then standard.height else c.height
  maxIterations := if omitted "max_iterations" then standard.maxIterations else c.maxIterations
  escapeRadius := if omitted "escape_radius" then standard.escapeRadius else c.escapeRadius
  mode := if omitted "mode" then standard.mode else c.mode
  viewport := if omitted "viewport" then standard.viewport else c.viewport.without inViewport
  threads := if omitted "threads" then standard.threads else c.threads

/-- The document of the settings without some of them, here and in the viewport. -/
def partialJson (omitted inViewport : String → Bool) (c : Engine) : Json :=
  (c.toJson.inField "viewport" (leaveOut inViewport)).leaveOut omitted

lemma ofJson?_partialJson {c : Engine} (h : c.Storable) (omitted inViewport : String → Bool)
    (room : Nat) :
    ofJson? (room + 3) (c.partialJson omitted inViewport) = some (c.without omitted inViewport) := by
  have hdocument : c.toJson.inField "viewport" (leaveOut inViewport) =
      .record [("width", .ofNat c.width), ("height", .ofNat c.height),
        ("max_iterations", .ofNat c.maxIterations.toNat), ("escape_radius", .ofFloat c.escapeRadius),
        ("mode", c.mode.toJson), ("viewport", c.viewport.toJson.leaveOut inViewport),
        ("threads", .ofNat c.threads)] := by
    simp [toJson, inField_record]
  have hfields := fields?_leaveOut [("width", .ofNat c.width), ("height", .ofNat c.height),
    ("max_iterations", .ofNat c.maxIterations.toNat), ("escape_radius", .ofFloat c.escapeRadius),
    ("mode", c.mode.toJson), ("viewport", c.viewport.toJson.leaveOut inViewport),
    ("threads", .ofNat c.threads)] (by simp) omitted
  simp only [List.map_cons, List.map_nil] at hfields
  simp only [ofJson?, partialJson, hdocument, hfields, Option.bind_eq_bind, Option.bind_some,
    orDefault_ite (natural?_ofNat h.width), orDefault_ite (natural?_ofNat h.height),
    orDefault_ite (count?_ofNat c.maxIterations), orDefault_ite h.radius,
    orDefault_ite (Mode.ofJson?_toJson h.mode room),
    orDefault_ite (Viewport.ofJson?_leaveOut h.center h.span inViewport),
    orDefault_ite (natural?_ofNat h.threads), Nat.add_one_sub_one]
  rfl

lemma orderFree_count? : OrderFree count? := by
  intro v w h
  rw [count?, count?, orderFree_natural? _ h]

lemma orderFree_ofJson? (room : Nat) : OrderFree (ofJson? room) := by
  intro v w h
  refine bind_congr_rel (fields?_rel _ h) ?_
  rintro _ _ (- | ⟨hwidth, - | ⟨hheight, - | ⟨hiterations, - | ⟨hradius, - | ⟨hmode, - | ⟨hviewport,
    - | ⟨hthreads, - | -⟩⟩⟩⟩⟩⟩⟩)
  on_goal 8 => simp only [(orderFree_natural? _).orDefault _ hwidth,
    (orderFree_natural? _).orDefault _ hheight, orderFree_count?.orDefault _ hiterations,
    orderFree_float?.orDefault _ hradius, (Mode.orderFree_ofJson? _).orDefault _ hmode,
    Viewport.orderFree_ofJson?.orDefault _ hviewport, (orderFree_natural? _).orDefault _ hthreads]
  all_goals rfl

@[simp] lemma writable_toJson (c : Engine) : Writable c.toJson := writable_record (by simp)

end Engine

end EscapeTime
