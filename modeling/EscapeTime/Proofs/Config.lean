import EscapeTime.Config
import EscapeTime.Proofs.Picture.Document
import EscapeTime.Proofs.Plane.Document

namespace EscapeTime

/-!
# Stored configurations

Any part of a configuration's document may be left out, and its keys may stand in any order. What is
read makes sense whenever the whole does: each check looks at one setting, and the standard value of
that setting passes it.
-/

open Json

lemma Policy.ofJson?_tag (p : Policy) : ofJson? (.text p.tag) = some p := by cases p <;> rfl

lemma Policy.orderFree_ofJson? : OrderFree ofJson? := by
  intro v w h
  rw [ofJson?, ofJson?, orderFree_name? false h]

/-- What a document leaves out, by the names of the fields at each level. -/
structure Omission where
  config : String → Bool
  engine : String → Bool
  viewport : String → Bool
  gradient : String → Bool

/-- Nothing is left out. -/
def Omission.nothing : Omission := ⟨fun _ => false, fun _ => false, fun _ => false, fun _ => false⟩

namespace Config

/-- The configuration with the standard values where a name is left out. -/
def without (o : Omission) (c : Config) : Config where
  expression := if o.config "expression" then standard.expression else c.expression
  policy := if o.config "raw_leaf" then standard.policy else c.policy
  engine := if o.config "engine" then standard.engine else c.engine.without o.engine o.viewport
  gradient := if o.config "gradient" then standard.gradient else c.gradient.without o.gradient

/-- The document of the configuration without some of its fields. -/
def partialJson (o : Omission) (c : Config) : Json :=
  ((c.toJson.inField "engine" (leaveOut o.engine ∘ inField "viewport" (leaveOut o.viewport))).inField
    "gradient" (leaveOut o.gradient)).leaveOut o.config

/-! ### Reading what is there -/

lemma ofJson?_partialJson {c : Config} (h : c.engine.Storable) (o : Omission) (room : Nat) :
    ofJson? (room + 4) (c.partialJson o) = some (c.without o) := by
  have hdocument : (c.toJson.inField "engine"
        (leaveOut o.engine ∘ inField "viewport" (leaveOut o.viewport))).inField
      "gradient" (leaveOut o.gradient) =
      .record [("expression", .text c.expression), ("raw_leaf", .text c.policy.tag),
        ("engine", c.engine.partialJson o.engine o.viewport),
        ("gradient", c.gradient.toJson.leaveOut o.gradient)] := by
    simp [toJson, inField_record, Engine.partialJson]
  have hfields := fields?_leaveOut [("expression", .text c.expression),
    ("raw_leaf", .text c.policy.tag), ("engine", c.engine.partialJson o.engine o.viewport),
    ("gradient", c.gradient.toJson.leaveOut o.gradient)] (by simp) o.config
  simp only [List.map_cons, List.map_nil] at hfields
  have hexpression : string? (.text c.expression) = some c.expression := rfl
  simp only [ofJson?, partialJson, hdocument, hfields, Option.bind_eq_bind, Option.bind_some,
    orDefault_ite hexpression, orDefault_ite (Policy.ofJson?_tag c.policy),
    orDefault_ite (Engine.ofJson?_partialJson h o.engine o.viewport room),
    orDefault_ite (Gradient.ofJson?_leaveOut c.gradient o.gradient), Nat.add_one_sub_one]
  rfl

lemma orderFree_ofJson? (room : Nat) : OrderFree (ofJson? room) := by
  intro v w h
  refine bind_congr_rel (fields?_rel _ h) ?_
  rintro _ _ (- | ⟨hexpression, - | ⟨hpolicy, - | ⟨hengine, - | ⟨hgradient, - | -⟩⟩⟩⟩)
  on_goal 5 => simp only [orderFree_string?.orDefault _ hexpression,
    Policy.orderFree_ofJson?.orDefault _ hpolicy, (Engine.orderFree_ofJson? _).orDefault _ hengine,
    Gradient.orderFree_ofJson?.orDefault _ hgradient]
  all_goals rfl

lemma writable_partialJson (o : Omission) (c : Config) : Writable (c.partialJson o) := by
  have hwhole : Writable c.toJson := writable_record (by simp)
  exact ((hwhole.inField "engine" fun w hw =>
    (hw.inField "viewport" fun w hw => hw.leaveOut _).leaveOut _).inField
      "gradient" fun w hw => hw.leaveOut _).leaveOut _

/-! ### Checking what is read -/

/-- What the checks ask of the settings. Each looks at one of them. -/
structure Sensible (c : Engine) : Prop where
  width : c.width ≠ 0
  height : c.height ≠ 0
  maxIterations : c.maxIterations ≠ 0
  radius : isPositive c.escapeRadius
  span : isPositive c.viewport.span

lemma validate_eq_ok_iff {c : Config} : c.validate = .ok () ↔ Sensible c.engine := by
  unfold validate fault?
  split_ifs with hsize hiterations hradius hspan
  · refine iff_of_false (by simp) fun h => ?_
    simp [h.width, h.height] at hsize
  · exact iff_of_false (by simp) fun h => h.maxIterations hiterations
  · refine iff_of_false (by simp) fun h => ?_
    simp [h.radius] at hradius
  · refine iff_of_false (by simp) fun h => ?_
    simp [h.span] at hspan
  · simp only [Bool.or_eq_true, decide_eq_true_eq, not_or] at hsize
    exact iff_of_true rfl ⟨hsize.1, hsize.2, hiterations, by simpa using hradius, by simpa using hspan⟩

lemma sensible_standard : Sensible .standard := by constructor <;> decide

/-- Settings that make sense still do if some of them have their standard values. -/
lemma Sensible.without {c : Engine} (h : Sensible c) (omitted inViewport : String → Bool) :
    Sensible (c.without omitted inViewport) where
  width := iteInduction (motive := (· ≠ 0)) (fun _ => sensible_standard.width) fun _ => h.width
  height := iteInduction (motive := (· ≠ 0)) (fun _ => sensible_standard.height) fun _ => h.height
  maxIterations := iteInduction (motive := (· ≠ 0)) (fun _ => sensible_standard.maxIterations)
    fun _ => h.maxIterations
  radius := iteInduction (motive := (isPositive ·)) (fun _ => sensible_standard.radius)
    fun _ => h.radius
  span := iteInduction (motive := fun v : Viewport => isPositive v.span)
    (fun _ => sensible_standard.span) fun _ =>
      iteInduction (motive := (isPositive ·)) (fun _ => sensible_standard.span) fun _ => h.span

lemma validate_without {c : Config} (h : c.validate = .ok ()) (o : Omission) :
    (c.without o).validate = .ok () := by
  have hsensible : Sensible c.engine := validate_eq_ok_iff.1 h
  exact validate_eq_ok_iff.2 (iteInduction (motive := Sensible) (fun _ => sensible_standard)
    fun _ => hsensible.without o.engine o.viewport)

/-! ### Reading and checking -/

/-- A configuration is read from a text when the document describes it and it passes the checks. -/
lemma ofText_eq_ok_iff {s : String} {c : Config} :
    ofText s = .ok c ↔
      (parse? s.toList).bind (ofJson? depthLimit) = some c ∧ c.validate = .ok () := by
  unfold ofText
  cases hdocument : (parse? s.toList).bind (ofJson? depthLimit) with
  | none => simp
  | some c' =>
    cases hvalid : c'.validate with
    | error e =>
      refine iff_of_false (by simp [hvalid, bind, Except.bind]) ?_
      rintro ⟨h, hc⟩
      rw [← Option.some.inj h, hvalid] at hc
      cases hc
    | ok u =>
      simp only [hvalid, bind, Except.bind, pure, Except.pure, Except.ok.injEq, Option.some.injEq]
      refine ⟨fun h => ⟨h, h ▸ hvalid⟩, fun h => h.1⟩

lemma isFinite_of_mem_floats {c : Config} (hvalid : c.validate = .ok ())
    (hfinite : ∀ a ∈ c.engine.points, a.re.isFinite ∧ a.im.isFinite) :
    ∀ x ∈ c.engine.floats, x.isFinite := by
  have hsensible : Sensible c.engine := validate_eq_ok_iff.1 hvalid
  have hpositive : ∀ {x : Float}, isPositive x → x.isFinite := fun h => (Bool.and_eq_true_iff.1 h).1
  intro x hx
  simp only [Engine.floats, List.mem_cons, List.mem_flatMap, List.not_mem_nil, or_false] at hx
  rcases hx with rfl | rfl | ⟨a, ha, rfl | rfl⟩
  · exact hpositive hsensible.radius
  · exact hpositive hsensible.span
  · exact (hfinite a ha).1
  · exact (hfinite a ha).2

lemma ofText_reordered {c : Config} (hvalid : c.validate = .ok ()) (hstorable : c.engine.Storable)
    (o : Omission) {j : Json} (h : Reordered (c.partialJson o) j) :
    ∀ text ∈ [j.compact, j.pretty], ofText (String.ofList text) = .ok (c.without o) := by
  have hread : ofJson? depthLimit j = some (c.without o) := by
    rw [← orderFree_ofJson? depthLimit h]
    exact ofJson?_partialJson hstorable o 123
  intro text htext
  have hparse : parse? text = some j := parse?_of_reordered (writable_partialJson o c) h text htext
  rw [ofText, String.toList_ofList, hparse, Option.bind_some, hread]
  simp only [validate_without hvalid o]
  rfl

lemma partialJson_nothing (c : Config) : c.partialJson .nothing = c.toJson := by
  simp [partialJson, Omission.nothing]

/-- **A configuration is read back from any part of its document.** Its numbers must be finite and read
as they are written, and the sizes must fit their words. Then either layout of the document, without
any of the fields at the four levels and with the keys in any order, is read as the configuration with
the standard values for what is left out; a policy that is left out is the strict one. The whole
document is read as the configuration itself. -/
theorem ofText_partialJson {c : Config} (hvalid : c.validate = .ok ())
    (hfinite : ∀ a ∈ c.engine.points, a.re.isFinite ∧ a.im.isFinite)
    (hread : ∀ x ∈ c.engine.floats, x.isFinite → ReadsBack x)
    (hsize : ∀ n ∈ c.engine.sizes, n ≤ Engine.greatestSize) :
    (∀ o j, Reordered (c.partialJson o) j → ∀ text ∈ [j.compact, j.pretty],
      ofText (String.ofList text) = .ok (c.without o)) ∧
    (∀ o : Omission, o.config "raw_leaf" → (c.without o).policy = .strict) ∧
    ∀ j, Reordered c.toJson j → ∀ text ∈ [j.compact, j.pretty],
      ofText (String.ofList text) = .ok c := by
  have hstorable : c.engine.Storable := Engine.storable_of_forall hsize fun x hx =>
    hread x hx (isFinite_of_mem_floats hvalid hfinite x hx)
  refine ⟨fun o j => ofText_reordered hvalid hstorable o, fun o ho => ?_, fun j h => ?_⟩
  · simp only [without, if_pos ho, standard]
  · rw [← partialJson_nothing] at h
    exact ofText_reordered hvalid hstorable .nothing h

/-- A Julia picture of which some settings are given, the keys from last to first. A negative zero is
among the numbers. -/
theorem ofText_partialJson_julia :
    let center : Json := .record [("im", .ofFloat (-0.0)), ("re", .ofFloat 0.5)]
    let mode : Json := .record [("c", .record [("im", .ofFloat 2.0), ("re", .ofFloat 0.5)]),
      ("kind", .text "julia")]
    let engine : Json := .record [("viewport", .record [("center", center)]), ("mode", mode),
      ("width", .ofNat 3)]
    let j : Json := .record [("gradient", .record [("low", .text "#0a0b0c")]), ("engine", engine),
      ("expression", .text "z^3+c")]
    ofText (String.ofList j.compact) = .ok ⟨"z^3+c", .strict,
      ⟨3, 400, 256, 2.0, .julia ⟨0.5, 2.0⟩, ⟨⟨0.5, -0.0⟩, 3.0⟩, 0⟩,
      ⟨⟨10, 11, 12⟩, Gradient.standard.high, Gradient.standard.interior⟩⟩ := by
  intro center mode engine j
  have htwo : ReadsBack 2.0 :=
    readsBack_of_near (n := ⟨false, ['2'], ['0'], none⟩) (by decide +kernel) (by decide) rfl
  have hhalf : ReadsBack 0.5 :=
    readsBack_of_near (n := ⟨false, ['0'], ['5'], none⟩) (by decide +kernel) (by decide) rfl
  have hzero : ReadsBack (-0.0) :=
    readsBack_of_near (n := ⟨true, ['0'], ['0'], none⟩) (by decide +kernel) (by decide) rfl
  let c : Config := ⟨"z^3+c", .compat, ⟨3, 2, 50, 2.0, .julia ⟨0.5, 2.0⟩, ⟨⟨0.5, -0.0⟩, 2.0⟩, 4⟩,
    ⟨⟨10, 11, 12⟩, ⟨4, 5, 6⟩, ⟨1, 2, 3⟩⟩⟩
  let o : Omission := ⟨(· == "raw_leaf"),
    (["height", "max_iterations", "escape_radius", "threads"].contains ·), (· == "span"),
    (["high", "interior"].contains ·)⟩
  have hdocument : c.partialJson o = .record [("expression", .text "z^3+c"),
      ("engine", .record [("width", .ofNat 3), ("mode", (Mode.julia ⟨0.5, 2.0⟩).toJson),
        ("viewport", .record [("center", Complex.toJson ⟨0.5, -0.0⟩)])]),
      ("gradient", .record [("low", .text "#0a0b0c")])] := by
    have hcolor : Rgb.toJson ⟨10, 11, 12⟩ = .text "#0a0b0c" := congrArg Json.text (by decide)
    simp [c, o, partialJson, toJson, Engine.toJson, Viewport.toJson, Gradient.toJson, inField_record,
      leaveOut_record, hcolor]
  have hpoint : ∀ x y, Reordered (Complex.toJson ⟨x, y⟩)
      (.record [("im", .ofFloat y), ("re", .ofFloat x)]) := fun x y =>
    reordered_reverse (.cons ⟨rfl, .refl _⟩ (.cons ⟨rfl, .refl _⟩ .nil))
  have hmode : Reordered (Mode.julia ⟨0.5, 2.0⟩).toJson mode :=
    reordered_reverse (.cons ⟨rfl, .refl _⟩ (.cons ⟨rfl, hpoint 0.5 2.0⟩ .nil))
  have hviewport : Reordered (.record [("center", Complex.toJson ⟨0.5, -0.0⟩)])
      (.record [("center", center)]) := reordered_reverse (.cons ⟨rfl, hpoint 0.5 (-0.0)⟩ .nil)
  have hengine : Reordered (.record [("width", .ofNat 3), ("mode", (Mode.julia ⟨0.5, 2.0⟩).toJson),
      ("viewport", .record [("center", Complex.toJson ⟨0.5, -0.0⟩)])]) engine := reordered_reverse
    (.cons ⟨rfl, .refl _⟩ (.cons ⟨rfl, hmode⟩ (.cons ⟨rfl, hviewport⟩ .nil)))
  have hj : Reordered (c.partialJson o) j := by
    rw [hdocument]
    exact reordered_reverse (.cons ⟨rfl, .refl _⟩ (.cons ⟨rfl, hengine⟩ (.cons ⟨rfl, .refl _⟩ .nil)))
  exact (ofText_partialJson (c := c) (validate_eq_ok_iff.2 (by constructor <;> decide))
    (by simp [c, Engine.points]; decide) (by simp [c, Engine.floats, Engine.points, htwo, hhalf, hzero])
    (by simp [c, Engine.sizes]; decide)).1 o j hj _ List.mem_cons_self

end Config

end EscapeTime
