import EscapeTime.Proofs.Shell.FileTree
import EscapeTime.Proofs.Size
import EscapeTime.Shell.CommandLine

namespace EscapeTime.Shell

/-!
# What rendering does to the files

Whatever can go wrong with a configuration goes wrong before the picture's file is created: the
configuration is read, checked and turned into a picture first. So where there is no picture the
files are as they were, and so they are where the picture's file cannot be created. Once it has been
created it is empty, whatever it held, and then the bytes of the picture are written. If that breaks
off, the first of them stay behind. No other file changes in any case.

A picture whose grid no block of memory can hold ends the run with a crash, before anything is
written. That memory of a lesser extent can be had, and workers, is taken for granted.
-/

/-! ### From a file to a picture -/

/-- Why the bytes of a file are no configuration. -/
inductive Rejected (bytes : List UInt8) : Error → Prop
  | notText (h : String.fromUTF8? ⟨bytes.toArray⟩ = none) : Rejected bytes (.file .invalidUtf8)
  /-- The text is no document, or one whose values do not fit. -/
  | malformed {text : String} (htext : String.fromUTF8? ⟨bytes.toArray⟩ = some text)
    (h : (Json.parse? text.toList).bind (Config.ofJson? Json.depthLimit) = none) :
    Rejected bytes .malformed
  | invalid {text : String} {c : Config} {fault : ConfigFault}
    (htext : String.fromUTF8? ⟨bytes.toArray⟩ = some text)
    (hc : (Json.parse? text.toList).bind (Config.ofJson? Json.depthLimit) = some c)
    (h : c.fault? = some fault) : Rejected bytes (.invalidConfig fault)

lemma ofBytes_eq_error_iff {bytes : List UInt8} {e : Error} :
    Config.ofBytes bytes = .error e ↔ Rejected bytes e := by
  constructor
  · intro h
    unfold Config.ofBytes at h
    split at h
    · rename_i htext
      obtain rfl := Except.error.inj h
      exact .notText htext
    rename_i text htext
    unfold Config.ofText at h
    split at h
    · rename_i hc
      obtain rfl := Except.error.inj h
      exact .malformed htext hc
    rename_i c hc
    unfold Config.validate at h
    cases hfault : c.fault? with
    | none =>
      rw [hfault] at h
      cases h
    | some fault =>
      rw [hfault] at h
      obtain rfl := Except.error.inj h
      exact .invalid htext hc hfault
  · intro h
    cases h with
    | notText htext => simp only [Config.ofBytes, htext]
    | malformed htext hc => simp only [Config.ofBytes, htext, Config.ofText, hc]
    | invalid htext hc hfault =>
      simp only [Config.ofBytes, htext, Config.ofText, hc, Config.validate, hfault]
      rfl

section Reading

variable (limits : Limits) (t : FileTree) (path : String)

/-- The file holds the configuration. -/
def Holds (c : Config) : Prop :=
  ∃ bytes, t.read limits path = .ok bytes ∧ Config.ofBytes bytes = .ok c

/-- Why a file gives no picture. -/
inductive NoPicture : Error → Prop
  | unread {fault : FileFault} (h : t.read limits path = .error fault) : NoPicture (.file fault)
  | rejected {bytes : List UInt8} {e : Error} (hread : t.read limits path = .ok bytes)
    (h : Rejected bytes e) : NoPicture e
  /-- The formula is not compiled. -/
  | refused {c : Config} {e : Error} (hc : Holds limits t path c)
    (h : Kernel.compileWith c.policy c.expression = .error e) : NoPicture e
  | unrendered {c : Config} {e : Error} (hc : Holds limits t path c) (h : c.render = .error e) :
    NoPicture e

variable {limits t path}

lemma Holds.unique {c c' : Config} (h : Holds limits t path c) (h' : Holds limits t path c') :
    c = c' := by
  obtain ⟨bytes, hread, hc⟩ := h
  obtain ⟨bytes', hread', hc'⟩ := h'
  obtain rfl := Except.ok.inj (hread.symm.trans hread')
  exact Except.ok.inj (hc.symm.trans hc')

lemma Holds.validate {c : Config} (h : Holds limits t path c) : c.validate = .ok () := by
  obtain ⟨bytes, -, hbytes⟩ := h
  unfold Config.ofBytes at hbytes
  split at hbytes
  · cases hbytes
  · exact (Config.ofText_eq_ok_iff.1 hbytes).2

/-- A configuration whose formula is refused has no picture. -/
lemma render_of_refused {c : Config} {e : Error} (hvalid : c.validate = .ok ())
    (h : Kernel.compileWith c.policy c.expression = .error e) : c.render = .error e := by
  simp only [Config.render, Config.evaluator, hvalid, h, bind, Except.bind]

/-- A file that holds a configuration with a picture gives no other answer. -/
lemma NoPicture.not_render {c : Config} {e : Error} {image : Grid Rgb}
    (h : NoPicture limits t path e) (hc : Holds limits t path c) : c.render ≠ .ok image := by
  intro himage
  cases h with
  | unread hread =>
    obtain ⟨bytes, hread', -⟩ := hc
    rw [hread] at hread'
    cases hread'
  | rejected hread hbytes =>
    obtain ⟨bytes, hread', hc⟩ := hc
    obtain rfl := Except.ok.inj (hread.symm.trans hread')
    rw [ofBytes_eq_error_iff.2 hbytes] at hc
    cases hc
  | refused hc' hcompile =>
    obtain rfl := hc.unique hc'
    rw [render_of_refused hc.validate hcompile] at himage
    cases himage
  | unrendered hc' hrender =>
    obtain rfl := hc.unique hc'
    rw [hrender] at himage
    cases himage

/-- Drawing cannot fail, so that only an evaluator is missing where there is no picture. -/
lemma picture_eq {c : Config} (hvalid : c.validate = .ok ()) :
    picture c =
      match c.render with
      | .error e => .error (.failed e)
      | .ok image => if c.engine.Allocatable then .ok image else .error .crashed := by
  unfold picture Config.render
  cases hevaluator : c.evaluator with
  | error e => rfl
  | ok evaluator =>
    obtain ⟨image, himage, -⟩ := Config.exists_draw hvalid evaluator
    simp only [Except.mapError, bind, Except.bind, himage]
    rfl

/-- The picture of the configuration in what reading a file gives. -/
def pictureIn (content : Except FileFault (List UInt8)) : Except Stop (Grid Rgb) :=
  (content.mapError Error.file >>= Config.ofBytes).mapError Stop.failed >>= picture

/-- A file gives no picture, or one whose grid can be held, or one whose grid cannot. -/
lemma pictureIn_cases (limits : Limits) (t : FileTree) (path : String) :
    (∃ e, NoPicture limits t path e ∧ pictureIn (t.read limits path) = .error (.failed e)) ∨
      ∃ c image, Holds limits t path c ∧ c.render = .ok image ∧
        (c.engine.Allocatable ∧ pictureIn (t.read limits path) = .ok image ∨
          ¬ c.engine.Allocatable ∧ pictureIn (t.read limits path) = .error .crashed) := by
  unfold pictureIn
  cases hread : t.read limits path with
  | error fault => exact .inl ⟨_, .unread hread, rfl⟩
  | ok bytes =>
    cases hbytes : Config.ofBytes bytes with
    | error e =>
      refine .inl ⟨e, .rejected hread (ofBytes_eq_error_iff.1 hbytes), ?_⟩
      simp only [Except.mapError, bind, Except.bind, hbytes]
    | ok c =>
      have hc : Holds limits t path c := ⟨bytes, hread, hbytes⟩
      simp only [Except.mapError, bind, Except.bind, hbytes, picture_eq hc.validate]
      cases hrender : c.render with
      | error e => exact .inl ⟨e, .unrendered hc hrender, rfl⟩
      | ok image =>
        refine .inr ⟨c, image, hc, hrender, ?_⟩
        by_cases hgrid : c.engine.Allocatable
        · exact .inl ⟨hgrid, if_pos hgrid⟩
        · exact .inr ⟨hgrid, if_neg hgrid⟩

end Reading

/-! ### The run -/

section Run

variable (limits : Limits) (t : FileTree) (config out input : String)

/-- The arguments ask for a picture, unless one of the paths is the option for compatible reading. -/
lemma ofArgs_render : Action.ofArgs ["--render", config, out] =
    if compatOption ∈ [config, out] then .wrongArguments "--render" else .render config out := by
  unfold Action.ofArgs
  have hfirst : "--render" ≠ compatOption := by decide
  by_cases hconfig : config = compatOption
  · simp [hconfig, hfirst, Action.ofPlain]
  · by_cases hout : out = compatOption
    · simp [hconfig, hout, hfirst, Action.ofPlain]
    · simp [Ne.symm hconfig, Ne.symm hout, hfirst.symm, Action.ofPlain]

/-- A picture is written into a new file as if its bytes were added at once. -/
lemma run_writeWith (place : Location) (image : Grid Rgb) :
    (Ppm.writeWith ((FileTree.store limits).append place) image).run (t.put place []) =
      pure (Prod.map (Except.mapError Error.file) id
        ((t.put place []).append limits place (Ppm.bytes image))) := by
  rw [Ppm.bytes, ← FileTree.append_append t place limits.overrun?_zero, Ppm.writeWith,
    StateT.run_bind, FileTree.run_append, pure_bind]
  -- the pixels are added only if the header has been
  rcases (t.put place []).append limits place (Ppm.header image.width image.height) with
    ⟨fault | _, after⟩ <;> rfl

/-- The configuration is read once. Then nothing more is done, or the picture's file is created and
takes what there is room for. -/
lemma run_renderFile : Id.run ((renderFile (FileTree.store limits) config out).run t) =
    match pictureIn (t.read limits config) with
    | .error stop => (.error stop, t)
    | .ok image =>
      match t.create limits out with
      | .error fault => (.error (.failed (.file fault)), t)
      | .ok (place, _) =>
        match limits.overrun? (Ppm.bytes image).length with
        | some (room, fault) =>
          (.error (.failed (.file fault)), t.put place ((Ppm.bytes image).take room))
        | none => (.ok (), t.put place (Ppm.bytes image)) := by
  have hload : (loadConfig (FileTree.store limits) config).run t =
      pure ((t.read limits config).mapError Error.file >>= Config.ofBytes, t) := by
    rw [loadConfig, StateT.run_bind, FileTree.run_read, pure_bind]
    cases t.read limits config <;> rfl
  rw [renderFile, StateT.run_bind, hload, pure_bind, ← pictureIn]
  cases pictureIn (t.read limits config) with
  | error stop => rfl
  | ok image =>
    dsimp only
    rw [StateT.run_bind, FileTree.run_create, pure_bind]
    cases hcreate : t.create limits out with
    | error fault => rfl
    | ok created =>
      obtain ⟨place, start⟩ := created
      obtain ⟨rfl, -⟩ := FileTree.create_eq_ok hcreate
      dsimp only
      rw [StateT.run_bind, run_writeWith, pure_bind,
        FileTree.append_put t place limits.overrun?_zero, List.nil_append]
      cases limits.overrun? (Ppm.bytes image).length <;> rfl

/-- What a run that is asked for a picture answers, and the files after it. -/
def rendering : Outcome × FileTree :=
  Id.run ((run (FileTree.store limits) ["--render", config, out] input).run t)

lemma rendering_eq : rendering limits t config out input =
    if compatOption ∈ [config, out] then
      (refuse "Unknown option or wrong arguments: --render", t)
    else
      let (result, after) := Id.run ((renderFile (FileTree.store limits) config out).run t)
      (report out result, after) := by
  unfold rendering run
  rw [ofArgs_render]
  split_ifs <;> rfl

/-- The ways in which a run that is asked for a picture ends: its answer, and the files after it. -/
inductive Ending : Outcome × FileTree → Prop
  | misread (h : compatOption ∈ [config, out]) :
    Ending (refuse "Unknown option or wrong arguments: --render", t)
  | noPicture {e : Error} (h : NoPicture limits t config e) :
    Ending (report out (.error (.failed e)), t)
  | crashed {c : Config} {image : Grid Rgb} (hc : Holds limits t config c)
    (hrender : c.render = .ok image) (h : ¬ c.engine.Allocatable) :
    Ending (report out (.error .crashed), t)
  | uncreated {c : Config} {image : Grid Rgb} {fault : FileFault} (hc : Holds limits t config c)
    (hrender : c.render = .ok image) (hgrid : c.engine.Allocatable)
    (h : t.create limits out = .error fault) :
    Ending (report out (.error (.failed (.file fault))), t)
  /-- The file has been created, but does not take all bytes. -/
  | brokenOff {c : Config} {image : Grid Rgb} {place : Location} {start : FileTree} {room : Nat}
    {fault : FileFault} (hc : Holds limits t config c) (hrender : c.render = .ok image)
    (hgrid : c.engine.Allocatable) (hstart : t.create limits out = .ok (place, start))
    (h : limits.overrun? (Ppm.bytes image).length = some (room, fault)) :
    Ending (report out (.error (.failed (.file fault))), t.put place ((Ppm.bytes image).take room))
  | written {c : Config} {image : Grid Rgb} {place : Location} {start : FileTree}
    (hc : Holds limits t config c) (hrender : c.render = .ok image)
    (hgrid : c.engine.Allocatable) (hstart : t.create limits out = .ok (place, start))
    (h : limits.overrun? (Ppm.bytes image).length = none) :
    Ending (report out (.ok ()), t.put place (Ppm.bytes image))

lemma rendering_ending : Ending limits t config out (rendering limits t config out input) := by
  rw [rendering_eq]
  split_ifs with hargs
  · exact .misread hargs
  rw [run_renderFile]
  rcases pictureIn_cases limits t config with ⟨e, hnone, hpicture⟩ |
    ⟨c, image, hc, hrender, ⟨hgrid, hpicture⟩ | ⟨hgrid, hpicture⟩⟩
  · rw [hpicture]
    exact .noPicture hnone
  · rw [hpicture]
    cases hcreate : t.create limits out with
    | error fault => exact .uncreated hc hrender hgrid hcreate
    | ok created =>
      dsimp only
      cases hover : limits.overrun? (Ppm.bytes image).length with
      | none => exact .written hc hrender hgrid hcreate hover
      | some overrun => exact .brokenOff hc hrender hgrid hcreate hover
  · rw [hpicture]
    exact .crashed hc hrender hgrid

/-- **Rendering changes no file but its picture's.** Where the file gives no picture, because it is not
read, holds no configuration or holds one that is not rendered, the run fails and all files are as
they were. A run that succeeds has put the bytes of the picture of its configuration where the path
leads, and changed no other file. A run that does not succeed has changed nothing, unless the
picture's file had been created and then did not take all bytes; in that case it holds the first of
them. Where there is a picture, the run crashes if no block of memory can hold the grid, fails if the
file cannot be created, and else succeeds exactly if there is room for all bytes. -/
theorem rendering_changes_picture_only {outcome : Outcome} {after : FileTree}
    (h : rendering limits t config out input = (outcome, after)) :
    (∀ e, NoPicture limits t config e → outcome.exit = 1 ∧ after = t) ∧
    (outcome.exit = 0 → ∃ c image, Holds limits t config c ∧ c.render = .ok image ∧
      Ppm.write image ⟨none, []⟩ = .ok ⟨none, Ppm.bytes image⟩ ∧
      t.Written after out (Ppm.bytes image)) ∧
    (outcome.exit ≠ 0 → after = t ∨
      outcome.exit = 1 ∧ ∃ c image room fault, Holds limits t config c ∧ c.render = .ok image ∧
        limits.overrun? (Ppm.bytes image).length = some (room, fault) ∧
        t.Written after out ((Ppm.bytes image).take room)) ∧
    (compatOption ∉ [config, out] → ∀ c image, Holds limits t config c → c.render = .ok image →
      (¬ c.engine.Allocatable → outcome.exit = 101 ∧ after = t) ∧
      (c.engine.Allocatable →
        (∀ fault, t.create limits out = .error fault → outcome.exit = 1 ∧ after = t) ∧
        ∀ place start, t.create limits out = .ok (place, start) →
          (limits.overrun? (Ppm.bytes image).length = none → outcome.exit = 0) ∧
          ∀ room fault, limits.overrun? (Ppm.bytes image).length = some (room, fault) →
            outcome.exit = 1 ∧ t.Written after out ((Ppm.bytes image).take room))) := by
  have hends := rendering_ending limits t config out input
  rw [h] at hends
  refine ⟨fun e he => ?_, fun hexit => ?_, fun hexit => ?_, fun hargs c image hc himage => ?_⟩
  · cases hends with
    | misread _ | noPicture _ => exact ⟨rfl, rfl⟩
    | crashed hc hrender | uncreated hc hrender | brokenOff hc hrender | written hc hrender =>
      exact absurd hrender (he.not_render hc)
  · cases hends with
    | misread _ | noPicture _ | crashed _ _ _ | uncreated _ _ _ _ | brokenOff _ _ _ _ _ =>
      simp [refuse, report] at hexit
    | written hc hrender _ hstart _ =>
      refine ⟨_, _, hc, hrender, ?_, FileTree.written_of_create hstart _⟩
      rw [Ppm.write_eq, Sink.write_unbounded]
      rfl
  · cases hends with
    | misread _ | noPicture _ | crashed _ _ _ | uncreated _ _ _ _ => exact .inl rfl
    | brokenOff hc hrender _ hstart hover =>
      exact .inr ⟨rfl, _, _, _, _, hc, hrender, hover, FileTree.written_of_create hstart _⟩
    | written _ _ _ _ _ => exact absurd rfl hexit
  · cases hends with
    | misread hargs' => exact absurd hargs' hargs
    | noPicture hnone => exact absurd himage (hnone.not_render hc)
    | crashed hc' _ hgrid =>
      obtain rfl := hc.unique hc'
      exact ⟨fun _ => ⟨rfl, rfl⟩, fun hgrid' => absurd hgrid' hgrid⟩
    | uncreated hc' _ hgrid hcreate =>
      obtain rfl := hc.unique hc'
      simp [hgrid, hcreate, report]
    | brokenOff hc' hrender hgrid hstart hover =>
      obtain rfl := hc.unique hc'
      obtain rfl := Except.ok.inj (himage.symm.trans hrender)
      have hwritten := FileTree.written_of_create hstart
      simp [hgrid, hstart, hover, report, hwritten]
    | written hc' hrender hgrid hstart hover =>
      obtain rfl := hc.unique hc'
      obtain rfl := Except.ok.inj (himage.symm.trans hrender)
      simp [hgrid, hstart, hover, report]

end Run

/-- A file with a document that gives the sizes holds a configuration, which has a picture. -/
lemma exists_sized (limits : Limits) (t : FileTree) (path : String) {text : String}
    {width height : Nat} (hread : t.read limits path = .ok text.toUTF8.toList)
    (htext : String.fromUTF8? ⟨text.toUTF8.toList.toArray⟩ = some text)
    (hsized : String.ofList (Config.sized width height).compact = text)
    (hwidth : 0 < width ∧ width ≤ Engine.greatestSize)
    (hheight : 0 < height ∧ height ≤ Engine.greatestSize) :
    ∃ c image, Holds limits t path c ∧ c.render = .ok image ∧
      (c.engine.Allocatable ↔ 4 * (width * height) ≤ Engine.greatestExtent) ∧
      image.width = width ∧ image.height = height := by
  have hc := Config.ofText_sized hwidth hheight
  rw [hsized] at hc
  have hcompile : Kernel.compileWith .strict "z^2+c" = .ok (.compile "z^2+c") := by
    have hnothing : Formula.diagnostics "z^2+c" = [] := by decide +kernel
    rw [Kernel.compileWith_eq, hnothing]
  obtain ⟨image, ev, himage, -, hdepicts⟩ :=
    Config.exists_render (Config.ofText_eq_ok_iff.1 hc).2 hcompile
  refine ⟨_, image, ⟨_, hread, ?_⟩, himage, Iff.rfl, hdepicts.width, hdepicts.height⟩
  rw [Config.ofBytes, htext]
  exact hc

/-- A picture of two pixels replaces the document that it is made from, whose path has another name.
An older picture stays if the configuration is no text, or asks for more cells than a block of memory
holds; it is lost if the disk is full after five bytes. -/
theorem rendering_changes_picture_only_in_tree :
    let small := "\x7b\"engine\":\x7b\"width\":2,\"height\":1\x7d\x7d"
    let huge := "\x7b\"engine\":\x7b\"width\":4294967296,\"height\":4294967296\x7d\x7d"
    let t : FileTree := .ofEntries [(["w"], .directory),
      (["w", "a.json"], .file small.toUTF8.toList), (["w", "b.json"], .file [0xff]),
      (["w", "c.json"], .file huge.toUTF8.toList), (["w", "d"], .directory),
      (["w", "d", "out.ppm"], .file [1, 2, 3])] ["w"]
    let full : Limits := ⟨fun _ _ => none, some (5, .other "No space left on device (os error 28)")⟩
    (∃ c image, Holds .unlimited t "a.json" c ∧ c.render = .ok image ∧
      (rendering .unlimited t "a.json" "d/../a.json" "").1.exit = 0 ∧
      (rendering .unlimited t "a.json" "d/../a.json" "").2.entries ["w", "a.json"] =
        some (.file (Ppm.bytes image)) ∧
      (rendering .unlimited t "a.json" "d/../a.json" "").2.entries ["w", "d", "out.ppm"] =
        some (.file [1, 2, 3])) ∧
    ((rendering .unlimited t "b.json" "d/out.ppm" "").1.exit = 1 ∧
      (rendering .unlimited t "b.json" "d/out.ppm" "").2 = t) ∧
    ((rendering .unlimited t "c.json" "d/out.ppm" "").1.exit = 101 ∧
      (rendering .unlimited t "c.json" "d/out.ppm" "").2 = t) ∧
    (rendering full t "a.json" "d/out.ppm" "").1.exit = 1 ∧
      (rendering full t "a.json" "d/out.ppm" "").2.entries ["w", "d", "out.ppm"] =
        some (.file [0x50, 0x36, 0x0a, 0x32, 0x20]) := by
  intro small huge t full
  have hsmall : String.ofList (Config.sized 2 1).compact = small := by decide +kernel
  have htext : String.fromUTF8? ⟨small.toUTF8.toList.toArray⟩ = some small := by decide +kernel
  have hout : t.resolve "d/out.ppm" = .file ["w", "d", "out.ppm"] (some [1, 2, 3]) false := by
    decide +kernel
  refine ⟨?_, ?_, ?_, ?_⟩
  · obtain ⟨c, image, hc, himage, hgrid, -⟩ := exists_sized .unlimited t "a.json"
      (by decide +kernel) htext hsmall (by decide) (by decide)
    have hself : t.resolve "d/../a.json" =
        .file ["w", "a.json"] (some small.toUTF8.toList) false := by
      decide +kernel
    obtain ⟨-, hsucceeds, -, hends⟩ :=
      rendering_changes_picture_only .unlimited t "a.json" "d/../a.json" "" Prod.mk.eta.symm
    have hexit := (((hends (by decide) c image hc himage).2 (hgrid.2 (by decide))).2 _ _
      (FileTree.create_of_resolve hself rfl)).1 rfl
    obtain ⟨c', image', hc', himage', -, hwritten⟩ := hsucceeds hexit
    obtain rfl := hc.unique hc'
    obtain rfl := Except.ok.inj (himage.symm.trans himage')
    obtain ⟨hfile, hothers⟩ := hwritten.entries hself
    exact ⟨c, image, hc, himage, hexit, hfile, (hothers _ (by decide)).trans (by decide +kernel)⟩
  · have hnone : NoPicture .unlimited t "b.json" (.file .invalidUtf8) :=
      .rejected (show t.read _ "b.json" = .ok [0xff] by decide +kernel) (.notText (by decide +kernel))
    exact (rendering_changes_picture_only .unlimited t "b.json" "d/out.ppm" ""
      Prod.mk.eta.symm).1 _ hnone
  · have hhuge : String.ofList (Config.sized 4294967296 4294967296).compact = huge := by
      decide +kernel
    obtain ⟨c, image, hc, himage, hgrid, -⟩ := exists_sized .unlimited t "c.json"
      (by decide +kernel) (by decide +kernel) hhuge (by decide) (by decide)
    exact ((rendering_changes_picture_only .unlimited t "c.json" "d/out.ppm" ""
      Prod.mk.eta.symm).2.2.2 (by decide) c image hc himage).1 (by rw [hgrid]; decide)
  · obtain ⟨c, image, hc, himage, hgrid, hwidth, hheight⟩ := exists_sized full t "a.json"
      (by decide +kernel) htext hsmall (by decide) (by decide)
    have hbytes : Ppm.bytes image = Ppm.header 2 1 ++ Ppm.body image := by
      rw [Ppm.bytes, hwidth, hheight]
    have hheader : (Ppm.header 2 1).length = 11 := by decide +kernel
    have hover : full.overrun? (Ppm.bytes image).length =
        some (5, .other "No space left on device (os error 28)") := by
      refine Limits.overrun?_eq_some_iff.2 ⟨rfl, ?_⟩
      rw [hbytes, List.length_append]
      omega
    obtain ⟨hexit, hwritten⟩ := (((rendering_changes_picture_only full t "a.json" "d/out.ppm" ""
      Prod.mk.eta.symm).2.2.2 (by decide) c image hc himage).2 (hgrid.2 (by decide))).2 _ _
      (FileTree.create_of_resolve hout rfl) |>.2 _ _ hover
    refine ⟨hexit, (hwritten.entries hout).1.trans ?_⟩
    rw [hbytes, List.take_append_of_le_length (by omega)]
    decide +kernel

end EscapeTime.Shell
