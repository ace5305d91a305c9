import EscapeTime.Json.Decode
import EscapeTime.Proofs.Json.Text
import Mathlib.Data.List.Forall2

namespace EscapeTime.Json

/-!
# The order of keys does not matter

Two documents that differ only in the order in which their objects list their keys have the same
fields, wherever a reader looks. A reader built from the look-up of fields and from readers of
scalars takes the same value out of both. A field that is left out is found missing, and so takes its
standard value.
-/

/-! ### Documents with their keys in another order -/

/-- The keys of each object may stand in another order. -/
inductive Reordered : Json → Json → Prop
  | null : Reordered .null .null
  | bool (b : Bool) : Reordered (.bool b) (.bool b)
  | number (n : Number) : Reordered (.number n) (.number n)
  | string (s : Content) : Reordered (.string s) (.string s)
  | array {items items' : List Json} (h : List.Forall₂ Reordered items items') :
    Reordered (.array items) (.array items')
  | object {fields arranged fields' : List (Content × Json)}
    (hkey : fields.map (·.1) = arranged.map (·.1))
    (hvalue : List.Forall₂ Reordered (fields.map (·.2)) (arranged.map (·.2)))
    (h : arranged.Perm fields') : Reordered (.object fields) (.object fields')

/-- The same key, and values that differ in the order of keys. -/
def Alike (f g : Content × Json) : Prop := f.1 = g.1 ∧ Reordered f.2 g.2

lemma forall₂_alike {fields arranged : List (Content × Json)} :
    List.Forall₂ Alike fields arranged ↔ fields.map (·.1) = arranged.map (·.1) ∧
      List.Forall₂ Reordered (fields.map (·.2)) (arranged.map (·.2)) := by
  induction fields generalizing arranged with
  | nil => cases arranged <;> simp
  | cons f fields ih =>
    cases arranged with
    | nil => simp
    | cons g arranged =>
      simp only [List.forall₂_cons, ih, List.map_cons, List.cons.injEq, Alike]
      tauto

lemma reordered_object {fields arranged fields' : List (Content × Json)}
    (h : List.Forall₂ Alike fields arranged) (hperm : arranged.Perm fields') :
    Reordered (.object fields) (.object fields') := by
  obtain ⟨hkey, hvalue⟩ := forall₂_alike.1 h
  exact .object hkey hvalue hperm

lemma reordered_reverse {fields fields' : List (Content × Json)}
    (h : List.Forall₂ Alike fields fields'.reverse) : Reordered (.object fields) (.object fields') :=
  reordered_object h fields'.reverse_perm

/-- What an object can become. -/
lemma Reordered.object_cases {fields : List (Content × Json)} {w : Json}
    (h : Reordered (.object fields) w) :
    ∃ arranged fields', w = .object fields' ∧ List.Forall₂ Alike fields arranged ∧
      arranged.Perm fields' := by
  cases h with
  | object hkey hvalue hperm => exact ⟨_, _, rfl, forall₂_alike.2 ⟨hkey, hvalue⟩, hperm⟩

@[refl] lemma Reordered.refl (v : Json) : Reordered v v := by
  induction v using Json.inductionOn with
  | null => exact .null
  | bool b => exact .bool b
  | number n => exact .number n
  | string s => exact .string s
  | array items ih => exact .array (List.forall₂_same.2 ih)
  | object fields ih =>
    exact reordered_object (List.forall₂_same.2 fun f hf => ⟨rfl, ih f hf⟩) (List.Perm.refl fields)

lemma forall_mem_of_forall₂ {α β : Type} {R : α → β → Prop} {P : β → Prop} {xs : List α} {ys : List β}
    (h : List.Forall₂ R xs ys) (hP : ∀ x ∈ xs, ∀ y, R x y → P y) : ∀ y ∈ ys, P y := by
  induction h with
  | nil => simp
  | cons hxy _ ih =>
    exact List.forall_mem_cons.2
      ⟨hP _ List.mem_cons_self _ hxy, ih fun x hx => hP x (List.mem_cons_of_mem _ hx)⟩

/-- A document that can be written can be written in any order. -/
lemma Writable.reordered {v w : Json} (hv : Writable v) (h : Reordered v w) : Writable w := by
  induction hv generalizing w with
  | null | bool | string =>
    cases h
    constructor
  | number hn =>
    cases h
    exact .number hn
  | array _ ih =>
    cases h with
    | array hitems => exact .array (forall_mem_of_forall₂ hitems fun v hv w hvw => ih v hv hvw)
  | object hkey _ ih =>
    obtain ⟨arranged, fields', rfl, halike, hperm⟩ := h.object_cases
    have hkey' : ∀ g ∈ arranged, g.1.isSome :=
      forall_mem_of_forall₂ halike fun f hf g hfg => hfg.1 ▸ hkey f hf
    have hvalue' : ∀ g ∈ arranged, Writable g.2 :=
      forall_mem_of_forall₂ halike fun f hf g hfg => ih f hf hfg.2
    exact .object (fun g hg => hkey' g (hperm.mem_iff.2 hg)) fun g hg => hvalue' g (hperm.mem_iff.2 hg)

/-- Either layout of a document in any order is read as that document. -/
lemma parse?_of_reordered {v w : Json} (hv : Writable v) (h : Reordered v w) :
    ∀ text ∈ [w.compact, w.pretty], parse? text = some w := by
  have hw : Writable w := hv.reordered h
  simp [parse?_compact hw, parse?_pretty hw]

/-! ### Fields -/

lemma forall₂_filter_alike {fields arranged : List (Content × Json)}
    (h : List.Forall₂ Alike fields arranged) (p : Content → Bool) :
    List.Forall₂ Alike (fields.filter (p ·.1)) (arranged.filter (p ·.1)) :=
  List.rel_filter (fun f g hfg => by simp only [hfg.1]) h

/-- A key has no value, or one, or is repeated, wherever it stands. -/
lemma valuesOf_cases {fields arranged fields' : List (Content × Json)}
    (h : List.Forall₂ Alike fields arranged) (hperm : arranged.Perm fields') (name : String) :
    (valuesOf name fields = [] ∧ valuesOf name fields' = []) ∨
      (∃ v w, valuesOf name fields = [v] ∧ valuesOf name fields' = [w] ∧ Reordered v w) ∨
      ∃ v v' vs w w' ws, valuesOf name fields = v :: v' :: vs ∧
        valuesOf name fields' = w :: w' :: ws := by
  have hvalues : List.Forall₂ Reordered (valuesOf name fields) (valuesOf name arranged) :=
    (forall₂_alike.1 (forall₂_filter_alike h (· == some name))).2
  have hperm' : (valuesOf name arranged).Perm (valuesOf name fields') := (hperm.filter _).map _
  generalize valuesOf name fields = vs at *
  generalize valuesOf name arranged = us at *
  generalize valuesOf name fields' = ws at *
  rcases hvalues with - | ⟨hfirst, - | ⟨hsecond, hmore⟩⟩
  · exact .inl ⟨rfl, List.nil_perm.1 hperm'⟩
  · exact .inr (.inl ⟨_, _, rfl, (List.singleton_perm.1 hperm').symm, hfirst⟩)
  · have hlength := hperm'.length_eq
    rcases ws with - | ⟨w, - | ⟨w', ws⟩⟩
    · simp at hlength
    · simp at hlength
    · exact .inr (.inr ⟨_, _, _, _, _, _, rfl, rfl⟩)

lemma field?_rel {fields arranged fields' : List (Content × Json)}
    (h : List.Forall₂ Alike fields arranged) (hperm : arranged.Perm fields') (name : String) :
    Option.Rel (Option.Rel Reordered) (field? fields name) (field? fields' name) := by
  unfold field?
  rcases valuesOf_cases h hperm name with ⟨hv, hw⟩ | ⟨v, w, hv, hw, hvw⟩ | ⟨v, v', vs, w, w', ws, hv, hw⟩
  · rw [hv, hw]
    exact .some .none
  · rw [hv, hw]
    exact .some (.some hvw)
  · rw [hv, hw]
    exact .none

lemma mapM_rel {α β γ : Type} {R : β → γ → Prop} {f : α → Option β} {g : α → Option γ}
    (h : ∀ a, Option.Rel R (f a) (g a)) (as : List α) :
    Option.Rel (List.Forall₂ R) (as.mapM f) (as.mapM g) := by
  induction as with
  | nil => exact .some .nil
  | cons a as ih =>
    have ha := h a
    rw [List.mapM_cons, List.mapM_cons]
    generalize f a = x at *
    generalize g a = y at *
    generalize as.mapM f = xs at *
    generalize as.mapM g = ys at *
    cases ha with
    | none => exact .none
    | some hfirst =>
      cases ih with
      | none => exact .none
      | some hmore => exact .some (.cons hfirst hmore)

lemma all_isSome_alike {fields arranged fields' : List (Content × Json)}
    (h : List.Forall₂ Alike fields arranged) (hperm : arranged.Perm fields') :
    fields.all (·.1.isSome) = fields'.all (·.1.isSome) := by
  have hkeys : fields.map (·.1) = arranged.map (·.1) := (forall₂_alike.1 h).1
  have hall : ∀ fs : List (Content × Json), fs.all (·.1.isSome) = (fs.map (·.1)).all Option.isSome := by
    intro fs
    rw [List.all_map]
    rfl
  rw [hall, hkeys, ← hall, hperm.all_eq]

/-- **Every field that is looked for is found as before.** -/
lemma fields?_rel (names : List String) {v w : Json} (h : Reordered v w) :
    Option.Rel (List.Forall₂ (Option.Rel Reordered)) (fields? names v) (fields? names w) := by
  cases h with
  | null | bool | number | string => exact .none
  | @array items items' hitems =>
    have hgiven : List.Forall₂ (Option.Rel Reordered) (items.map some) (items'.map some) :=
      List.rel_map (fun _ _ h => Option.Rel.some h) hitems
    have hmissing : List.Forall₂ (Option.Rel Reordered)
        (List.replicate (names.length - items.length) none)
        (List.replicate (names.length - items.length) none) :=
      List.forall₂_same.2 fun x hx => by
        rw [List.eq_of_mem_replicate hx]
        exact .none
    simp only [fields?, ← hitems.length_eq]
    split
    · exact .some (List.rel_append hgiven hmissing)
    · exact .none
  | object hkey hvalue hperm =>
    have halike := forall₂_alike.2 ⟨hkey, hvalue⟩
    simp only [fields?, all_isSome_alike halike hperm]
    split
    · exact mapM_rel (field?_rel halike hperm) names
    · exact .none

/-! ### Variants -/

lemma variant?_rel {v w : Json} (h : Reordered v w) :
    Option.Rel (fun p q => Reordered p.1 q.1 ∧ Reordered p.2 q.2) (variant? v) (variant? w) := by
  cases h with
  | null | bool | number | string => exact .none
  | array hitems =>
    cases hitems with
    | nil => exact .none
    | cons hkind hrest => exact .some ⟨hkind, .array hrest⟩
  | @object fields arranged fields' hkey hvalue hperm =>
    have halike := forall₂_alike.2 ⟨hkey, hvalue⟩
    have hrest : Reordered (.object (fields.filter (!·.1 == some kindField)))
        (.object (fields'.filter (!·.1 == some kindField))) :=
      reordered_object (forall₂_filter_alike halike (!· == some kindField)) (hperm.filter _)
    simp only [variant?]
    rcases valuesOf_cases halike hperm kindField with
      ⟨hv, hw⟩ | ⟨v, w, hv, hw, hvw⟩ | ⟨v, v', vs, w, w', ws, hv, hw⟩
    · rw [hv, hw]
      exact .none
    · rw [hv, hw]
      exact .some ⟨hvw, hrest⟩
    · rw [hv, hw]
      exact .none

/-- Depth and soundness of a document have nothing to do with the order of its keys. -/
lemma sound_reordered (room : Nat) {v w : Json} (h : Reordered v w) : sound room v = sound room w := by
  induction room generalizing v w with
  | zero => cases h <;> rfl
  | succ room ih =>
    cases h with
    | null | bool | number | string => rfl
    | @array items items' hitems =>
      simp only [sound]
      induction hitems with
      | nil => rfl
      | cons hfirst _ hmore => rw [List.all_cons, List.all_cons, ih hfirst, hmore]
    | @object fields arranged fields' hkey hvalue hperm =>
      have halike := forall₂_alike.2 ⟨hkey, hvalue⟩
      simp only [sound]
      rw [← hperm.all_eq]
      clear hperm hkey hvalue
      induction halike with
      | nil => rfl
      | cons hfirst _ hmore =>
        rw [List.all_cons, List.all_cons, hfirst.1, ih hfirst.2, hmore]

/-! ### Readers -/

/-- The reader takes the same value out of documents that differ in the order of keys. -/
def OrderFree {α : Type} (read : Json → Option α) : Prop :=
  ∀ ⦃v w⦄, Reordered v w → read v = read w

lemma orderFree_string? : OrderFree string? := fun _ _ h => by cases h <;> rfl

lemma orderFree_natural? (bound : Nat) : OrderFree (natural? bound) := fun _ _ h => by cases h <;> rfl

lemma orderFree_float? : OrderFree float? := fun _ _ h => by cases h <;> rfl

lemma name?_cons_cons (insideVariant : Bool) (f f' : Content × Json) (fs : List (Content × Json)) :
    name? insideVariant (.object (f :: f' :: fs)) = none := by
  unfold name?
  split <;> simp_all

/-- Only one key is asked for, so there is nothing to reorder. -/
lemma orderFree_name? (insideVariant : Bool) : OrderFree (name? insideVariant) := by
  intro v w h
  cases h with
  | null | bool | number | string | array => rfl
  | @object fields arranged fields' hkey hvalue hperm =>
    rcases forall₂_alike.2 ⟨hkey, hvalue⟩ with - | ⟨hfirst, - | ⟨hsecond, hmore⟩⟩
    · rw [List.nil_perm.1 hperm]
    · rename_i f g
      obtain ⟨k, v⟩ := f
      obtain ⟨k', w⟩ := g
      obtain ⟨rfl, hvw⟩ : k = k' ∧ Reordered v w := hfirst
      rw [← List.singleton_perm.1 hperm]
      cases hvw with
      | null | bool | number | string | array => rfl
      | @object _ _ inner hkey' hvalue' hperm' =>
        rcases forall₂_alike.2 ⟨hkey', hvalue'⟩ with - | ⟨hfirst, hmore⟩
        · rw [List.nil_perm.1 hperm']
        · cases inner with
          | nil => simp at hperm'
          | cons => rfl
    · obtain ⟨f, f', fs, rfl⟩ : ∃ f f' fs, fields' = f :: f' :: fs := by
        have hlength := hperm.length_eq
        rcases fields' with - | ⟨f, - | ⟨f', fs⟩⟩
        · simp at hlength
        · simp at hlength
        · exact ⟨f, f', fs, rfl⟩
      rw [name?_cons_cons, name?_cons_cons]

section

variable {α : Type} {read : Json → Option α} {v w : Option Json}

lemma OrderFree.orDefault (h : OrderFree read) (default : α) (hvw : Option.Rel Reordered v w) :
    orDefault default read v = orDefault default read w := by
  cases hvw with
  | none => rfl
  | some hvw => exact h hvw

lemma OrderFree.required (h : OrderFree read) (hvw : Option.Rel Reordered v w) :
    required read v = required read w := by
  cases hvw with
  | none => rfl
  | some hvw => exact h hvw

end

lemma bind_congr_rel {α β γ : Type} {R : α → β → Prop} {x : Option α} {y : Option β}
    {f : α → Option γ} {g : β → Option γ} (h : Option.Rel R x y) (hfg : ∀ a b, R a b → f a = g b) :
    x.bind f = y.bind g := by
  cases h with
  | none => rfl
  | some hab => exact hfg _ _ hab

/-! ### Scalars are read back -/

lemma natural?_le {bound n : Nat} {v : Json} (h : natural? bound v = some n) : n ≤ bound := by
  cases v with
  | number m =>
    simp only [natural?, Number.natural?] at h
    split_ifs at h with hinteger hle
    exact Option.some.inj h ▸ hle
  | _ => cases h

lemma natural?_ofNat {bound n : Nat} (h : n ≤ bound) : natural? bound (.ofNat n) = some n := by
  simp [natural?, Json.ofNat, Number.natural?, Number.ofNat, Number.isInteger,
    Decimal.spell_toDigits, h]

/-- The double is read as it was written. Not every one is, since reading rounds twice. -/
def ReadsBack (x : Float) : Prop := float? (.ofFloat x) = some x

@[simp] lemma writable_ofNat (n : Nat) : Writable (.ofNat n) := .number (Number.wellFormed_ofNat n)

@[simp] lemma writable_ofFloat (x : Float) : Writable (.ofFloat x) := by
  unfold Json.ofFloat
  split
  · next h => exact .number (Number.wellFormed_of_ofFloat? h)
  · exact .null

lemma ReadsBack.sound {x : Float} (h : ReadsBack x) (room : Nat) : (ofFloat x).sound room = true := by
  unfold ReadsBack at h
  cases hx : ofFloat x with
  | number n =>
    rw [hx] at h
    simp only [float?] at h
    simp [Json.sound, h]
  | _ => simp [hx, float?] at h

/-- The value of a number that is scaled in one step. -/
def Number.scaledOnce? (n : Number) : Option Float :=
  let e := n.significand.2 + n.writtenExponent
  let x := Float.ofNat n.significand.1
  let y := if 0 ≤ e then x * powerOfTen e.natAbs else x / powerOfTen e.natAbs
  if 0 ≤ e ∧ y.isInf then none else some (if n.negative then -y else y)

/-- Where the power of ten is itself a double, reading can be evaluated. -/
lemma readsBack_of_near {x : Float} {n : Number} (hn : Number.ofFloat? x = some n)
    (hnear : (n.significand.2 + n.writtenExponent).natAbs ≤ Number.greatestPower)
    (hx : n.scaledOnce? = some x) : ReadsBack x := by
  rw [ReadsBack, Json.ofFloat, hn, ← hx]
  simp only [float?, Number.toFloat?, Number.scaledOnce?]
  rw [Number.scale?, if_pos hnear]
  split_ifs <;> simp_all

/-! ### Fields that are left out -/

/-- The record without the fields of these names. -/
def leaveOut (omitted : String → Bool) : Json → Json
  | object fields => object (fields.filter fun f => !f.1.any omitted)
  | v => v

/-- The record with the value of one field changed. -/
def inField (name : String) (change : Json → Json) : Json → Json
  | object fields => object (fields.map fun f => (f.1, if f.1 = some name then change f.2 else f.2))
  | v => v

@[simp] lemma leaveOut_nothing : leaveOut (fun _ => false) = id := by
  funext v
  cases v <;> simp [leaveOut]

@[simp] lemma inField_id (name : String) : inField name id = id := by
  funext v
  cases v <;> simp [inField]

lemma leaveOut_record (omitted : String → Bool) (fields : List (String × Json)) :
    (record fields).leaveOut omitted = record (fields.filter (!omitted ·.1)) := by
  simp [leaveOut, record, List.filter_map, Function.comp_def]

lemma inField_record (name : String) (change : Json → Json) (fields : List (String × Json)) :
    (record fields).inField name change =
      record (fields.map fun f => (f.1, if f.1 = name then change f.2 else f.2)) := by
  simp [inField, record, Function.comp_def]

lemma Writable.leaveOut {v : Json} (h : Writable v) (omitted : String → Bool) :
    Writable (v.leaveOut omitted) := by
  cases h with
  | null => exact .null
  | bool b => exact .bool b
  | number hn => exact .number hn
  | string s => exact .string s
  | array hitems => exact .array hitems
  | object hkey hvalue =>
    exact .object (fun f hf => hkey f (List.mem_filter.1 hf).1)
      fun f hf => hvalue f (List.mem_filter.1 hf).1

lemma Writable.inField {v : Json} (h : Writable v) (name : String) {change : Json → Json}
    (hchange : ∀ w, Writable w → Writable (change w)) : Writable (v.inField name change) := by
  cases h with
  | null => exact .null
  | bool b => exact .bool b
  | number hn => exact .number hn
  | string s => exact .string s
  | array hitems => exact .array hitems
  | object hkey hvalue =>
    refine .object (fun g hg => ?_) fun g hg => ?_
    · obtain ⟨f, hf, rfl⟩ := List.mem_map.1 hg
      exact hkey f hf
    · obtain ⟨f, hf, rfl⟩ := List.mem_map.1 hg
      have hf' : Writable f.2 := hvalue f hf
      by_cases hname : f.1 = some name
      · simpa only [if_pos hname] using hchange _ hf'
      · simpa only [if_neg hname] using hf'

/-- In a record each name stands once, so it has one value. -/
lemma filter_name_of_mem {fields : List (String × Json)} (hnodup : (fields.map (·.1)).Nodup)
    {f : String × Json} (hf : f ∈ fields) : fields.filter (·.1 == f.1) = [f] := by
  induction fields with
  | nil => cases hf
  | cons g fields ih =>
    obtain ⟨hg, hnodup'⟩ := List.nodup_cons.1 hnodup
    rcases List.mem_cons.1 hf with rfl | hf
    · have hrest : fields.filter (·.1 == f.1) = [] := by
        refine List.filter_eq_nil_iff.2 fun h hh heq => hg ?_
        exact List.mem_map.2 ⟨h, hh, eq_of_beq heq⟩
      rw [List.filter_cons_of_pos (by simp), hrest]
    · have hne : g.1 ≠ f.1 := fun heq => hg (List.mem_map.2 ⟨f, hf, heq.symm⟩)
      rw [List.filter_cons_of_neg (by simpa using hne), ih hnodup' hf]

lemma valuesOf_record (name : String) (fields : List (String × Json)) :
    valuesOf name (fields.map fun (k, v) => (some k, v)) =
      (fields.filter (·.1 == name)).map (·.2) := by
  simp [valuesOf, List.filter_map, Function.comp_def]

lemma mapM_eq_some_map {α β : Type} {f : α → Option β} {g : α → β} {as : List α}
    (h : ∀ a ∈ as, f a = some (g a)) : as.mapM f = some (as.map g) := by
  induction as with
  | nil => rfl
  | cons a as ih =>
    obtain ⟨ha, has⟩ := List.forall_mem_cons.1 h
    rw [List.mapM_cons, ha, ih has]
    rfl

/-- **A field is found missing if it is left out, and as it was otherwise.** -/
lemma fields?_leaveOut (fields : List (String × Json)) (hnodup : (fields.map (·.1)).Nodup)
    (omitted : String → Bool) :
    fields? (fields.map (·.1)) ((record fields).leaveOut omitted) =
      some (fields.map fun f => if omitted f.1 then none else some f.2) := by
  have hfield : ∀ f ∈ fields,
      field? ((fields.filter (!omitted ·.1)).map fun (k, v) => (some k, v)) f.1 =
        some (if omitted f.1 then none else some f.2) := by
    intro f hf
    rw [field?, valuesOf_record, List.filter_comm, filter_name_of_mem hnodup hf]
    by_cases ho : omitted f.1
    · simp [ho]
    · simp [ho]
  have hkeys : ((fields.filter (!omitted ·.1)).map fun (k, v) => (some k, v)).all (·.1.isSome) := by
    simp
  rw [leaveOut_record, record, fields?, if_pos hkeys, List.mapM_map]
  exact mapM_eq_some_map hfield

lemma orDefault_ite {α : Type} {read : Json → Option α} {v : Json} {x : α} (h : read v = some x)
    (default : α) (omitted : Bool) :
    orDefault default read (if omitted then none else some v) =
      some (if omitted then default else x) := by
  cases omitted with
  | false => exact h
  | true => rfl

/-- What holds of the standard value and of all that can be read holds of a field. -/
lemma orDefault_induction {α : Type} {read : Json → Option α} {default x : α} {v : Option Json}
    {P : α → Prop} (hdefault : P default) (hread : ∀ v x, read v = some x → P x)
    (h : orDefault default read v = some x) : P x := by
  cases v with
  | none => exact Option.some.inj h ▸ hdefault
  | some v => exact hread v x h

end EscapeTime.Json
