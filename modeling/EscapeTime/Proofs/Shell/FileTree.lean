import EscapeTime.Shell.FileTree
import Mathlib.Tactic.Common

namespace EscapeTime.Shell

/-!
# Files of a tree

Writing a file shows at its own place and at no other, and does not change where its path leads. A
new file takes the bytes that are added to it one after the other as it would take them at once: all
of them, or as many as there is room for.
-/

namespace Limits

@[simp] lemma overrun?_zero (limits : Limits) : limits.overrun? 0 = none := by
  simp [overrun?]

lemma overrun?_eq_some_iff {limits : Limits} {length room : Nat} {fault : FileFault} :
    limits.overrun? length = some (room, fault) ↔
      limits.room? = some (room, fault) ∧ room < length := by
  simp [overrun?, Option.filter_eq_some_iff]

/-- A file breaks off no earlier than at the length of one that does not break off. -/
lemma le_of_overrun? {limits : Limits} {short long room : Nat} {fault : FileFault}
    (hshort : limits.overrun? short = none) (hlong : limits.overrun? long = some (room, fault)) :
    short ≤ room := by
  by_contra hlt
  have hbreaks := overrun?_eq_some_iff.2 ⟨(overrun?_eq_some_iff.1 hlong).1, Nat.lt_of_not_le hlt⟩
  rw [hshort] at hbreaks
  cases hbreaks

end Limits

namespace FileTree

variable {limits : Limits} {t : FileTree} {here place : Location} {parts : List String}
  {path : String} {bytes? : Option (List UInt8)} {slash : Bool}

lemma entries_put (t : FileTree) (place other : Location) (bytes : List UInt8) :
    (t.put place bytes).entries other =
      if other = place then some (.file bytes) else t.entries other := rfl

@[simp] lemma put_put (t : FileTree) (place : Location) (old bytes : List UInt8) :
    (t.put place old).put place bytes = t.put place bytes := by
  simp only [put, FileTree.mk.injEq, and_true]
  funext other
  split_ifs <;> rfl

/-- A part of a path is a name, or leads to another directory whatever there is in the tree. -/
lemma walk_cons (here : Location) (part : String) (rest : List String) :
    (∃ there, ∀ t : FileTree, t.walk here (part :: rest) = t.walk there rest) ∨
      ∀ t : FileTree, t.walk here (part :: rest) =
        match t.entries (here ++ [part]) with
        | some .directory => t.walk (here ++ [part]) rest
        | some (.file bytes) =>
          if rest.all (· == "") then .file (here ++ [part]) (some bytes) (!rest.isEmpty)
          else .throughFile
        | none =>
          if rest.all (· == "") then .file (here ++ [part]) none (!rest.isEmpty) else .nowhere := by
  by_cases hstay : (part == "" || part == ".") = true
  · exact .inl ⟨here, fun t => if_pos hstay⟩
  by_cases hup : (part == "..") = true
  · exact .inl ⟨here.dropLast, fun t => (if_neg hstay).trans (if_pos hup)⟩
  · exact .inr fun t => (if_neg hstay).trans (if_neg hup)

lemma entries_of_walk (h : t.walk here parts = .file place bytes? slash) :
    t.entries place = bytes?.map .file := by
  induction parts generalizing here with
  | nil => cases h
  | cons part rest ih =>
    rcases walk_cons here part rest with ⟨there, hwalk⟩ | hwalk
    · exact ih ((hwalk t).symm.trans h)
    rw [hwalk] at h
    split at h
    · exact ih h
    all_goals
      rename_i hentry
      split_ifs at h
      obtain ⟨rfl, rfl, -⟩ := Target.file.inj h
      exact hentry

/-- Writing a file does not change the way to it: on the way there are directories only. -/
lemma walk_put (h : t.walk here parts = .file place bytes? slash) (bytes : List UInt8) :
    (t.put place bytes).walk here parts = .file place (some bytes) slash := by
  have hplace := entries_of_walk h
  induction parts generalizing here with
  | nil => cases h
  | cons part rest ih =>
    rcases walk_cons here part rest with ⟨there, hwalk⟩ | hwalk
    · rw [hwalk] at h ⊢
      exact ih h
    rw [hwalk] at h ⊢
    split at h
    · rename_i hentry
      have hother : here ++ [part] ≠ place := by
        rintro rfl
        rw [hentry] at hplace
        cases bytes? <;> cases hplace
      rw [entries_put, if_neg hother, hentry]
      exact ih h
    all_goals
      split_ifs at h with hrest
      obtain ⟨rfl, -, rfl⟩ := Target.file.inj h
      rw [entries_put, if_pos rfl]
      exact if_pos hrest

lemma entries_of_resolve (h : t.resolve path = .file place bytes? slash) :
    t.entries place = bytes?.map .file := by
  unfold resolve at h
  split at h
  · cases h
  · exact entries_of_walk h

lemma resolve_put (h : t.resolve path = .file place bytes? slash) (bytes : List UInt8) :
    (t.put place bytes).resolve path = .file place (some bytes) slash := by
  unfold resolve at h ⊢
  split at h
  · cases h
  · exact walk_put h bytes

/-- The path leads to a file with these bytes, where it led to a file or to a free place before. At
every other place is what was there. -/
inductive Written (before after : FileTree) (path : String) (bytes : List UInt8) : Prop where
  | mk (place : Location)
    (leads : ∃ bytes?, before.resolve path = .file place bytes? false)
    (holds : after.resolve path = .file place (some bytes) false)
    (others : ∀ other, other ≠ place → after.entries other = before.entries other)
    (working : after.working = before.working)

lemma Written.entries {after : FileTree} {bytes : List UInt8} (h : Written t after path bytes)
    (hpath : t.resolve path = .file place bytes? false) :
    after.entries place = some (.file bytes) ∧
      ∀ other, other ≠ place → after.entries other = t.entries other := by
  obtain ⟨place', ⟨bytes?', hleads⟩, hholds, hothers, -⟩ := h
  obtain ⟨rfl, -, -⟩ := Target.file.inj (hpath.symm.trans hleads)
  exact ⟨entries_of_resolve hholds, hothers⟩

lemma create_of_resolve (hpath : t.resolve path = .file place bytes? false)
    (hopen : limits.barred? .writing place = none) :
    t.create limits path = .ok (place, t.put place []) := by
  simp [create, hpath, hopen]

lemma create_eq_ok {start : FileTree} (h : t.create limits path = .ok (place, start)) :
    start = t.put place [] ∧ ∃ bytes?, t.resolve path = .file place bytes? false := by
  unfold create at h
  cases hpath : t.resolve path with
  | directory | nowhere | throughFile =>
    rw [hpath] at h
    cases h
  | file place' bytes? slash =>
    rw [hpath] at h
    cases slash with
    | true => cases h
    | false =>
      cases hbarred : limits.barred? .writing place' with
      | some fault => simp [hbarred] at h
      | none =>
        simp only [hbarred] at h
        obtain ⟨rfl, rfl⟩ := Prod.mk.inj (Except.ok.inj h)
        exact ⟨rfl, bytes?, rfl⟩

lemma written_of_create {start : FileTree} (h : t.create limits path = .ok (place, start))
    (bytes : List UInt8) : Written t (t.put place bytes) path bytes := by
  obtain ⟨-, bytes?, hpath⟩ := create_eq_ok h
  exact ⟨place, ⟨bytes?, hpath⟩, resolve_put hpath bytes,
    fun other hother => by rw [entries_put, if_neg hother], rfl⟩

/-- Of what is added to a file it takes as much as there is room for. -/
lemma append_put (t : FileTree) (place : Location) {old : List UInt8}
    (hold : limits.overrun? old.length = none) (bytes : List UInt8) :
    (t.put place old).append limits place bytes =
      match limits.overrun? (old ++ bytes).length with
      | some (room, fault) => (.error fault, t.put place ((old ++ bytes).take room))
      | none => (.ok (), t.put place (old ++ bytes)) := by
  unfold append
  rw [entries_put, if_pos rfl]
  dsimp only
  cases hover : limits.overrun? (old ++ bytes).length with
  | none => simp
  | some overrun =>
    obtain ⟨room, fault⟩ := overrun
    have hroom := Limits.le_of_overrun? hold hover
    simp [List.take_append, List.take_of_length_le hroom]

/-- Two pieces that are added one after the other are added as one: where the first breaks off, so do
both together. -/
lemma append_append (t : FileTree) (place : Location) {old : List UInt8}
    (hold : limits.overrun? old.length = none) (u v : List UInt8) :
    (match (t.put place old).append limits place u with
      | (.ok (), after) => after.append limits place v
      | (.error fault, after) => (.error fault, after)) =
      (t.put place old).append limits place (u ++ v) := by
  rw [append_put t place hold, append_put t place hold, ← List.append_assoc]
  cases hu : limits.overrun? (old ++ u).length with
  | none => exact append_put t place hu v
  | some overrun =>
    obtain ⟨room, fault⟩ := overrun
    obtain ⟨hroom, hlt⟩ := Limits.overrun?_eq_some_iff.1 hu
    have huv : limits.overrun? (old ++ u ++ v).length = some (room, fault) := by
      refine Limits.overrun?_eq_some_iff.2 ⟨hroom, ?_⟩
      rw [List.length_append]
      omega
    rw [huv]
    simp only [List.take_append_of_le_length (Nat.le_of_lt hlt)]

section Store

variable (limits t place path)

lemma run_read : ((store limits).read path).run t = pure (t.read limits path, t) := rfl

lemma run_append (bytes : List UInt8) :
    ((store limits).append place bytes).run t = pure (t.append limits place bytes) := rfl

lemma run_create : ((store limits).create path).run t =
    pure (match t.create limits path with
      | .ok (place, start) => (.ok place, start)
      | .error fault => (.error fault, t)) := by
  cases hcreate : t.create limits path <;> simp [store, hcreate]

end Store

end FileTree

end EscapeTime.Shell
