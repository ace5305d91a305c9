import EscapeTime.Error

namespace EscapeTime.Shell

/-!
# Files

The program reads whole files, and writes a file piece by piece once it has created it. Where the
files are is left open: a file store has these operations in some monad. One such store is a tree of
files that is itself a value. Its surroundings may keep a file from being opened, and may break off
the writing of a file that has been created. The tree has no links, and nobody else changes it.
-/

/-- The operations on files; a file that has been created is written through its handle. -/
structure FileStore (m : Type → Type) (Handle : Type) where
  read : String → m (Except FileFault (List UInt8))
  /-- Opens a file for writing. It is there and empty afterwards, whatever it held. -/
  create : String → m (Except FileFault Handle)
  /-- Adds bytes at the end. A failure may leave the first of them in the file. -/
  append : Handle → List UInt8 → m (Except FileFault Unit)

/-- The names on the way from the root. -/
abbrev Location := List String

/-- What stands at a place. -/
inductive Entry
  | directory
  | file (bytes : List UInt8)
  deriving DecidableEq, Repr

/-- Files and directories by their places, and the place where relative paths start. -/
structure FileTree where
  entries : Location → Option Entry
  working : Location

/-- What a file is opened for. -/
inductive Access
  | reading
  | writing
  deriving DecidableEq, Repr

/-- What the surroundings of a tree do not let the program do. -/
structure Limits where
  /-- Why the file at a place is not opened, if it is not. -/
  barred? : Access → Location → Option FileFault
  /-- How many bytes a file takes, and what goes wrong after them. -/
  room? : Option (Nat × FileFault)

namespace Limits

/-- Everything is opened, and files take all bytes. -/
def unlimited : Limits := ⟨fun _ _ => none, none⟩

/-- Where and why the writing of a file breaks off that is to have the given length. -/
def overrun? (limits : Limits) (length : Nat) : Option (Nat × FileFault) :=
  limits.room?.filter (·.1 < length)

end Limits

/-- Where a path leads. -/
inductive Target
  | directory
  /-- A place in a directory, with a file or with nothing; a slash behind asks for a directory. -/
  | file (place : Location) (bytes? : Option (List UInt8)) (slash : Bool)
  | nowhere
  /-- A file on the way is taken for a directory. -/
  | throughFile
  deriving DecidableEq, Repr

namespace FileTree

/-- The tree with these entries. -/
def ofEntries (entries : List (Location × Entry)) (working : Location) : FileTree :=
  ⟨fun place => List.lookup place entries, working⟩

/-- The tree with a file of these bytes at the place. -/
def put (t : FileTree) (place : Location) (bytes : List UInt8) : FileTree :=
  { t with entries := fun other => if other = place then some (.file bytes) else t.entries other }

/-- Where the parts of a path lead from a directory. -/
def walk (t : FileTree) (here : Location) : List String → Target
  | [] => .directory
  | part :: rest =>
    if part == "" || part == "." then t.walk here rest
    else if part == ".." then t.walk here.dropLast rest
    else
      let next := here ++ [part]
      match t.entries next with
      | some .directory => t.walk next rest
      | some (.file bytes) =>
        if rest.all (· == "") then .file next (some bytes) (!rest.isEmpty) else .throughFile
      | none => if rest.all (· == "") then .file next none (!rest.isEmpty) else .nowhere

/-- Where a path leads. An empty path leads nowhere; one that starts with a slash starts at the
root. -/
def resolve (t : FileTree) (path : String) : Target :=
  match path.toList with
  | [] => .nowhere
  | c :: rest =>
    t.walk (if c == '/' then [] else t.working)
      (((c :: rest).splitOnP (· == '/')).map String.ofList)

def read (limits : Limits) (t : FileTree) (path : String) : Except FileFault (List UInt8) :=
  match t.resolve path with
  | .directory => .error .isADirectory
  | .nowhere => .error .notFound
  | .throughFile => .error .notADirectory
  | .file _ none _ => .error .notFound
  | .file place (some bytes) slash =>
    if slash then .error .notADirectory
    else match limits.barred? .reading place with
      | some fault => .error fault
      | none => .ok bytes

/-- The place of the file that is created, and the tree in which it is empty. -/
def create (limits : Limits) (t : FileTree) (path : String) :
    Except FileFault (Location × FileTree) :=
  match t.resolve path with
  | .directory => .error .isADirectory
  | .nowhere => .error .notFound
  | .throughFile => .error .notADirectory
  | .file place _ slash =>
    if slash then .error .isADirectory
    else match limits.barred? .writing place with
      | some fault => .error fault
      | none => .ok (place, t.put place [])

/-- Whether all bytes were added to the file, and the tree with those that were. -/
def append (limits : Limits) (t : FileTree) (place : Location) (bytes : List UInt8) :
    Except FileFault Unit × FileTree :=
  match t.entries place with
  | some (.file old) =>
    match limits.overrun? (old ++ bytes).length with
    | some (room, fault) => (.error fault, t.put place (old ++ bytes.take (room - old.length)))
    | none => (.ok (), t.put place (old ++ bytes))
  | _ => (.error .notFound, t)

/-- The tree as a file store. -/
def store (limits : Limits) : FileStore (StateM FileTree) Location where
  read path := do return (← get).read limits path
  create path := do
    match (← get).create limits path with
    | .ok (place, t) => set t; return .ok place
    | .error fault => return .error fault
  append place bytes := do
    let (result, t) := (← get).append limits place bytes
    set t
    return result

end FileTree

end EscapeTime.Shell
