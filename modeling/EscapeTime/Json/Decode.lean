import EscapeTime.Json.Number
import EscapeTime.Json.Reader

namespace EscapeTime.Json

/-!
# Taking values out of a document

A record is an object, or an array of its fields in order. A variant of a sum type is named by the
field `kind` of an object, or by the first item of an array; the rest is a record. A value of an
enumeration is its name, or an object with that one key and nothing as its value.

A variant's whole value is taken in before it is known which one it is, so there everything must be
sound: strings have a text, numbers are in range, and containers do not nest too deep. Fields of a
plain record that nobody asks for are passed over unseen.
-/

/-- How many containers may nest. -/
def depthLimit : Nat := 127

/-- Every string has a text, every number is in range, and at most `room` containers nest. -/
def sound : Nat → Json → Bool
  | _, null => true
  | _, bool _ => true
  | _, number n => n.toFloat?.isSome
  | _, string s => s.isSome
  | 0, array _ => false
  | 0, object _ => false
  | room + 1, array items => items.all (sound room)
  | room + 1, object fields => fields.all fun (k, v) => k.isSome && sound room v

/-! ### Records -/

/-- The values of a key. -/
def valuesOf (name : String) (fields : List (Content × Json)) : List Json :=
  (fields.filter (·.1 == some name)).map (·.2)

/-- The value of a key that must not be repeated; the inner option says whether it is there. -/
def field? (fields : List (Content × Json)) (name : String) : Option (Option Json) :=
  match valuesOf name fields with
  | [] => some none
  | [v] => some (some v)
  | _ => none

/-- The fields of a record, in the order of the names; an array may end early. -/
def fields? (names : List String) : Json → Option (List (Option Json))
  | array items =>
    if items.length ≤ names.length then
      some (items.map some ++ List.replicate (names.length - items.length) none)
    else none
  | object fields => if fields.all (·.1.isSome) then names.mapM (field? fields) else none
  | _ => none

/-- A field that may be missing. -/
def orDefault {α : Type} (default : α) (read : Json → Option α) : Option Json → Option α
  | none => some default
  | some v => read v

/-- A field that must be there. -/
def required {α : Type} (read : Json → Option α) : Option Json → Option α
  | none => none
  | some v => read v

/-! ### Variants and enumerations -/

/-- The field that names the variant. -/
def kindField : String := "kind"

/-- The name of the variant, and the record of the rest. -/
def variant? : Json → Option (Json × Json)
  | array (kind :: rest) => some (kind, array rest)
  | object fields =>
    match valuesOf kindField fields with
    | [kind] => some (kind, object (fields.filter (!·.1 == some kindField)))
    | _ => none
  | _ => none

/-- The name of an enumeration's value. Inside a variant an empty object counts as nothing. -/
def name? (insideVariant : Bool) : Json → Option String
  | string s => s
  | object [(key, null)] => key
  | object [(key, object [])] => if insideVariant then key else none
  | _ => none

/-! ### Scalars -/

def string? : Json → Option String
  | string s => s
  | _ => none

def natural? (bound : Nat) : Json → Option Nat
  | number n => n.natural? bound
  | _ => none

def float? : Json → Option Float
  | number n => n.toFloat?
  | _ => none

end EscapeTime.Json
