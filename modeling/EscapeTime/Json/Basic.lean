namespace EscapeTime

/-!
# JSON documents

A document as it is written: numbers keep their digits, objects keep the order of their fields and
may repeat a key. What a number or a repeated key means is for the reader of the document to say.
-/

namespace Json

/-- The content of a string. An escape can name half of a surrogate pair; a string with such an
escape has no text. -/
abbrev Content := Option String

/-- A number as it is written. The fraction is empty if there is no point; an exponent has a sign,
which is true for a minus, and digits. -/
structure Number where
  negative : Bool
  whole : List Char
  fraction : List Char
  exponent : Option (Bool × List Char)
  deriving DecidableEq, Repr

end Json

inductive Json
  | null
  | bool (b : Bool)
  | number (n : Json.Number)
  | string (s : Json.Content)
  | array (items : List Json)
  | object (fields : List (Json.Content × Json))
  deriving Repr, Inhabited

namespace Json

/-- The string with the given text. -/
def text (s : String) : Json := .string (some s)

/-- The object with the given fields. -/
def record (fields : List (String × Json)) : Json :=
  .object (fields.map fun (k, v) => (some k, v))

/-- The pieces that a document is made of. -/
inductive Token
  | openObject
  | closeObject
  | openArray
  | closeArray
  | comma
  | colon
  | null
  | bool (b : Bool)
  | number (n : Number)
  | string (s : Content)
  deriving DecidableEq, Repr

end Json

end EscapeTime
