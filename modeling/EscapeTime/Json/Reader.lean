import EscapeTime.Json.Lexer

namespace EscapeTime.Json

/-!
# Reading a document

Tokens are read from left to right by a machine with a stack of the containers that are open. There
is no limit on how deep they nest; a reader of the document may set one.
-/

/-- An open container: what it holds so far, last first. An object also has the key whose value
is being read. -/
inductive Frame
  | array (items : List Json)
  | object (fields : List (Content × Json)) (key : Content)

inductive State
  /-- A value must come. -/
  | value (stack : List Frame)
  /-- An array has been opened: a value or the end of it must come. -/
  | firstItem (stack : List Frame)
  /-- An object has been opened: a key or the end of it must come. -/
  | firstKey (stack : List Frame)
  /-- A key must come. -/
  | nextKey (fields : List (Content × Json)) (stack : List Frame)
  /-- A colon must come. -/
  | colon (fields : List (Content × Json)) (key : Content) (stack : List Frame)
  /-- A value is complete. -/
  | after (v : Json) (stack : List Frame)

namespace State

/-- A token where a value must come. -/
def startValue (stack : List Frame) : Token → Option State
  | .openObject => some (.firstKey stack)
  | .openArray => some (.firstItem stack)
  | .null => some (.after .null stack)
  | .bool b => some (.after (.bool b) stack)
  | .number n => some (.after (.number n) stack)
  | .string s => some (.after (.string s) stack)
  | _ => none

def step : State → Token → Option State
  | value stack, t => startValue stack t
  | firstItem stack, .closeArray => some (.after (.array []) stack)
  | firstItem stack, t => startValue (.array [] :: stack) t
  | firstKey stack, .closeObject => some (.after (.object []) stack)
  | firstKey stack, .string key => some (.colon [] key stack)
  | nextKey fields stack, .string key => some (.colon fields key stack)
  | colon fields key stack, .colon => some (.value (.object fields key :: stack))
  | after v (.array items :: stack), .comma => some (.value (.array (v :: items) :: stack))
  | after v (.array items :: stack), .closeArray =>
    some (.after (.array (v :: items).reverse) stack)
  | after v (.object fields key :: stack), .comma => some (.nextKey ((key, v) :: fields) stack)
  | after v (.object fields key :: stack), .closeObject =>
    some (.after (.object ((key, v) :: fields).reverse) stack)
  | _, _ => none

/-- The document, if it is complete. -/
def result? : State → Option Json
  | after v [] => some v
  | _ => none

end State

/-- The document that a list of tokens makes up. -/
def ofTokens? (tokens : List Token) : Option Json :=
  (tokens.foldlM State.step (.value [])).bind State.result?

/-- The document that a text holds. -/
def parse? (cs : List Char) : Option Json := (tokens? cs).bind ofTokens?

end EscapeTime.Json
