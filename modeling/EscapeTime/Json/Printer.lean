import EscapeTime.Json.Basic

namespace EscapeTime.Json

/-!
# Writing a document

Compact, without a blank, or with a line for each item and two spaces for each level.
-/

/-- The character as it stands in a string. -/
def escapeChar (c : Char) : List Char :=
  if c == '"' then ['\\', '"']
  else if c == '\\' then ['\\', '\\']
  else if c.toNat == 8 then ['\\', 'b']
  else if c.toNat == 12 then ['\\', 'f']
  else if c == '\n' then ['\\', 'n']
  else if c == '\r' then ['\\', 'r']
  else if c == '\t' then ['\\', 't']
  else if c.toNat < 32 then
    ['\\', 'u', '0', '0', Nat.digitChar (c.toNat / 16), Nat.digitChar (c.toNat % 16)]
  else [c]

/-- The string in quotes. One that has no text is written as an empty string. -/
def quote (s : Content) : List Char :=
  '"' :: (s.getD "").toList.flatMap escapeChar ++ ['"']

def Number.text (n : Number) : List Char :=
  (if n.negative then ['-'] else []) ++ n.whole
    ++ (if n.fraction.isEmpty then [] else '.' :: n.fraction)
    ++ match n.exponent with
      | none => []
      | some (negative, digits) => 'e' :: (if negative then '-' else '+') :: digits

/-- A value that holds no other. -/
def scalarText : Json → List Char
  | null => "null".toList
  | bool b => (if b then "true" else "false").toList
  | number n => n.text
  | string s => quote s
  | array _ => []
  | object _ => []

mutual

/-- The document without blanks, in front of `rest`. -/
def compactOnto (rest : List Char) : Json → List Char
  | array items => '[' :: compactItems (']' :: rest) items
  | object fields => '{' :: compactFields ('}' :: rest) fields
  | v => scalarText v ++ rest

def compactItems (rest : List Char) : List Json → List Char
  | [] => rest
  | [v] => compactOnto rest v
  | v :: w :: more => compactOnto (',' :: compactItems rest (w :: more)) v

def compactFields (rest : List Char) : List (Content × Json) → List Char
  | [] => rest
  | [(k, v)] => quote k ++ ':' :: compactOnto rest v
  | (k, v) :: f :: more => quote k ++ ':' :: compactOnto (',' :: compactFields rest (f :: more)) v

end

/-- The document without blanks. -/
def compact (v : Json) : List Char := compactOnto [] v

/-- A new line, indented to the level. -/
def newLine (level : Nat) : List Char := '\n' :: List.replicate (2 * level) ' '

mutual

/-- The document with a line for each item, in front of `rest`, where `level` containers are open
around it. -/
def prettyOnto (level : Nat) (rest : List Char) : Json → List Char
  | array [] => '[' :: ']' :: rest
  | object [] => '{' :: '}' :: rest
  | array items => '[' :: prettyItems (level + 1) (newLine level ++ ']' :: rest) items
  | object fields => '{' :: prettyFields (level + 1) (newLine level ++ '}' :: rest) fields
  | v => scalarText v ++ rest

def prettyItems (level : Nat) (rest : List Char) : List Json → List Char
  | [] => rest
  | [v] => newLine level ++ prettyOnto level rest v
  | v :: w :: more =>
    newLine level ++ prettyOnto level (',' :: prettyItems level rest (w :: more)) v

def prettyFields (level : Nat) (rest : List Char) : List (Content × Json) → List Char
  | [] => rest
  | [(k, v)] => newLine level ++ quote k ++ ':' :: ' ' :: prettyOnto level rest v
  | (k, v) :: f :: more =>
    newLine level ++ quote k
      ++ ':' :: ' ' :: prettyOnto level (',' :: prettyFields level rest (f :: more)) v

end

/-- The document with a line for each item. -/
def pretty (v : Json) : List Char := prettyOnto 0 [] v

end EscapeTime.Json
