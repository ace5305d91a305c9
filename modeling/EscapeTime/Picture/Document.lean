import EscapeTime.Json.Decode
import EscapeTime.Json.Printer
import EscapeTime.Picture.Palette

namespace EscapeTime

/-!
# The picture's part of a configuration

A colour in a document is its text. One that names no colour makes the document malformed.
-/

namespace Rgb

def toJson (c : Rgb) : Json := .text c.text

def ofJson? (j : Json) : Option Rgb := j.string?.bind fun s => (ofText s).toOption

end Rgb

namespace Gradient

def toJson (g : Gradient) : Json :=
  .record [("low", g.low.toJson), ("high", g.high.toJson), ("interior", g.interior.toJson)]

def ofJson? (j : Json) : Option Gradient := do
  match ← Json.fields? ["low", "high", "interior"] j with
  | [low, high, interior] =>
    return {
      low := ← Json.orDefault standard.low Rgb.ofJson? low
      high := ← Json.orDefault standard.high Rgb.ofJson? high
      interior := ← Json.orDefault standard.interior Rgb.ofJson? interior }
  | _ => none

/-- The gradient that the text of a document holds. -/
def ofText (s : String) : Except Error Gradient :=
  match (Json.parse? s.toList).bind ofJson? with
  | some g => .ok g
  | none => .error .malformed

end Gradient

end EscapeTime
