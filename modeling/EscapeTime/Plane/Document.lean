import EscapeTime.Json.Decode
import EscapeTime.Json.Printer
import EscapeTime.Plane.Engine

namespace EscapeTime

/-!
# The plane's part of a configuration

Settings that a document does not give have their standard values.
-/

namespace Complex

def toJson (a : Complex) : Json := .record [("re", .ofFloat a.re), ("im", .ofFloat a.im)]

/-- Both parts must be there. -/
def ofJson? (j : Json) : Option Complex := do
  match ← Json.fields? ["re", "im"] j with
  | [re, im] => return ⟨← Json.required Json.float? re, ← Json.required Json.float? im⟩
  | _ => none

end Complex

namespace Mode

def toJson : Mode → Json
  | mandelbrot => .record [("kind", .text "mandelbrot")]
  | julia c => .record [("kind", .text "julia"), ("c", c.toJson)]

/-- Reads a mode in which at most `room` containers nest. -/
def ofJson? (room : Nat) (j : Json) : Option Mode := do
  if !j.sound room then none
  let (kind, body) ← j.variant?
  match ← kind.string? with
  | "mandelbrot" =>
    match body with
    | .array (_ :: _) => none
    | _ => some .mandelbrot
  | "julia" =>
    match ← Json.fields? ["c"] body with
    | [c] => return .julia (← Json.required Complex.ofJson? c)
    | _ => none
  | _ => none

end Mode

namespace Viewport

def toJson (v : Viewport) : Json :=
  .record [("center", v.center.toJson), ("span", .ofFloat v.span)]

def ofJson? (j : Json) : Option Viewport := do
  match ← Json.fields? ["center", "span"] j with
  | [center, span] =>
    return {
      center := ← Json.orDefault standard.center Complex.ofJson? center
      span := ← Json.orDefault standard.span Json.float? span }
  | _ => none

end Viewport

namespace Engine

/-- The sizes are words of 64 bits. -/
def greatestSize : Nat := Nat.pow 2 64 - 1

/-- The number of iterations is a word of 32 bits. -/
def greatestCount : Nat := Nat.pow 2 32 - 1

def toJson (c : Engine) : Json :=
  .record [("width", .ofNat c.width), ("height", .ofNat c.height),
    ("max_iterations", .ofNat c.maxIterations.toNat), ("escape_radius", .ofFloat c.escapeRadius),
    ("mode", c.mode.toJson), ("viewport", c.viewport.toJson), ("threads", .ofNat c.threads)]

def count? (j : Json) : Option UInt32 := (j.natural? greatestCount).map .ofNat

/-- Reads the settings where at most `room` containers may nest. -/
def ofJson? (room : Nat) (j : Json) : Option Engine := do
  let names :=
    ["width", "height", "max_iterations", "escape_radius", "mode", "viewport", "threads"]
  match ← Json.fields? names j with
  | [width, height, maxIterations, escapeRadius, mode, viewport, threads] =>
    return {
      width := ← Json.orDefault standard.width (Json.natural? greatestSize) width
      height := ← Json.orDefault standard.height (Json.natural? greatestSize) height
      maxIterations := ← Json.orDefault standard.maxIterations count? maxIterations
      escapeRadius := ← Json.orDefault standard.escapeRadius Json.float? escapeRadius
      mode := ← Json.orDefault standard.mode (Mode.ofJson? (room - 1)) mode
      viewport := ← Json.orDefault standard.viewport Viewport.ofJson? viewport
      threads := ← Json.orDefault standard.threads (Json.natural? greatestSize) threads }
  | _ => none

/-- The settings that the text of a document holds. -/
def ofText (s : String) : Except Error Engine :=
  match (Json.parse? s.toList).bind (ofJson? Json.depthLimit) with
  | some c => .ok c
  | none => .error .malformed

end Engine

end EscapeTime
