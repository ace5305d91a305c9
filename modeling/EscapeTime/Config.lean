import EscapeTime.Kernel.Compile
import EscapeTime.Picture.Document
import EscapeTime.Picture.Palette
import EscapeTime.Plane.Document

namespace EscapeTime

/-!
# Configurations

All that a picture is made from: the formula and how strictly it is read, the part of the plane, and
the colours. A configuration is a JSON document; what it leaves out has a standard value, and what it
says must make sense before it is used. Its picture is drawn once the evaluator of the formula is
there; the memory and the workers for it are taken to be had.
-/

structure Config where
  expression : String
  policy : Policy
  engine : Engine
  gradient : Gradient

namespace Policy

/-- The name of the policy in a document. -/
def tag : Policy → String
  | compat => "compat"
  | strict => "strict"

def ofTag? (s : String) : Option Policy := [compat, strict].find? (·.tag == s)

def ofJson? (j : Json) : Option Policy := (j.name? false).bind ofTag?

end Policy

namespace Config

/-- The standard picture is read strictly. -/
def standard : Config := ⟨"z^2+c", .strict, .standard, .standard⟩

/-- Whether the number is finite and greater than zero. -/
def isPositive (x : Float) : Bool := x.isFinite && decide (0.0 < x)

/-- What is wrong with the settings, if anything is. -/
def fault? (c : Config) : Option ConfigFault :=
  if c.engine.width = 0 || c.engine.height = 0 then
    some (.emptyImage c.engine.width c.engine.height)
  else if c.engine.maxIterations = 0 then some .noIterations
  else if !isPositive c.engine.escapeRadius then some (.radius c.engine.escapeRadius)
  else if !isPositive c.engine.viewport.span then some (.viewportSpan c.engine.viewport.span)
  else none

/-- Refuses settings that make no sense. -/
def validate (c : Config) : Except Error Unit :=
  match c.fault? with
  | some fault => .error (.invalidConfig fault)
  | none => .ok ()

def toJson (c : Config) : Json :=
  .record [("expression", .text c.expression), ("raw_leaf", .text c.policy.tag),
    ("engine", c.engine.toJson), ("gradient", c.gradient.toJson)]

/-- Reads the settings where at most `room` containers may nest. -/
def ofJson? (room : Nat) (j : Json) : Option Config := do
  match ← Json.fields? ["expression", "raw_leaf", "engine", "gradient"] j with
  | [expression, policy, engine, gradient] =>
    return {
      expression := ← Json.orDefault standard.expression Json.string? expression
      policy := ← Json.orDefault standard.policy Policy.ofJson? policy
      engine := ← Json.orDefault standard.engine (Engine.ofJson? (room - 1)) engine
      gradient := ← Json.orDefault standard.gradient Gradient.ofJson? gradient }
  | _ => none

/-- The configuration that the text of a document holds. -/
def ofText (s : String) : Except Error Config :=
  match (Json.parse? s.toList).bind (ofJson? Json.depthLimit) with
  | none => .error .malformed
  | some c => do
    c.validate
    return c

/-- The configuration that the bytes of a file hold. -/
def ofBytes (bytes : List UInt8) : Except Error Config :=
  match String.fromUTF8? ⟨bytes.toArray⟩ with
  | none => .error (.file .invalidUtf8)
  | some s => ofText s

/-- The evaluator of the formula, if the configuration makes sense. -/
def evaluator (c : Config) : Except Error Evaluator := do
  c.validate
  let kernel ← Kernel.compileWith c.policy c.expression
  (Evaluator.ofKernel kernel).mapError .kernel

/-- The picture that the evaluator gives. -/
def draw (c : Config) (e : Evaluator) : Except Error (Grid Rgb) := do
  let grid ← c.engine.escapeCounts .standard e
  grid.colorize c.engine.maxIterations c.gradient

/-- The picture that a configuration describes. -/
def render (c : Config) : Except Error (Grid Rgb) := do
  c.draw (← c.evaluator)

end Config

end EscapeTime
