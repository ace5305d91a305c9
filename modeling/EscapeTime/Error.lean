import EscapeTime.Formula.Diagnostic
import EscapeTime.Kernel.Evaluator

namespace EscapeTime

/-!
# What can go wrong

Every failure is a cause of its own; the wording stands in one place.
-/

/-- Failures of files and of the places that bytes are written to. -/
inductive FileFault
  | notFound
  | notADirectory
  | isADirectory
  | invalidUtf8
  | sinkFull
  | other (text : String)
  deriving DecidableEq, Repr

def FileFault.message : FileFault → String
  | notFound => "No such file or directory (os error 2)"
  | notADirectory => "Not a directory (os error 20)"
  | isADirectory => "Is a directory (os error 21)"
  | invalidUtf8 => "stream did not contain valid UTF-8"
  | sinkFull => "failed to write whole buffer"
  | other text => text

/-- Why a configuration cannot be used. -/
inductive ConfigFault
  | emptyImage (width height : Nat)
  | noIterations
  | radius (value : Float)
  | viewportSpan (value : Float)

def ConfigFault.message : ConfigFault → String
  | emptyImage width height =>
    "image size must be positive, got " ++ toString width ++ "x" ++ toString height
  | noIterations => "max_iterations must be positive"
  | radius value => "escape_radius must be a positive number, got " ++ Decimal.positional value
  | viewportSpan value => "viewport span must be a positive number, got " ++ Decimal.positional value

def KernelFault.message : KernelFault → String
  | invalidLiteral text => "Invalid numeric literal in kernel: " ++ text
  | invalidSlot id => "Kernel instruction refers to missing slot " ++ toString id

inductive Error
  | parse (diagnostic : Diagnostic)
  | kernel (fault : KernelFault)
  | invalidColor (text : String)
  | invalidConfig (fault : ConfigFault)
  /-- A gradient's table has no colour for an index. -/
  | missingColor (index : Nat)
  | emptyGrid
  | file (fault : FileFault)
  /-- A document is not well formed, or its values do not fit. -/
  | malformed

def Error.message : Error → String
  | parse d => "Parse error: " ++ d.message
  | kernel fault => fault.message
  | invalidColor text => "Invalid color '" ++ text ++ "': expected #rrggbb"
  | invalidConfig fault => "Invalid configuration: " ++ fault.message
  | missingColor index => "Gradient table has no entry for index " ++ toString index
  | emptyGrid => "Escape-count grid is empty"
  | file fault => "IO error: " ++ fault.message
  | malformed => "Serialization error: malformed document"

end EscapeTime
