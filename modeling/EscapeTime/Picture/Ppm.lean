import EscapeTime.Error
import EscapeTime.Picture.Rgb
import EscapeTime.Plane.Grid

namespace EscapeTime

/-!
# Pictures as bytes

The binary portable pixmap: a line that names the format, one with the sizes and one with the
greatest byte, then three bytes a pixel.
-/

/-- Where bytes go. A sink may hold only so many. -/
structure Sink where
  capacity : Option Nat
  written : List UInt8

namespace Sink

/-- Writes all of the bytes, unless the sink is too small for them. -/
def write (s : Sink) (bytes : List UInt8) : Except FileFault Sink :=
  let after := s.written ++ bytes
  match s.capacity with
  | none => .ok { s with written := after }
  | some n => if after.length ≤ n then .ok { s with written := after } else .error .sinkFull

/-- Writes to the sink at hand. -/
def put (bytes : List UInt8) : StateM Sink (Except FileFault Unit) := do
  match (← get).write bytes with
  | .ok sink => set sink; return .ok ()
  | .error fault => return .error fault

end Sink

namespace Ppm

/-- The lines before the pixels. -/
def header (width height : Nat) : List UInt8 :=
  ("P6\n" ++ toString width ++ " " ++ toString height ++ "\n255\n").toUTF8.toList

def pixelBytes (c : Rgb) : List UInt8 := [c.r, c.g, c.b]

/-- The bytes of all pixels, row by row. -/
def body (image : Grid Rgb) : List UInt8 := image.toList.flatMap pixelBytes

/-- Writes a picture by an operation that puts bytes where they belong. After a failure nothing more
is put. -/
def writeWith {m : Type → Type} [Monad m] (put : List UInt8 → m (Except FileFault Unit))
    (image : Grid Rgb) : m (Except Error Unit) := do
  match ← put (header image.width image.height) with
  | .error fault => return .error (.file fault)
  | .ok () => return (← put (body image)).mapError .file

/-- Writes a picture to a sink. -/
def write (image : Grid Rgb) (sink : Sink) : Except Error Sink :=
  match Id.run ((writeWith Sink.put image).run sink) with
  | (.ok (), sink) => .ok sink
  | (.error e, _) => .error e

/-- The bytes of a picture. -/
def bytes (image : Grid Rgb) : List UInt8 := header image.width image.height ++ body image

end Ppm

end EscapeTime
