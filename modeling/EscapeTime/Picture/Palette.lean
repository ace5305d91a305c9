import EscapeTime.Picture.Histogram
import EscapeTime.Picture.Rgb

namespace EscapeTime

/-!
# Colouring a grid

A gradient runs from one colour to another; a value's place between the bounds says how far along it
lies. The colours are computed once for every value and looked up for every cell. A cell that never
escapes has a colour of its own.
-/

structure Gradient where
  low : Rgb
  high : Rgb
  interior : Rgb
  deriving DecidableEq, Repr

def Gradient.standard : Gradient := ⟨⟨0x00, 0x00, 0x33⟩, ⟨0xff, 0xcc, 0x00⟩, ⟨0x00, 0x00, 0x00⟩⟩

/-- How far along the gradient a value lies, in 255ths. -/
def Bounds.intensity (b : Bounds) (v : UInt32) : UInt8 :=
  if b.max ≤ b.min then 0
  else
    let clamped := if v < b.min then b.min else if b.max < v then b.max else v
    (255 * (clamped - b.min).toUInt64 / (b.max - b.min).toUInt64).toUInt8

/-- The colour of a value that escapes. -/
def Gradient.color (g : Gradient) (b : Bounds) (v : UInt32) : Rgb := g.low.mix g.high (b.intensity v)

/-- The colours of the values up to the upper bound. -/
structure Palette where
  colors : Array Rgb
  interior : Rgb
  maxIterations : UInt32

namespace Palette

def build (b : Bounds) (g : Gradient) (maxIterations : UInt32) : Palette where
  colors := (Array.range (b.max.toNat + 1)).map fun v => g.color b (.ofNat v)
  interior := g.interior
  maxIterations := maxIterations

def size (p : Palette) : Nat := p.colors.size

/-- The colour of a value; those past the end share the last one. -/
def lookup (p : Palette) (v : UInt32) : Except Error Rgb :=
  if v = p.maxIterations then .ok p.interior
  else
    let index := min v.toNat (p.size - 1)
    match p.colors[index]? with
    | some c => .ok c
    | none => .error (.missingColor index)

end Palette

/-- The picture of a grid of escape counts. -/
def Grid.colorize (g : Grid UInt32) (maxIterations : UInt32) (gradient : Gradient) :
    Except Error (Grid Rgb) := do
  let bounds ← Bounds.ofGrid g maxIterations
  let palette := Palette.build bounds gradient maxIterations
  g.mapM palette.lookup

end EscapeTime
