import EscapeTime.Error
import EscapeTime.Plane.Grid

namespace EscapeTime

/-!
# Which counts are worth a colour of their own

A few cells with extreme counts would stretch the colours out of use, so about one in a hundred cells
at either end is left to share the outermost colour. Cells that never escape do not count at the
upper end.
-/

/-- How often each value occurs, by ascending value. -/
abbrev Histogram := List (UInt32 × Nat)

namespace Histogram

/-- One more occurrence of a value. -/
def bump (v : UInt32) : Histogram → Histogram
  | [] => [(v, 1)]
  | (w, n) :: rest =>
    if v < w then (v, 1) :: (w, n) :: rest
    else if v = w then (w, n + 1) :: rest
    else (w, n) :: bump v rest

def ofList (values : List UInt32) : Histogram := values.foldl (fun h v => bump v h) []

/-- The first value at which the occurrences so far reach the threshold. -/
def reach (threshold total : Nat) : Histogram → Option UInt32
  | [] => none
  | (v, n) :: rest => if threshold ≤ total + n then some v else reach threshold (total + n) rest

end Histogram

/-- The range of values over which the colours are spread. -/
structure Bounds where
  min : UInt32
  max : UInt32
  deriving DecidableEq, Repr

namespace Bounds

/-- The number of cells at either end that share a colour. -/
def threshold (g : Grid UInt32) : Nat := g.cells.size / 100

/-- The range of colours for a grid of escape counts. -/
def ofGrid (g : Grid UInt32) (maxIterations : UInt32) : Except Error Bounds :=
  let counts := Histogram.ofList g.toList
  match (counts.reach (threshold g) 0).or (counts.head?.map (·.1)) with
  | none => .error .emptyGrid
  | some least =>
    let escaped := counts.filter (·.1 != maxIterations)
    let greatest :=
      ((Histogram.reach (threshold g) 0 escaped.reverse).or (escaped.head?.map (·.1))).getD least
    .ok ⟨least, if greatest < least then least else greatest⟩

end Bounds

end EscapeTime
