import EscapeTime.Error
import EscapeTime.Plane.Grid
import EscapeTime.Plane.Orbit

namespace EscapeTime

/-!
# Escape counts over a part of the plane

Every pixel stands for a point of the plane, and its cell for how long the orbit of that point stays
near. The rows are dealt out to workers in chunks. A worker has a buffer of its own and writes only
the rows of its chunk, so neither the number of workers nor the order of their work shows in the
result.

The workers and the memory for the grid are taken to be had. That no block of memory can hold a grid
is told by its sizes alone (`Engine.Allocatable`); who asks for a picture asks this first.
-/

/-- Where a pixel's point enters the iteration. -/
inductive Mode
  /-- As the parameter; the orbit starts at zero. -/
  | mandelbrot
  /-- As the start of the orbit, with a fixed parameter. -/
  | julia (c : Complex)

/-- The start and the parameter of a point's orbit. -/
def Mode.entry (point : Complex) : Mode → Complex × Complex
  | mandelbrot => (.zero, point)
  | julia c => (point, c)

/-- The part of the plane that is looked at: its centre, and its extent from left to right. -/
structure Viewport where
  center : Complex
  span : Float

namespace Viewport

def standard : Viewport := ⟨⟨-0.5, 0.0⟩, 3.0⟩

/-- The point of a pixel. Rows count from the top, so the imaginary part falls. -/
def point (v : Viewport) (row col width height : Nat) : Complex :=
  let scale := v.span / Float.ofNat (max (width - 1) 1)
  let x := Float.ofNat col - (Float.ofNat width - 1.0) / 2.0
  let y := (Float.ofNat height - 1.0) / 2.0 - Float.ofNat row
  ⟨v.center.re + x * scale, v.center.im + y * scale⟩

end Viewport

structure Engine where
  width : Nat
  height : Nat
  maxIterations : UInt32
  escapeRadius : Float
  mode : Mode
  viewport : Viewport
  /-- The number of workers; zero leaves it open. -/
  threads : Nat

/-- Consecutive rows of a grid. -/
structure Chunk where
  first : Nat
  count : Nat
  deriving DecidableEq, Repr

namespace Chunk

/-- So many rows from `first` on, cut into chunks of a given size; the last may be smaller. -/
def deal (size first rows : Nat) : List Chunk :=
  if size = 0 ∨ rows = 0 then []
  else ⟨first, min size rows⟩ :: deal size (first + size) (rows - size)
termination_by rows

/-- The cells of a chunk row by row, each by its row within the chunk and its column. -/
def cells (width : Nat) (chunk : Chunk) : List (Nat × Nat) :=
  (List.range chunk.count).flatMap fun row => (List.range width).map fun col => (row, col)

end Chunk

/-- The work of one worker: a chunk of the grid, and the row of the picture that the worker takes the
chunk's first row for. -/
structure Job where
  chunk : Chunk
  firstRow : Nat
  deriving DecidableEq, Repr

/-- A value that is written into a cell. -/
structure Write where
  row : Nat
  col : Nat
  count : UInt32
  deriving DecidableEq, Repr

def Write.apply (g : Grid UInt32) (w : Write) : Grid UInt32 := g.set w.row w.col w.count

namespace Engine

def standard : Engine where
  width := 400
  height := 400
  maxIterations := 256
  escapeRadius := 2.0
  mode := .mandelbrot
  viewport := .standard
  threads := 0

/-- The greatest extent of a block of memory: a word of 64 bits of which one is the sign. -/
def greatestExtent : Nat := Nat.pow 2 63 - 1

/-- The cells of the grid. -/
def cellCount (c : Engine) : Nat := c.width * c.height

/-- A block of memory can hold the grid, in which a cell takes four bytes. -/
def Allocatable (c : Engine) : Prop := 4 * c.cellCount ≤ greatestExtent

instance (c : Engine) : Decidable c.Allocatable := inferInstanceAs (Decidable (_ ≤ _))

/-- As many workers as asked for, or as are offered if their number is left open, but no more than
there are rows. -/
def workers (offered : Nat) (c : Engine) : Nat :=
  min (if c.threads = 0 then max offered 1 else c.threads) c.height

/-- The jobs for a number of workers: the chunks from the top, the `i`-th being taken to start `i`
full chunks below the first row. -/
def jobs (height workers : Nat) : List Job :=
  let size := (height + workers - 1) / workers
  (Chunk.deal size 0 height).mapIdx fun i chunk => ⟨chunk, i * size⟩

section

variable (p : Primitives) (e : Evaluator) (c : Engine)

/-- The escape count of a pixel, computed in the given buffer, and the buffer after it. -/
def pixel (buffer : Array Complex) (row col : Nat) : UInt32 × Array Complex :=
  let (z, parameter) := c.mode.entry (c.viewport.point row col c.width c.height)
  e.escapeWith p buffer z parameter c.maxIterations c.escapeRadius

/-- What a worker writes for a cell of its chunk, and its buffer afterwards. -/
def work (job : Job) (buffer : Array Complex) (cell : Nat × Nat) : Write × Array Complex :=
  let (count, buffer) := c.pixel p e buffer (job.firstRow + cell.1) cell.2
  (⟨job.chunk.first + cell.1, cell.2, count⟩, buffer)

/-- A whole job: the cells of the chunk one after the other, all computed in one buffer. -/
def perform (g : Grid UInt32) (job : Job) : Grid UInt32 :=
  ((job.chunk.cells c.width).foldl
    (fun (g, buffer) cell =>
      let (write, buffer) := c.work p e job buffer cell
      (write.apply g, buffer))
    (g, e.scratch)).1

/-- The grid that the jobs fill, done in the given order. -/
def fillGrid (jobs : List Job) : Grid UInt32 :=
  jobs.foldl (c.perform p e) (.replicate c.height c.width 0)

/-- The escape counts of all pixels, where so many workers are offered and there is memory for the
grid. -/
def escapeCountsOn (offered : Nat) : Except Error (Grid UInt32) :=
  if c.width = 0 || c.height = 0 then .error .emptyGrid
  else .ok (c.fillGrid p e (jobs c.height (c.workers offered)))

/-- The escape counts of all pixels. One worker is offered. -/
def escapeCounts : Except Error (Grid UInt32) := c.escapeCountsOn p e 1

end

end Engine

end EscapeTime
