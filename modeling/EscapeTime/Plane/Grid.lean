namespace EscapeTime

/-!
# Grids

A rectangle of cells, row by row from the top.
-/

structure Grid (α : Type) where
  height : Nat
  width : Nat
  cells : Vector α (height * width)

namespace Grid

variable {α β : Type}

/-- The grid with the same value everywhere. -/
def replicate (height width : Nat) (a : α) : Grid α := ⟨height, width, Vector.replicate _ a⟩

/-- The cell in a row and a column. -/
def get? (g : Grid α) (row col : Nat) : Option α :=
  if row < g.height && col < g.width then g.cells[row * g.width + col]? else none

/-- The grid with one cell replaced. -/
def set (g : Grid α) (row col : Nat) (a : α) : Grid α :=
  { g with cells := g.cells.setIfInBounds (row * g.width + col) a }

/-- The cells, row by row. -/
def toList (g : Grid α) : List α := g.cells.toList

def row (g : Grid α) (r : Nat) : List α :=
  (g.cells.extract (r * g.width) ((r + 1) * g.width)).toList

def rows (g : Grid α) : List (List α) := (List.range g.height).map g.row

/-- The grid with a function applied to each cell, which may fail. -/
def mapM {m : Type → Type} [Monad m] (f : α → m β) (g : Grid α) : m (Grid β) :=
  return ⟨g.height, g.width, ← g.cells.mapM f⟩

end Grid

end EscapeTime
