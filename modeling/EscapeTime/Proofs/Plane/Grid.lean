import EscapeTime.Plane.Grid
import Mathlib.Tactic.Ring

namespace EscapeTime.Grid

/-!
# The cells of a grid

The cells lie in one sequence, row after row. A place in it has one row and one column, so to write a
cell leaves all others as they are, and a grid is known from its size and its cells.
-/

variable {α : Type}

/-! ### Places -/

lemma index_lt {height width row col : Nat} (hr : row < height) (hc : col < width) :
    row * width + col < height * width :=
  calc
    row * width + col < row * width + width := by omega
    _ = (row + 1) * width := by ring
    _ ≤ height * width := Nat.mul_le_mul_right width hr

lemma index_inj {width row col row' col' : Nat} (hc : col < width) (hc' : col' < width)
    (h : row * width + col = row' * width + col') : row = row' ∧ col = col' := by
  have hdiv : ∀ r k, k < width → (r * width + k) / width = r := fun r k hk => by
    rw [Nat.mul_comm, Nat.mul_add_div (by omega), Nat.div_eq_of_lt hk, Nat.add_zero]
  have hrow : row = row' := by
    rw [← hdiv row col hc, h, hdiv row' col' hc']
  subst hrow
  exact ⟨rfl, Nat.add_left_cancel h⟩

/-- Every place in the sequence is that of a cell. -/
lemma exists_index {height width i : Nat} (h : i < height * width) :
    ∃ row < height, ∃ col < width, row * width + col = i := by
  have hwidth : 0 < width := Nat.pos_of_ne_zero (by rintro rfl; simp at h)
  refine ⟨i / width, (Nat.div_lt_iff_lt_mul hwidth).2 h, i % width, Nat.mod_lt i hwidth, ?_⟩
  rw [Nat.mul_comm, Nat.div_add_mod]

/-! ### Cells -/

lemma get?_eq {g : Grid α} {row col : Nat} (hr : row < g.height) (hc : col < g.width) :
    g.get? row col = g.cells[row * g.width + col]? := by
  simp [get?, hr, hc]

@[simp] lemma height_set (g : Grid α) (row col : Nat) (a : α) : (g.set row col a).height = g.height :=
  rfl

@[simp] lemma width_set (g : Grid α) (row col : Nat) (a : α) : (g.set row col a).width = g.width := rfl

/-- One cell is replaced, and all others stay. -/
lemma get?_set {g : Grid α} {row col row' col' : Nat} (hr : row < g.height) (hc : col < g.width)
    (hr' : row' < g.height) (hc' : col' < g.width) (a : α) :
    (g.set row col a).get? row' col' =
      if row' = row ∧ col' = col then some a else g.get? row' col' := by
  have hset : (g.set row col a).get? row' col' =
      (g.cells.setIfInBounds (row * g.width + col) a)[row' * g.width + col']? := by
    rw [get?_eq (by simpa using hr') (by simpa using hc')]
    rfl
  rw [hset, Vector.getElem?_setIfInBounds, get?_eq hr' hc', if_pos (index_lt hr hc)]
  by_cases h : row' = row ∧ col' = col
  · obtain ⟨rfl, rfl⟩ := h
    simp
  · have hne : row * g.width + col ≠ row' * g.width + col' := fun heq => by
      obtain ⟨rfl, rfl⟩ := index_inj hc hc' heq
      exact h ⟨rfl, rfl⟩
    rw [if_neg hne, if_neg h]

/-- Grids of one size with the same cells are the same. -/
theorem ext_get? {g g' : Grid α} (hheight : g.height = g'.height) (hwidth : g.width = g'.width)
    (h : ∀ row < g.height, ∀ col < g.width, g.get? row col = g'.get? row col) : g = g' := by
  obtain ⟨height, width, cells⟩ := g
  obtain ⟨height', width', cells'⟩ := g'
  obtain rfl : height = height' := hheight
  obtain rfl : width = width' := hwidth
  congr 1
  ext i hi
  obtain ⟨row, hr, col, hc, rfl⟩ := exists_index hi
  have hcell := h row hr col hc
  rw [get?_eq hr hc, get?_eq hr hc] at hcell
  simpa [hi] using hcell

lemma length_toList (g : Grid α) : g.toList.length = g.height * g.width := by
  simp [toList]

lemma toList_ne_nil {g : Grid α} (hheight : 0 < g.height) (hwidth : 0 < g.width) :
    g.toList ≠ [] := by
  refine List.ne_nil_of_length_pos ?_
  rw [length_toList]
  exact Nat.mul_pos hheight hwidth

end EscapeTime.Grid
