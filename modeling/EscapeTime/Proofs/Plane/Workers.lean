import EscapeTime.Plane.Engine
import EscapeTime.Proofs.Plane.Grid
import EscapeTime.Proofs.Plane.Orbit
import Mathlib.Data.List.Nodup
import Mathlib.Data.List.ProdSigma
import Mathlib.Data.List.Range

namespace EscapeTime

/-!
# Workers that fill a grid side by side

Every worker has a job and a buffer, and writes the cells of its chunk one after the other. In
between, other workers may write theirs; nothing is said about who comes next. The writes that are
still to come, of all workers together, are known beforehand: one for each cell of the grid. A step
takes one of them off and applies it. So however the steps of the workers fall, each cell is written
once, and the grid is in the end the one that a single worker would have filled.
-/

/-! ### Dealing out the rows -/

namespace Chunk

/-- The rows of a chunk. -/
def rows (chunk : Chunk) : List Nat := List.range' chunk.first chunk.count

/-- Chunks that are dealt out take up the rows one after the other, none left out and none twice. -/
lemma flatMap_rows_deal {size : Nat} (hsize : 0 < size) (first rows : Nat) :
    (deal size first rows).flatMap Chunk.rows = List.range' first rows := by
  fun_induction deal size first rows with
  | case1 first rows h =>
    obtain rfl : rows = 0 := by omega
    rfl
  | case2 first rows h ih =>
    rw [List.flatMap_cons, ih, Chunk.rows]
    rcases Nat.le_total rows size with hle | hle
    · rw [Nat.min_eq_right hle, Nat.sub_eq_zero_of_le hle, List.range'_zero, List.append_nil]
    · rw [Nat.min_eq_left hle, List.range'_append_1, Nat.add_sub_cancel' hle]

/-- The `i`-th chunk that is dealt out starts `i` full chunks below the first. -/
lemma first_of_getElem?_deal {size first rows i : Nat} {chunk : Chunk}
    (h : (deal size first rows)[i]? = some chunk) : chunk.first = first + i * size := by
  fun_induction deal size first rows generalizing i with
  | case1 first rows hnone => simp at h
  | case2 first rows hsome ih =>
    cases i with
    | zero =>
      obtain rfl : _ = chunk := by simpa using h
      simp
    | succ i =>
      rw [ih (by simpa using h)]
      ring

end Chunk

namespace Engine

/-- Every worker takes the first row of its chunk for what it is. -/
lemma jobs_eq (height workers : Nat) :
    jobs height workers =
      (Chunk.deal ((height + workers - 1) / workers) 0 height).map fun chunk =>
        ⟨chunk, chunk.first⟩ := by
  refine List.ext_getElem? fun i => ?_
  rw [jobs, List.getElem?_mapIdx, List.getElem?_map]
  refine Option.map_congr fun chunk h => ?_
  rw [Chunk.first_of_getElem?_deal h, Nat.zero_add]

/-! ### What is written -/

section

variable (p : Primitives) (e : Evaluator) (c : Engine)

/-- The escape count of a pixel. Its point is the parameter of an orbit from zero, or the start of an
orbit with a fixed parameter. -/
def count (row col : Nat) : UInt32 :=
  let point := c.viewport.point row col c.width c.height
  match c.mode with
  | .mandelbrot => e.escapeCount p e.scratch .zero point c.maxIterations c.escapeRadius
  | .julia parameter => e.escapeCount p e.scratch point parameter c.maxIterations c.escapeRadius

/-- What is to be written into the cells of a row. -/
def rowWrites (row : Nat) : List Write :=
  (List.range c.width).map fun col => ⟨row, col, c.count p e row col⟩

/-- What is to be written into all cells, row by row. -/
def gridWrites : List Write := (List.range c.height).flatMap (c.rowWrites p e)

/-- What is written for a cell of a job. -/
def write (job : Job) (cell : Nat × Nat) : Write :=
  ⟨job.chunk.first + cell.1, cell.2, c.count p e (job.firstRow + cell.1) cell.2⟩

/-- What is written for a job. -/
def jobWrites (job : Job) : List Write := (job.chunk.cells c.width).map (c.write p e job)

end

section

variable {p : Primitives} {e : Evaluator} {c : Engine}

/-- A cell that is computed in a used buffer has the count that it has in a fresh one. -/
lemma work_fst (job : Job) (buffer : Array Complex) (cell : Nat × Nat) :
    (c.work p e job buffer cell).1 = c.write p e job cell := by
  have hpixel : ∀ row col, (c.pixel p e buffer row col).1 = c.count p e row col := by
    intro row col
    rw [pixel, count]
    cases c.mode <;> exact Evaluator.escapeWith_fst buffer _ _ _ _
  rw [work, write, ← hpixel]

/-- A job whose first row is taken for what it is fills the rows of its chunk. -/
lemma jobWrites_eq (chunk : Chunk) :
    c.jobWrites p e ⟨chunk, chunk.first⟩ = chunk.rows.flatMap (c.rowWrites p e) := by
  simp only [jobWrites, Chunk.cells, Chunk.rows, List.map_flatMap, List.map_map,
    List.range'_eq_map_range, List.flatMap_map]
  rfl

/-- The jobs together fill the grid. -/
lemma flatMap_jobWrites {workers : Nat} (hworkers : 0 < workers) (hle : workers ≤ c.height) :
    (jobs c.height workers).flatMap (c.jobWrites p e) = c.gridWrites p e := by
  have hsize : 0 < (c.height + workers - 1) / workers := Nat.div_pos (by omega) hworkers
  calc
    (jobs c.height workers).flatMap (c.jobWrites p e) =
        (Chunk.deal ((c.height + workers - 1) / workers) 0 c.height).flatMap fun chunk =>
          chunk.rows.flatMap (c.rowWrites p e) := by
      simp only [jobs_eq, List.flatMap_map, jobWrites_eq]
    _ = (List.range' 0 c.height).flatMap (c.rowWrites p e) := by
      rw [← Chunk.flatMap_rows_deal hsize, List.flatMap_assoc]
    _ = c.gridWrites p e := by
      rw [gridWrites, List.range_eq_range']

lemma mem_gridWrites {w : Write} :
    w ∈ c.gridWrites p e ↔
      w.row < c.height ∧ w.col < c.width ∧ w.count = c.count p e w.row w.col := by
  simp only [gridWrites, rowWrites, List.mem_flatMap, List.mem_map, List.mem_range]
  constructor
  · rintro ⟨row, hrow, col, hcol, rfl⟩
    exact ⟨hrow, hcol, rfl⟩
  · rintro ⟨hrow, hcol, hcount⟩
    exact ⟨w.row, hrow, w.col, hcol, by rw [← hcount]⟩

end

end Engine

/-! ### Writing -/

namespace Write

/-- The cell that is written. -/
def cell (w : Write) : Nat × Nat := (w.row, w.col)

lemma foldl_apply_size (ws : List Write) (g : Grid UInt32) :
    (ws.foldl apply g).height = g.height ∧ (ws.foldl apply g).width = g.width := by
  induction ws generalizing g with
  | nil => exact ⟨rfl, rfl⟩
  | cons w ws ih => exact ih (w.apply g)

/-- Where all writes agree with `f`, a cell that is written or was right before is right after. -/
lemma get?_foldl_apply {f : Nat → Nat → UInt32} {ws : List Write} {g : Grid UInt32}
    (hws : ∀ w ∈ ws, w.row < g.height ∧ w.col < g.width ∧ w.count = f w.row w.col) {row col : Nat}
    (hrow : row < g.height) (hcol : col < g.width)
    (h : g.get? row col = some (f row col) ∨ (row, col) ∈ ws.map cell) :
    (ws.foldl apply g).get? row col = some (f row col) := by
  induction ws generalizing g with
  | nil => simpa using h
  | cons w ws ih =>
    obtain ⟨⟨hr, hc, hcount⟩, hws⟩ := List.forall_mem_cons.1 hws
    have hget := Grid.get?_set hr hc hrow hcol w.count
    refine ih hws hrow hcol ?_
    by_cases hw : row = w.row ∧ col = w.col
    · obtain ⟨rfl, rfl⟩ := hw
      exact .inl (hget.trans (by simp [hcount]))
    · rw [if_neg hw] at hget
      refine h.imp hget.trans fun hmem => ?_
      rw [List.map_cons, List.mem_cons] at hmem
      exact hmem.resolve_left fun heq => hw (Prod.mk.inj heq)

end Write

namespace Engine

variable {p : Primitives} {e : Evaluator} {c : Engine}

/-- Every cell is written once and with its count, and nothing else is written. -/
structure FillsOnce (p : Primitives) (e : Evaluator) (c : Engine) (ws : List Write) : Prop where
  once : ∀ row < c.height, ∀ col < c.width, (ws.map Write.cell).count (row, col) = 1
  right : ∀ w ∈ ws, w.row < c.height ∧ w.col < c.width ∧ w.count = c.count p e w.row w.col

lemma map_cell_gridWrites :
    (c.gridWrites p e).map Write.cell = List.range c.height ×ˢ List.range c.width := by
  simp only [gridWrites, rowWrites, List.map_flatMap, List.map_map]
  rfl

/-- The writes of the grid fill it in any order. -/
lemma fillsOnce_of_perm {ws : List Write} (h : ws.Perm (c.gridWrites p e)) : c.FillsOnce p e ws where
  once row hrow col hcol := by
    rw [(h.map Write.cell).count_eq, map_cell_gridWrites]
    exact List.count_eq_one_of_mem (List.nodup_range.product List.nodup_range)
      (List.mem_product.2 ⟨List.mem_range.2 hrow, List.mem_range.2 hcol⟩)
  right w hw := mem_gridWrites.1 (h.mem_iff.1 hw)

/-- The grid has the size of the picture, and every cell holds its count. -/
structure Counts (p : Primitives) (e : Evaluator) (c : Engine) (g : Grid UInt32) : Prop where
  height : g.height = c.height
  width : g.width = c.width
  cells : ∀ row < c.height, ∀ col < c.width, g.get? row col = some (c.count p e row col)

lemma Counts.unique {g g' : Grid UInt32} (h : c.Counts p e g) (h' : c.Counts p e g') : g = g' := by
  refine Grid.ext_get? (h.height.trans h'.height.symm) (h.width.trans h'.width.symm) ?_
  intro row hrow col hcol
  rw [h.height] at hrow
  rw [h.width] at hcol
  rw [h.cells row hrow col hcol, h'.cells row hrow col hcol]

/-- Whatever fills the grid leaves each cell with its count. -/
lemma FillsOnce.counts {ws : List Write} (h : c.FillsOnce p e ws) :
    c.Counts p e (ws.foldl Write.apply (.replicate c.height c.width 0)) := by
  obtain ⟨hheight, hwidth⟩ := Write.foldl_apply_size ws (.replicate c.height c.width 0)
  refine ⟨hheight, hwidth, fun row hrow col hcol => ?_⟩
  have hmem : (row, col) ∈ ws.map Write.cell :=
    List.count_pos_iff.1 (by rw [h.once row hrow col hcol]; exact Nat.one_pos)
  exact Write.get?_foldl_apply h.right hrow hcol (.inr hmem)

end Engine

/-! ### The steps of the workers -/

/-- A worker: its job, the cells that it has still to write, and its buffer. -/
structure Worker where
  job : Job
  cells : List (Nat × Nat)
  buffer : Array Complex

/-- The workers, and the grid they share. -/
structure Crew where
  workers : List Worker
  grid : Grid UInt32

namespace Crew

/-- One worker for each job, none of whom has written anything. -/
def start (e : Evaluator) (c : Engine) (jobs : List Job) : Crew where
  workers := jobs.map fun job => ⟨job, job.chunk.cells c.width, e.scratch⟩
  grid := .replicate c.height c.width 0

def Finished (s : Crew) : Prop := ∀ w ∈ s.workers, w.cells = []

section

variable (p : Primitives) (e : Evaluator) (c : Engine)

/-- Any one of the workers writes its next cell. -/
inductive Step : Crew → Write → Crew → Prop
  | mk (before after : List Worker) (job : Job) (cell : Nat × Nat) (cells : List (Nat × Nat))
    (buffer : Array Complex) (grid : Grid UInt32) :
    Step ⟨before ++ ⟨job, cell :: cells, buffer⟩ :: after, grid⟩ (c.work p e job buffer cell).1
      ⟨before ++ ⟨job, cells, (c.work p e job buffer cell).2⟩ :: after,
        (c.work p e job buffer cell).1.apply grid⟩

/-- Steps one after the other, with what they write. -/
inductive Runs : Crew → List Write → Crew → Prop
  | refl (s : Crew) : Runs s [] s
  | step {s s' s'' : Crew} {w : Write} {ws : List Write} (h : Step p e c s w s')
    (hs : Runs s' ws s'') : Runs s (w :: ws) s''

/-- What is still to be written. -/
def pending (s : Crew) : List Write := s.workers.flatMap fun w => w.cells.map (c.write p e w.job)

end

variable {p : Primitives} {e : Evaluator} {c : Engine} {s s' : Crew} {w : Write} {ws : List Write}

lemma Step.grid_eq (h : Step p e c s w s') : s'.grid = w.apply s.grid := by
  cases h
  rfl

/-- A step takes one write off those to come. -/
lemma Step.pending_perm (h : Step p e c s w s') :
    (s.pending p e c).Perm (w :: s'.pending p e c) := by
  cases h with
  | mk before after job cell cells buffer grid =>
    simp only [pending, List.flatMap_append, List.flatMap_cons, List.map_cons, List.cons_append,
      Engine.work_fst]
    exact List.perm_middle

lemma Runs.trans {s'' : Crew} {ws' : List Write} (h : Runs p e c s ws s')
    (h' : Runs p e c s' ws' s'') : Runs p e c s (ws ++ ws') s'' := by
  induction h with
  | refl s => exact h'
  | step hstep _ ih => exact .step hstep (ih h')

lemma Runs.grid_eq (h : Runs p e c s ws s') : s'.grid = ws.foldl Write.apply s.grid := by
  induction h with
  | refl s => rfl
  | step hstep _ ih => rw [ih, hstep.grid_eq, List.foldl_cons]

lemma Runs.pending_perm (h : Runs p e c s ws s') :
    (s.pending p e c).Perm (ws ++ s'.pending p e c) := by
  induction h with
  | refl s => exact .refl _
  | step hstep _ ih => exact hstep.pending_perm.trans (ih.cons _)

lemma Finished.pending_eq_nil (h : s.Finished) : s.pending p e c = [] := by
  rw [pending, List.flatMap_eq_nil_iff]
  intro w hw
  rw [h w hw, List.map_nil]

/-- No crew waits for ever: as long as there is something to write, someone can write it. -/
lemma exists_step (h : ¬ s.Finished) : ∃ w s', Step p e c s w s' := by
  obtain ⟨workers, grid⟩ := s
  simp only [Finished, not_forall] at h
  obtain ⟨⟨job, cells, buffer⟩, hw, hcells⟩ := h
  obtain ⟨cell, cells, rfl⟩ := List.exists_cons_of_ne_nil hcells
  obtain ⟨before, after, rfl⟩ := List.append_of_mem hw
  exact ⟨_, _, .mk before after job cell cells buffer grid⟩

lemma pending_start (jobs : List Job) :
    (start e c jobs).pending p e c = jobs.flatMap (c.jobWrites p e) := by
  simp only [pending, start, List.flatMap_map]
  rfl

/-- However the steps fall, a finished crew has filled the grid. -/
theorem Runs.fillsOnce {workers : Nat} (hworkers : 0 < workers) (hle : workers ≤ c.height)
    {order : List Job} (horder : order.Perm (Engine.jobs c.height workers))
    (h : Runs p e c (start e c order) ws s) (hs : s.Finished) : c.FillsOnce p e ws := by
  apply Engine.fillsOnce_of_perm
  have hpending := h.pending_perm
  rw [hs.pending_eq_nil, List.append_nil, pending_start] at hpending
  rw [← Engine.flatMap_jobWrites hworkers hle]
  exact hpending.symm.trans (horder.flatMap_right _)

/-! ### One job after the other -/

/-- A worker that is left alone writes all its cells. -/
lemma exists_runs_cells (before after : List Worker) (job : Job) (cells : List (Nat × Nat))
    (buffer : Array Complex) (grid : Grid UInt32) :
    ∃ ws buffer', Runs p e c ⟨before ++ ⟨job, cells, buffer⟩ :: after, grid⟩ ws
      ⟨before ++ ⟨job, [], buffer'⟩ :: after,
        (cells.foldl (fun (g, buffer) cell =>
          let (write, buffer) := c.work p e job buffer cell
          (write.apply g, buffer)) (grid, buffer)).1⟩ := by
  induction cells generalizing buffer grid with
  | nil => exact ⟨[], buffer, .refl _⟩
  | cons cell cells ih =>
    obtain ⟨ws, buffer', hws⟩ := ih (c.work p e job buffer cell).2
      ((c.work p e job buffer cell).1.apply grid)
    exact ⟨_, buffer', .step (.mk before after job cell cells buffer grid) hws⟩

/-- The workers of `order` go to work one after the other, behind workers that are done. -/
lemma exists_runs_jobs (order : List Job) (before : List Worker) (grid : Grid UInt32)
    (hbefore : ∀ w ∈ before, w.cells = []) :
    ∃ ws s, Runs p e c ⟨before ++ (start e c order).workers, grid⟩ ws s ∧ s.Finished ∧
      s.grid = order.foldl (c.perform p e) grid := by
  induction order generalizing before grid with
  | nil => exact ⟨[], _, .refl _, by simpa [Finished, start] using hbefore, rfl⟩
  | cons job order ih =>
    obtain ⟨ws, buffer, hfirst⟩ := exists_runs_cells before (start e c order).workers job
      (job.chunk.cells c.width) e.scratch grid
    obtain ⟨ws', s, hrest, hs, hgrid⟩ := ih (before ++ [⟨job, [], buffer⟩])
      (c.perform p e grid job) (by simpa [or_imp, forall_and] using hbefore)
    rw [List.append_assoc, List.singleton_append] at hrest
    exact ⟨ws ++ ws', s, hfirst.trans hrest, hs, hgrid⟩

/-- To do the jobs one after the other is one way for the steps to fall. -/
theorem exists_runs_fillGrid (order : List Job) :
    ∃ ws s, Runs p e c (start e c order) ws s ∧ s.Finished ∧ s.grid = c.fillGrid p e order :=
  exists_runs_jobs order [] _ (by simp)

end Crew

namespace Engine

variable {p : Primitives} {e : Evaluator} {c : Engine}

/-- Jobs that are done one after the other, in any order, leave each cell with its count. -/
lemma counts_fillGrid {n : Nat} (hn : 1 ≤ n) (hheight : 0 < c.height) {order : List Job}
    (horder : order.Perm (jobs c.height (min n c.height))) : c.Counts p e (c.fillGrid p e order) := by
  obtain ⟨ws, s, hruns, hs, hgrid⟩ := Crew.exists_runs_fillGrid (p := p) (e := e) (c := c) order
  have hfills := hruns.fillsOnce (by omega) (Nat.min_le_right n c.height) horder hs
  rw [← hgrid, hruns.grid_eq]
  exact hfills.counts

/-- At least one worker is taken, and none without a row. -/
lemma exists_workers_eq (offered : Nat) (c : Engine) :
    ∃ n, 1 ≤ n ∧ c.workers offered = min n c.height := by
  unfold workers
  split
  · exact ⟨max offered 1, Nat.le_max_right offered 1, rfl⟩
  · exact ⟨c.threads, by omega, rfl⟩

/-- A grid that is not empty is filled with the counts, however many workers are offered. -/
lemma exists_escapeCountsOn (c : Engine) (hwidth : 0 < c.width) (hheight : 0 < c.height)
    (offered : Nat) : ∃ g, c.escapeCountsOn p e offered = .ok g ∧ c.Counts p e g := by
  obtain ⟨n, hn, hworkers⟩ := exists_workers_eq offered c
  refine ⟨c.fillGrid p e (jobs c.height (min n c.height)), ?_,
    counts_fillGrid hn hheight (.refl _)⟩
  rw [escapeCountsOn, if_neg (by simp; omega), hworkers]

/-- **The grid is the same for every number of workers and every order of their steps.** Each cell
holds the escape count of its pixel. The settings of the threads and the number of workers offered
do not matter; nor does it matter for any number of workers in which order the jobs are done, or how
the steps of workers that go on side by side fall: whoever waits, someone can go on until all have
finished, and by then each cell has been written once, and with its count. -/
theorem escapeCounts_any_schedule (p : Primitives) (e : Evaluator) (c : Engine)
    (hwidth : 0 < c.width) (hheight : 0 < c.height) :
    ∃ g, c.Counts p e g ∧
      (∀ offered threads, escapeCountsOn p e { c with threads := threads } offered = .ok g) ∧
      ∀ n, 1 ≤ n → ∀ order : List Job, order.Perm (jobs c.height (min n c.height)) →
        c.fillGrid p e order = g ∧
          ∀ ws s, Crew.Runs p e c (.start e c order) ws s →
            (s.Finished → s.grid = g ∧ c.FillsOnce p e ws) ∧
            (¬ s.Finished → ∃ w s', Crew.Step p e c s w s') := by
  have hserial : c.Counts p e (c.fillGrid p e (jobs c.height (min 1 c.height))) :=
    counts_fillGrid le_rfl hheight (.refl _)
  refine ⟨_, hserial, ?_, ?_⟩
  · intro offered threads
    obtain ⟨g, hg, hcounts⟩ :=
      exists_escapeCountsOn { c with threads := threads } hwidth hheight offered
    -- the threads show in no count
    have hsame : c.Counts p e g := ⟨hcounts.height, hcounts.width, hcounts.cells⟩
    rw [hg, hsame.unique hserial]
  · intro n hn order horder
    refine ⟨(counts_fillGrid hn hheight horder).unique hserial, fun ws s hruns => ?_⟩
    refine ⟨fun hs => ?_, Crew.exists_step⟩
    have hfills := hruns.fillsOnce (by omega) (Nat.min_le_right n c.height) horder hs
    refine ⟨?_, hfills⟩
    rw [hruns.grid_eq]
    exact hfills.counts.unique hserial

/-- Five rows for two workers: the lower two may be filled before the upper three. -/
theorem escapeCounts_lower_rows_first :
    ∃ g, Counts .standard ⟨0, [.loadParameter]⟩ ⟨4, 5, 10, 2.0, .mandelbrot, .standard, 2⟩ g ∧
      escapeCounts .standard ⟨0, [.loadParameter]⟩ ⟨4, 5, 10, 2.0, .mandelbrot, .standard, 2⟩ =
        .ok g ∧
      fillGrid .standard ⟨0, [.loadParameter]⟩ ⟨4, 5, 10, 2.0, .mandelbrot, .standard, 2⟩
        [⟨⟨3, 2⟩, 3⟩, ⟨⟨0, 3⟩, 0⟩] = g := by
  obtain ⟨g, hg, hthreads, horders⟩ := escapeCounts_any_schedule .standard ⟨0, [.loadParameter]⟩
    ⟨4, 5, 10, 2.0, .mandelbrot, .standard, 2⟩ (by decide) (by decide)
  have hjobs : jobs 5 (min 2 5) = [⟨⟨0, 3⟩, 0⟩, ⟨⟨3, 2⟩, 3⟩] := by simp [jobs, Chunk.deal]
  exact ⟨g, hg, hthreads 1 2, (horders 2 (by decide) _ (hjobs ▸ .swap _ _ _)).1⟩

end Engine

end EscapeTime
