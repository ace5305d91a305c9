import EscapeTime.Proofs.Kernel.Discipline
import EscapeTime.Proofs.Plane.Orbit
import Mathlib.Logic.Function.Basic

namespace EscapeTime

/-!
# Checked once, safe in every buffer

A kernel may be put together from any instructions. The check goes through them once and reports the
first fault. A kernel without a fault has a defined effect on as many zeros as it has slots, and
zeros are what every run starts from, whatever buffer it is handed. So buffers may be passed on from
call to call and between evaluators of any size: no result shows what a buffer held before, and a
buffer holds in the end what its last user leaves in a fresh one.
-/

/-! ### Faults -/

/-- The first thing wrong with an instruction in a kernel of `n` slots: that its literal is no number,
or the first of its slots that does not exist. -/
def Instr.firstFault? (n : Nat) : Instr → Option KernelFault
  | literal text =>
    if (Decimal.readFloat? text.toList).isSome then none else some (.invalidLiteral text)
  | i => (i.slotIds.find? (n ≤ ·)).map .invalidSlot

/-- Nothing is wrong with an instruction whose literal is a number and whose slots exist. -/
lemma Instr.firstFault?_eq_none_iff {n : Nat} {i : Instr} :
    i.firstFault? n = none ↔
      (∀ text, i = .literal text → (Decimal.readFloat? text.toList).isSome) ∧
        ∀ id ∈ i.slotIds, id < n := by
  cases i with
  | literal text =>
    cases h : Decimal.readFloat? text.toList <;> simp [firstFault?, slotIds, operands, h]
  | _ => simp [firstFault?, slotIds, operands]

namespace Step

variable {n : Nat}

lemma checkSlot_of_lt {id : Nat} (h : id < n) : checkSlot n id = .ok ⟨id, h⟩ := dif_pos h

lemma checkSlot_of_le {id : Nat} (h : n ≤ id) : checkSlot n id = .error (.invalidSlot id) :=
  dif_neg (Nat.not_lt.2 h)

/-- The check of an instruction fails with its first fault, and only with that. -/
lemma firstFault?_eq (n : Nat) (i : Instr) :
    i.firstFault? n = match ofInstr n i with
      | .ok _ => none
      | .error fault => some fault := by
  cases i with
  | literal text => cases h : Decimal.readFloat? text.toList <;> simp [Instr.firstFault?, ofInstr, h]
  | symbol s => cases s <;> rfl
  | store slot coerce =>
    rcases Nat.lt_or_ge slot n with h | h
    · simp [Instr.firstFault?, Instr.slotIds, ofInstr, checkSlot_of_lt h, h]
    · simp [Instr.firstFault?, Instr.slotIds, ofInstr, checkSlot_of_le h, h]
  | binary op lhs rhs =>
    rcases Nat.lt_or_ge lhs n with hl | hl
    · rcases Nat.lt_or_ge rhs n with hr | hr
      · simp [Instr.firstFault?, Instr.slotIds, Instr.operands, ofInstr, checkSlot_of_lt hl,
          checkSlot_of_lt hr, hl, hr, bind, Except.bind, pure, Except.pure]
      · simp [Instr.firstFault?, Instr.slotIds, Instr.operands, ofInstr, checkSlot_of_lt hl,
          checkSlot_of_le hr, hl, hr, bind, Except.bind]
    · simp [Instr.firstFault?, Instr.slotIds, Instr.operands, ofInstr, checkSlot_of_le hl, hl,
        bind, Except.bind]
  | unary f arg =>
    rcases Nat.lt_or_ge arg n with h | h
    · simp [Instr.firstFault?, Instr.slotIds, Instr.operands, ofInstr, checkSlot_of_lt h, h]
    · simp [Instr.firstFault?, Instr.slotIds, Instr.operands, ofInstr, checkSlot_of_le h, h]

/-- The check of all instructions stops at the first that has a fault. -/
lemma mapM_eq_error_iff {is : List Instr} {fault : KernelFault} :
    is.mapM (ofInstr n) = .error fault ↔ is.findSome? (·.firstFault? n) = some fault := by
  induction is with
  | nil => simp [pure, Except.pure]
  | cons i is ih =>
    have hfirst := firstFault?_eq n i
    rw [List.mapM_cons, List.findSome?_cons, hfirst]
    -- a fault of the first instruction hides those behind it
    cases ofInstr n i with
    | error fault' => simp [bind, Except.bind]
    | ok s =>
      dsimp only
      rw [← ih]
      cases is.mapM (ofInstr n) <;> simp [bind, Except.bind, pure, Except.pure]

end Step

namespace Evaluator

lemma ofKernel_eq_ok_iff {k : Kernel} {ev : Evaluator} :
    ofKernel k = .ok ev ↔ ∃ steps, k.instructions.mapM (Step.ofInstr k.slotCount) = .ok steps ∧
      ⟨k.slotCount, steps⟩ = ev := by
  simp only [ofKernel, Step.bind_eq_ok, Step.pure_eq_ok]

lemma ofKernel_eq_error_iff {k : Kernel} {fault : KernelFault} :
    ofKernel k = .error fault ↔
      k.instructions.findSome? (·.firstFault? k.slotCount) = some fault := by
  rw [← Step.mapM_eq_error_iff, ofKernel]
  cases k.instructions.mapM (Step.ofInstr k.slotCount) <;> simp [bind, Except.bind, pure, Except.pure]

/-- A kernel passes the check just if no instruction has a fault. -/
lemma exists_ofKernel_iff {k : Kernel} :
    (∃ ev, ofKernel k = .ok ev) ↔ ∀ i ∈ k.instructions, i.firstFault? k.slotCount = none := by
  rw [← List.findSome?_eq_none_iff]
  cases h : ofKernel k with
  | error fault => simp [ofKernel_eq_error_iff.1 h]
  | ok ev =>
    simp only [Except.ok.injEq, exists_eq', true_iff]
    rw [Option.eq_none_iff_forall_ne_some]
    intro fault hfault
    rw [ofKernel_eq_error_iff.2 hfault] at h
    cases h

/-! ### Runs -/

/-- The instructions of a checked kernel, which may name any slot, have a defined effect on the zeros
that a run starts from, and the run has that effect. -/
lemma runAll?_of_ofKernel {k : Kernel} {ev : Evaluator} (h : ofKernel k = .ok ev) (p : Primitives)
    (buffer : Array Complex) (z c : Complex) :
    Instr.runAll? p (Symbol.value z c) ⟨.zero, (reset k.slotCount buffer).toList⟩ k.instructions =
      some ⟨ev.eval p z c, (ev.evalWith p buffer z c).2.toList⟩ := by
  obtain ⟨steps, hsteps, rfl⟩ := ofKernel_eq_ok_iff.1 h
  rw [← evalWith_fst buffer z c]
  exact Step.foldl_run_registers hsteps p z c ⟨.zero, reset k.slotCount buffer⟩

lemma size_evalWith (p : Primitives) (e : Evaluator) (buffer : Array Complex) (z c : Complex) :
    (e.evalWith p buffer z c).2.size = e.slotCount := by
  simp [evalWith]

end Evaluator

/-! ### Calls in shared buffers -/

/-- A call of an evaluator, which is handed one of several buffers. -/
structure Call where
  evaluator : Evaluator
  buffer : Nat
  z : Complex
  c : Complex

namespace Call

section

variable (p : Primitives)

/-- What the call leaves in a fresh buffer. -/
def leftover (call : Call) : Array Complex :=
  (call.evaluator.evalWith p call.evaluator.scratch call.z call.c).2

/-- The result of the call, and the buffers after it. -/
def run (buffers : Nat → Array Complex) (call : Call) : Complex × (Nat → Array Complex) :=
  let (value, buffer) := call.evaluator.evalWith p (buffers call.buffer) call.z call.c
  (value, Function.update buffers call.buffer buffer)

/-- The results of calls that are made one after the other, and the buffers after them. -/
def runAll (buffers : Nat → Array Complex) : List Call → List Complex × (Nat → Array Complex)
  | [] => ([], buffers)
  | call :: calls =>
    let (value, buffers) := call.run p buffers
    let (values, buffers) := runAll buffers calls
    (value :: values, buffers)

end

variable {p : Primitives} {buffers : Nat → Array Complex}

/-- A call gives the evaluator's value, leaves in its buffer what it leaves in a fresh one, and does
not touch the others. -/
lemma run_eq (call : Call) :
    call.run p buffers =
      (call.evaluator.eval p call.z call.c,
        Function.update buffers call.buffer (call.leftover p)) := by
  rw [run, Evaluator.evalWith_eq]
  rfl

lemma runAll_cons (call : Call) (calls : List Call) :
    runAll p buffers (call :: calls) =
      (call.evaluator.eval p call.z call.c ::
          (runAll p (Function.update buffers call.buffer (call.leftover p)) calls).1,
        (runAll p (Function.update buffers call.buffer (call.leftover p)) calls).2) := by
  rw [runAll, run_eq]

lemma runAll_fst (calls : List Call) :
    (runAll p buffers calls).1 = calls.map fun call => call.evaluator.eval p call.z call.c := by
  induction calls generalizing buffers with
  | nil => rfl
  | cons call calls ih => rw [runAll_cons, List.map_cons, ih]

lemma runAll_of_unused {calls : List Call} {b : Nat} (h : ∀ call ∈ calls, call.buffer ≠ b) :
    (runAll p buffers calls).2 b = buffers b := by
  induction calls generalizing buffers with
  | nil => rfl
  | cons call calls ih =>
    obtain ⟨hcall, hcalls⟩ := List.forall_mem_cons.1 h
    rw [runAll_cons, ih hcalls, Function.update_of_ne hcall.symm]

/-- In the end a buffer holds what the last call in it has left. -/
lemma runAll_of_last {before after : List Call} (call : Call)
    (h : ∀ later ∈ after, later.buffer ≠ call.buffer) :
    (runAll p buffers (before ++ call :: after)).2 call.buffer = call.leftover p := by
  induction before generalizing buffers with
  | nil => rw [List.nil_append, runAll_cons, runAll_of_unused h, Function.update_self]
  | cons first before ih =>
    -- what the first call leaves is one more state that the buffers may be in
    rw [List.cons_append, runAll_cons, ih]

end Call

namespace Evaluator

/-- **A checked kernel is safe in every buffer.** A kernel, however it was put together, is accepted
just if all its literals are numbers and all slots that it names exist; otherwise the first fault of
the first instruction that has one is reported. The instructions of an accepted kernel find every slot
that they name, whatever the buffer of the run held. Any calls of evaluators, in any buffers that are
handed on from one to the next, give the evaluators' values; a buffer in which no call was made stays
as it was, and any other holds in the end what its last call leaves in a fresh buffer of its size. -/
theorem ofKernel_safe (k : Kernel) :
    ((∃ ev, ofKernel k = .ok ev) ↔
      (∀ text, .literal text ∈ k.instructions → (Decimal.readFloat? text.toList).isSome) ∧
        ∀ i ∈ k.instructions, ∀ id ∈ i.slotIds, id < k.slotCount) ∧
    (∀ fault, ofKernel k = .error fault ↔ ∃ before i after,
      k.instructions = before ++ i :: after ∧ i.firstFault? k.slotCount = some fault ∧
        ∀ j ∈ before, j.firstFault? k.slotCount = none) ∧
    ∀ ev, ofKernel k = .ok ev → ev.slotCount = k.slotCount ∧ ∀ p : Primitives,
      (∀ (buffer : Array Complex) (z c : Complex),
        Instr.runAll? p (Symbol.value z c) ⟨.zero, (reset k.slotCount buffer).toList⟩
          k.instructions = some ⟨ev.eval p z c, (ev.evalWith p buffer z c).2.toList⟩) ∧
      ∀ (buffers : Nat → Array Complex) (calls : List Call),
        (Call.runAll p buffers calls).1 =
          calls.map (fun call => call.evaluator.eval p call.z call.c) ∧
        (∀ b, (∀ call ∈ calls, call.buffer ≠ b) →
          (Call.runAll p buffers calls).2 b = buffers b) ∧
        ∀ before b z c after, calls = before ++ ⟨ev, b, z, c⟩ :: after →
          (∀ later ∈ after, later.buffer ≠ b) →
            (Call.runAll p buffers calls).2 b = (ev.evalWith p ev.scratch z c).2 ∧
            ((Call.runAll p buffers calls).2 b).size = k.slotCount := by
  refine ⟨?_, fun fault => ?_, fun ev hev => ?_⟩
  · rw [exists_ofKernel_iff]
    simp only [Instr.firstFault?_eq_none_iff]
    constructor
    · intro h
      exact ⟨fun text htext => (h _ htext).1 text rfl, fun i hi => (h i hi).2⟩
    · rintro ⟨hliterals, hslots⟩ i hi
      refine ⟨fun text htext => hliterals text ?_, hslots i hi⟩
      rwa [← htext]
  · rw [ofKernel_eq_error_iff, List.findSome?_eq_some_iff]
  · have hcount : ev.slotCount = k.slotCount := by
      obtain ⟨steps, -, rfl⟩ := ofKernel_eq_ok_iff.1 hev
      rfl
    refine ⟨hcount, fun p => ⟨runAll?_of_ofKernel hev p, fun buffers calls => ?_⟩⟩
    refine ⟨Call.runAll_fst calls, fun b => Call.runAll_of_unused, ?_⟩
    rintro before b z c after rfl hlast
    have hleft : (Call.runAll p buffers (before ++ ⟨ev, b, z, c⟩ :: after)).2 b =
        (ev.evalWith p ev.scratch z c).2 :=
      Call.runAll_of_last ⟨ev, b, z, c⟩ hlast
    exact ⟨hleft, by rw [hleft, size_evalWith, hcount]⟩

/-- A kernel that reads a slot without having stored it, run in a buffer that an evaluator with five
slots was handed before; and one that names two slots that do not exist. -/
theorem ofKernel_safe_unstored :
    (∃ ev, ofKernel ⟨[⟨0, .left .add⟩, ⟨1, .right .add⟩],
        [.literal "2", .store 1 true, .binary .add 0 1]⟩ = .ok ev ∧
      ∀ (p : Primitives) (buffers : Nat → Array Complex) (z c : Complex),
        (Call.runAll p buffers [⟨⟨5, []⟩, 0, z, c⟩, ⟨ev, 0, z, c⟩]).1 = [.zero, ev.eval p z c] ∧
        ((Call.runAll p buffers [⟨⟨5, []⟩, 0, z, c⟩, ⟨ev, 0, z, c⟩]).2 0).size = 2) ∧
      ofKernel ⟨[⟨0, .left .mul⟩], [.symbol .iterate, .binary .mul 3 5]⟩ =
        .error (.invalidSlot 3) := by
  obtain ⟨haccepted, -, hsafe⟩ := ofKernel_safe ⟨[⟨0, .left .add⟩, ⟨1, .right .add⟩],
    [.literal "2", .store 1 true, .binary .add 0 1]⟩
  obtain ⟨-, hfault, -⟩ :=
    ofKernel_safe ⟨[⟨0, .left .mul⟩], [.symbol .iterate, .binary .mul 3 5]⟩
  refine ⟨?_, (hfault (.invalidSlot 3)).2 ⟨[.symbol .iterate], _, [], rfl, by decide, by decide⟩⟩
  obtain ⟨ev, hev⟩ := haccepted.2 ⟨fun text htext => by
    obtain rfl : text = "2" := by simpa using htext
    decide, by decide⟩
  refine ⟨ev, hev, fun p buffers z c => ?_⟩
  obtain ⟨hvalues, -, hlast⟩ := ((hsafe ev hev).2 p).2 buffers [⟨⟨5, []⟩, 0, z, c⟩, ⟨ev, 0, z, c⟩]
  exact ⟨hvalues, (hlast [_] 0 z c [] rfl (by simp)).2⟩

end Evaluator

end EscapeTime
