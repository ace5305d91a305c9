import EscapeTime.Complex.Elementary
import EscapeTime.Decimal.Numeral
import EscapeTime.Kernel.Basic

namespace EscapeTime

/-!
# Running a kernel

A kernel is checked once: every literal must be a number, and every slot must exist. What remains
is a program that cannot go wrong, and its steps carry the proof. Each run starts from an output
register and slots that are all zero, so its result depends on the inputs alone.
-/

/-- What can be wrong with a kernel. -/
inductive KernelFault
  | invalidLiteral (text : String)
  | invalidSlot (id : Nat)
  deriving DecidableEq, Repr

/-- A checked instruction over `n` slots. -/
inductive Step (n : Nat)
  | load (value : Complex)
  | loadIterate
  | loadParameter
  | store (slot : Fin n)
  | binary (op : Operator) (lhs rhs : Fin n)
  | unary (f : Func) (arg : Fin n)

/-- A checked kernel. -/
structure Evaluator where
  slotCount : Nat
  steps : List (Step slotCount)

/-- What a running kernel holds: the output register and the slots. -/
structure Machine (n : Nat) where
  out : Complex
  slots : Vector Complex n

namespace Step

def checkSlot (n id : Nat) : Except KernelFault (Fin n) :=
  if h : id < n then .ok ⟨id, h⟩ else .error (.invalidSlot id)

/-- Checks an instruction; the left operand of an operator is checked before the right one. -/
def ofInstr (n : Nat) : Instr → Except KernelFault (Step n)
  | .literal text =>
    match Decimal.readFloat? text.toList with
    | some x => .ok (.load (.ofReal x))
    | none => .error (.invalidLiteral text)
  | .symbol .iterate => .ok .loadIterate
  | .symbol .parameter => .ok .loadParameter
  | .symbol .imagUnit => .ok (.load .unit)
  | .symbol .negImagUnit => .ok (.load (-.unit))
  | .store slot _ => return .store (← checkSlot n slot)
  | .binary op lhs rhs => return .binary op (← checkSlot n lhs) (← checkSlot n rhs)
  | .unary f arg => return .unary f (← checkSlot n arg)

/-- The effect of a step. -/
def run {n : Nat} (p : Primitives) (z c : Complex) (m : Machine n) : Step n → Machine n
  | load value => { m with out := value }
  | loadIterate => { m with out := z }
  | loadParameter => { m with out := c }
  | store slot => { m with slots := m.slots.set slot m.out }
  | binary op lhs rhs => { m with out := p.binary op m.slots[lhs] m.slots[rhs] }
  | unary f arg => { m with out := p.unary f m.slots[arg] }

end Step

namespace Evaluator

/-- Checks a kernel; the first instruction with a fault decides. -/
def ofKernel (k : Kernel) : Except KernelFault Evaluator :=
  return ⟨k.slotCount, ← k.instructions.mapM (Step.ofInstr k.slotCount)⟩

/-- Slots for one run. -/
def scratch (e : Evaluator) : Array Complex := Array.replicate e.slotCount .zero

/-- A buffer of any size and content made ready for a run: as many slots as needed, all zero. -/
def reset (n : Nat) (buffer : Array Complex) : Vector Complex n :=
  ⟨((buffer.take n).map fun _ => Complex.zero) ++ Array.replicate (n - buffer.size) .zero, by
    simp only [Array.take_eq_extract, Array.size_append, Array.size_map, Array.size_extract,
      Array.size_replicate]
    omega⟩

/-- Runs the kernel at `(z, c)` in the given buffer, with the given meaning of its primitives. -/
def runWith (p : Primitives) (e : Evaluator) (buffer : Array Complex) (z c : Complex) :
    Machine e.slotCount :=
  e.steps.foldl (Step.run p z c) ⟨.zero, reset e.slotCount buffer⟩

/-- The value at `(z, c)`, and the buffer after the run. -/
def evalWith (p : Primitives) (e : Evaluator) (buffer : Array Complex) (z c : Complex) :
    Complex × Array Complex :=
  let m := e.runWith p buffer z c
  (m.out, m.slots.toArray)

/-- The value at `(z, c)`. -/
def eval (p : Primitives) (e : Evaluator) (z c : Complex) : Complex :=
  (e.evalWith p e.scratch z c).1

end Evaluator

end EscapeTime
