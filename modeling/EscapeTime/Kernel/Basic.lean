import EscapeTime.Formula.Vocabulary

namespace EscapeTime

/-!
# Kernels

A kernel is a flat program for one step of an iteration. Every instruction leaves its result in one
output register; an operand that has to wait is stored in a slot of its own.
-/

/-- What a slot holds: an operand of an operator, or the argument of a function. -/
inductive SlotRole
  | left (op : Operator)
  | right (op : Operator)
  | argument (f : Func)
  deriving DecidableEq, Repr, Inhabited

structure Slot where
  id : Nat
  role : SlotRole
  deriving DecidableEq, Repr, Inhabited

inductive Instr
  /-- Puts a real number into the output register. -/
  | literal (text : String)
  /-- Puts the value of a symbol into the output register. -/
  | symbol (symbol : Symbol)
  /-- Copies the output register into a slot; `coerce` marks the copy as a number in the text. -/
  | store (slot : Nat) (coerce : Bool)
  | binary (op : Operator) (lhs rhs : Nat)
  | unary (f : Func) (arg : Nat)
  deriving DecidableEq, Repr, Inhabited

/-- The primitive that the instruction calls. -/
def Instr.primitive? : Instr → Option String
  | binary op _ _ => some op.primitive
  | unary f _ => some f.primitive
  | _ => none

structure Kernel where
  slots : List Slot
  instructions : List Instr
  deriving DecidableEq, Repr, Inhabited

namespace Kernel

def slotCount (k : Kernel) : Nat := k.slots.length

/-- The primitives that the kernel calls, in order. -/
def calls (k : Kernel) : List String := k.instructions.filterMap Instr.primitive?

end Kernel

end EscapeTime
