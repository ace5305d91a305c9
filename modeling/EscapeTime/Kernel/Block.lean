import EscapeTime.Formula.Expr
import EscapeTime.Kernel.Basic

namespace EscapeTime

/-!
# The kernel of an expression

The expression is laid out operand by operand. A binary operator takes a slot for its left operand
before that operand is laid out, and one for its right operand after. A raw leaf yields no
instruction, so that whatever the output register holds stands in for it; its text is noted.
-/

/-- A stretch of a kernel: the slots and instructions it adds, and the raw leaves it passed over. -/
structure Block where
  slots : List Slot
  instructions : List Instr
  skipped : List String
  deriving DecidableEq, Repr, Inhabited

namespace Block

/-- The block of an expression, whose first slot has the number `next`. -/
def ofExpr (next : Nat) : Expr → Block
  | .literal text => ⟨[], [.literal text], []⟩
  | .symbol s => ⟨[], [.symbol s], []⟩
  | .raw text => ⟨[], [], [text]⟩
  | .binary op left right =>
    let l := ofExpr (next + 1) left
    let second := next + 1 + l.slots.length
    let r := ofExpr (second + 1) right
    { slots := ⟨next, .left op⟩ :: l.slots ++ ⟨second, .right op⟩ :: r.slots
      instructions :=
        l.instructions ++ .store next true
          :: r.instructions ++ [.store second true, .binary op next second]
      skipped := l.skipped ++ r.skipped }
  | .call f operand =>
    let x := ofExpr (next + 1) operand
    { slots := ⟨next, .argument f⟩ :: x.slots
      instructions := x.instructions ++ [.store next false, .unary f next]
      skipped := x.skipped }

end Block

/-- The kernel that computes an expression. -/
def Kernel.ofExpr (e : Expr) : Kernel :=
  let block := Block.ofExpr 0 e
  ⟨block.slots, block.instructions⟩

end EscapeTime
