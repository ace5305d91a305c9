import EscapeTime.Kernel.Block
import EscapeTime.Proofs.Formula.Value

namespace EscapeTime

/-!
# What a block leaves behind

Instructions act on an output register and a list of slots; an instruction that names a slot that is
not there, or a literal that is no number, has no effect defined. The block of an expression is run
from any contents of the registers. It leaves the expression's value in the output register, and
the operands' values, in the order in which their slots were taken, in the slots from `next` on. All
other slots are left alone. This is what makes the blocks of two operands compose: the right one
cannot touch the slot that holds the left one's value.
-/

/-- The output register and the slots. -/
structure Registers where
  out : Complex
  slots : List Complex

variable (p : Primitives) (σ : Symbol → Complex)

/-- The effect of an instruction. -/
def Instr.run? (r : Registers) : Instr → Option Registers
  | literal text => (Decimal.readFloat? text.toList).map fun x => { r with out := .ofReal x }
  | symbol s => some { r with out := σ s }
  | store slot _ =>
    if slot < r.slots.length then some { r with slots := r.slots.set slot r.out } else none
  | binary op lhs rhs => do return { r with out := p.binary op (← r.slots[lhs]?) (← r.slots[rhs]?) }
  | unary f arg => do return { r with out := p.unary f (← r.slots[arg]?) }

/-- The effect of instructions one after the other. -/
def Instr.runAll? (r : Registers) (instructions : List Instr) : Option Registers :=
  instructions.foldlM (Instr.run? p σ) r

namespace Instr

variable {p σ}

lemma runAll?_append (r : Registers) (is js : List Instr) :
    runAll? p σ r (is ++ js) = (runAll? p σ r is).bind (runAll? p σ · js) := by
  simp [runAll?, List.foldlM_append]

lemma runAll?_cons (r : Registers) (i : Instr) (is : List Instr) :
    runAll? p σ r (i :: is) = (run? p σ r i).bind (runAll? p σ · is) := by
  simp [runAll?, List.foldlM_cons]

lemma runAll?_nil (r : Registers) : runAll? p σ r [] = some r := rfl

/-- A slot is told from the others by the number of slots before it. -/
lemma run?_store (o x : Complex) (before behind : List Complex) {slot : Nat} (coerce : Bool)
    (h : before.length = slot) :
    run? p σ ⟨o, before ++ x :: behind⟩ (.store slot coerce) = some ⟨o, before ++ o :: behind⟩ := by
  subst h
  simp [run?]

lemma run?_unary (o x : Complex) (before behind : List Complex) (f : Func) {arg : Nat}
    (h : before.length = arg) :
    run? p σ ⟨o, before ++ x :: behind⟩ (.unary f arg) =
      some ⟨p.unary f x, before ++ x :: behind⟩ := by
  subst h
  simp [run?]

lemma run?_binary (o x y : Complex) (before between behind : List Complex) (op : Operator)
    {lhs rhs : Nat} (hl : before.length = lhs) (hr : lhs + 1 + between.length = rhs) :
    run? p σ ⟨o, before ++ x :: (between ++ y :: behind)⟩ (.binary op lhs rhs) =
      some ⟨p.binary op x y, before ++ x :: (between ++ y :: behind)⟩ := by
  subst hl hr
  have hy : (before ++ x :: (between ++ y :: behind))[before.length + 1 + between.length]? =
      some y := by
    rw [List.getElem?_append_right (by omega),
      show before.length + 1 + between.length - before.length = between.length + 1 by omega]
    simp
  simp [run?, hy]

end Instr

namespace Block

/-- A block takes one slot for every operand, whatever the operands are worth. -/
lemma length_slots_ofExpr (next : Nat) (e : Expr) (o : Complex) :
    (ofExpr next e).slots.length = (e.operandsFrom p σ o).length := by
  induction e generalizing next o with
  | literal text => rfl
  | symbol s => rfl
  | raw text => rfl
  | binary op left right ihl ihr =>
    simp [ofExpr, Expr.operandsFrom, ihl (next + 1) o, ihr _ (left.valueFrom p σ o)]
  | call f operand ih => simp [ofExpr, Expr.operandsFrom, ih (next + 1) o]

/-- The slots of a binary operator's block: the left operand's slot, those of its block, the right
operand's slot, and those of its block. -/
lemma split_slots_binary {next : Nat} {op : Operator} {left right : Expr} {mid : List Complex}
    (hmid : mid.length = (ofExpr next (.binary op left right)).slots.length) :
    ∃ a ls b rs, mid = a :: ls ++ b :: rs ∧ ls.length = (ofExpr (next + 1) left).slots.length ∧
      rs.length =
        (ofExpr (next + 1 + (ofExpr (next + 1) left).slots.length + 1) right).slots.length := by
  simp only [ofExpr, List.length_cons, List.length_append] at hmid
  obtain ⟨a, mid, rfl⟩ := List.exists_cons_of_length_pos (by omega : 0 < mid.length)
  simp only [List.length_cons] at hmid
  set k := (ofExpr (next + 1) left).slots.length
  obtain ⟨b, rs, hrs⟩ :=
    List.exists_cons_of_length_pos (by simp; omega : 0 < (mid.drop k).length)
  refine ⟨a, mid.take k, b, rs, ?_, by simp; omega, ?_⟩
  · rw [← hrs, List.cons_append, List.take_append_drop]
  · have := congrArg List.length hrs
    simp only [List.length_drop, List.length_cons] at this
    omega

/-- **Simulation.** The block of a readable expression, run in registers that have its slots, has a
defined effect: the value goes to the output, the operands' values to the block's slots. -/
theorem runAll?_ofExpr {e : Expr} (h : e.Readable) (next : Nat) (o : Complex)
    (pre mid post : List Complex) (hpre : pre.length = next)
    (hmid : mid.length = (ofExpr next e).slots.length) :
    Instr.runAll? p σ ⟨o, pre ++ mid ++ post⟩ (ofExpr next e).instructions =
      some ⟨e.valueFrom p σ o, pre ++ e.operandsFrom p σ o ++ post⟩ := by
  induction e generalizing next o pre mid post with
  | literal text =>
    obtain ⟨x, hx⟩ := Expr.readable_literal h
    obtain rfl := List.length_eq_zero_iff.1 hmid
    simp [Instr.runAll?, ofExpr, Instr.run?, hx, Expr.valueFrom, Expr.operandsFrom,
      Expr.literalValue]
  | symbol s =>
    obtain rfl := List.length_eq_zero_iff.1 hmid
    simp [Instr.runAll?, ofExpr, Instr.run?, Expr.valueFrom, Expr.operandsFrom]
  | raw text =>
    obtain rfl := List.length_eq_zero_iff.1 hmid
    simp [Instr.runAll?, ofExpr, Expr.valueFrom, Expr.operandsFrom]
  | binary op left right ihl ihr =>
    obtain ⟨hl, hr⟩ := Expr.readable_binary.1 h
    obtain ⟨a, ls, b, rs, rfl, hls, hrs⟩ := split_slots_binary hmid
    have hlo := length_slots_ofExpr p σ (next + 1) left o
    have hleft := ihl hl (next + 1) o (pre ++ [a]) ls (b :: rs ++ post) (by simp [hpre]) hls
    -- the right block finds the left value and the left block's slots among those before its own
    have hright := ihr hr _ (left.valueFrom p σ o)
      (pre ++ left.valueFrom p σ o :: left.operandsFrom p σ o ++ [b]) rs post
      (by simp [hpre, hlo]; omega) hrs
    have hstore := Instr.run?_store (p := p) (σ := σ) (right.valueFrom p σ (left.valueFrom p σ o)) b
      (pre ++ left.valueFrom p σ o :: left.operandsFrom p σ o)
      (right.operandsFrom p σ (left.valueFrom p σ o) ++ post) true (by simp [hpre]; omega :
        _ = next + 1 + (left.operandsFrom p σ o).length)
    simp only [List.append_assoc, List.cons_append, List.nil_append, hlo] at hleft hright hstore ⊢
    simp only [ofExpr, hlo, List.append_assoc, List.cons_append, Instr.runAll?_append, hleft,
      Option.bind_some, Instr.runAll?_cons, Instr.run?_store _ _ _ _ _ hpre, hright, hstore,
      Instr.run?_binary _ _ _ _ _ _ op hpre rfl, Instr.runAll?_nil, Expr.valueFrom,
      Expr.operandsFrom]
  | call f operand ih =>
    obtain ⟨a, xs, rfl⟩ := List.exists_cons_of_length_pos (by simp [hmid, ofExpr] : 0 < mid.length)
    have hxs : xs.length = (ofExpr (next + 1) operand).slots.length := by
      simpa [ofExpr] using hmid
    have hx := ih (Expr.readable_call.1 h) (next + 1) o (pre ++ [a]) xs post (by simp [hpre]) hxs
    simp only [List.append_assoc, List.cons_append, List.nil_append] at hx ⊢
    simp only [ofExpr, Instr.runAll?_append, hx, Option.bind_some, Instr.runAll?_cons,
      Instr.run?_store _ _ _ _ _ hpre, Instr.run?_unary _ _ _ _ _ hpre, Instr.runAll?_nil,
      Expr.valueFrom, Expr.operandsFrom, List.cons_append]

end Block

/-- A whole kernel is a block with nothing before it and nothing after it. -/
theorem Kernel.runAll?_ofExpr {e : Expr} (h : e.Readable) {slots : List Complex}
    (hslots : slots.length = (Kernel.ofExpr e).slotCount) :
    Instr.runAll? p σ ⟨.zero, slots⟩ (Kernel.ofExpr e).instructions =
      some ⟨e.valueFrom p σ .zero, e.operandsFrom p σ .zero⟩ := by
  simpa [Kernel.ofExpr] using Block.runAll?_ofExpr p σ h 0 .zero [] slots [] rfl hslots

end EscapeTime
