import EscapeTime.Proofs.Kernel.Discipline
import Mathlib.Data.List.Basic

namespace EscapeTime

/-!
# What the text of a kernel tells of its formula

A raw leaf leaves no trace in a kernel but its absence, so its text is lost. Everything else can be
read back. The text falls into statements, the statements into instructions, and the instructions
into the blocks of the operands: the last instruction names the operator or the function, and the
slot of the left operand is stored just once, between the two blocks.
-/

/-- The expression without the texts of its raw leaves. -/
def Expr.blank : Expr → Expr
  | literal text => literal text
  | symbol s => symbol s
  | raw _ => raw ""
  | binary op left right => binary op left.blank right.blank
  | call f operand => call f operand.blank

namespace Block

/-! ### The texts of raw leaves are lost -/

lemma slots_ofExpr_blank (next : Nat) (e : Expr) :
    (ofExpr next e.blank).slots = (ofExpr next e).slots := by
  induction e generalizing next with
  | literal text => rfl
  | symbol s => rfl
  | raw text => rfl
  | binary op left right ihl ihr => simp only [Expr.blank, ofExpr, ihl, ihr]
  | call f operand ih => simp only [Expr.blank, ofExpr, ih]

lemma instructions_ofExpr_blank (next : Nat) (e : Expr) :
    (ofExpr next e.blank).instructions = (ofExpr next e).instructions := by
  induction e generalizing next with
  | literal text => rfl
  | symbol s => rfl
  | raw text => rfl
  | binary op left right ihl ihr => simp only [Expr.blank, ofExpr, slots_ofExpr_blank, ihl, ihr]
  | call f operand ih => simp only [Expr.blank, ofExpr, ih]

/-! ### From the instructions to the expression -/

/-- A block stores into none of the slots before its own. -/
lemma le_of_store_mem {next slot : Nat} {coerce : Bool} {e : Expr}
    (h : .store slot coerce ∈ (ofExpr next e).instructions) : next ≤ slot :=
  (mem_slotIds h (List.mem_singleton.2 rfl)).1

/-- The last instruction of an expression's block. -/
def last? (next : Nat) : Expr → Option Instr
  | .literal text => some (.literal text)
  | .symbol s => some (.symbol s)
  | .raw _ => none
  | .binary op left _ => some (.binary op next (next + 1 + (ofExpr (next + 1) left).slots.length))
  | .call f _ => some (.unary f next)

lemma getLast?_instructions (next : Nat) (e : Expr) :
    (ofExpr next e).instructions.getLast? = last? next e := by
  cases e with
  | binary op left right => simp only [ofExpr, List.getLast?_append]; rfl
  | call f operand => simp only [ofExpr, List.getLast?_append]; rfl
  | _ => rfl

/-- The left operand's block ends where its value is stored. -/
lemma instructions_binary_inj {next : Nat} {op : Operator} {left right left' right' : Expr}
    (h : (ofExpr next (.binary op left right)).instructions =
      (ofExpr next (.binary op left' right')).instructions)
    (hslots : (ofExpr (next + 1) left).slots.length = (ofExpr (next + 1) left').slots.length) :
    (ofExpr (next + 1) left).instructions = (ofExpr (next + 1) left').instructions ∧
      ∃ second, (ofExpr second right).instructions = (ofExpr second right').instructions := by
  simp only [ofExpr, hslots] at h
  have hparts := List.append_cancel_right h
  have hleft : .store next true ∉ (ofExpr (next + 1) left).instructions := fun hmem => by
    have := le_of_store_mem hmem
    omega
  have hright : .store next true ∉
      (ofExpr (next + 1 + (ofExpr (next + 1) left').slots.length + 1) right).instructions :=
    fun hmem => by
      have := le_of_store_mem hmem
      omega
  obtain ⟨hl, -, hr⟩ := (List.append_cons_inj_of_notMem hleft hright).1 hparts
  exact ⟨hl, _, hr⟩

/-- Blocks of equal instructions end in the same one. -/
lemma last?_eq {next : Nat} {e e' : Expr}
    (h : (ofExpr next e).instructions = (ofExpr next e').instructions) :
    last? next e = last? next e' := by
  rw [← getLast?_instructions, h, getLast?_instructions]

/-- The instructions of a block tell the expression but for the texts of its raw leaves. -/
theorem blank_eq_of_instructions_eq {next : Nat} {e e' : Expr}
    (h : (ofExpr next e).instructions = (ofExpr next e').instructions) : e.blank = e'.blank := by
  -- the last instructions are of one kind, and so are the expressions
  induction e generalizing next e' with
  | literal text =>
    have hlast := last?_eq h
    cases e' with
    | literal text' =>
      obtain rfl : text = text' := by simpa [last?] using hlast
      rfl
    | _ => simp [last?] at hlast
  | symbol s =>
    have hlast := last?_eq h
    cases e' with
    | symbol s' =>
      obtain rfl : s = s' := by simpa [last?] using hlast
      rfl
    | _ => simp [last?] at hlast
  | raw text =>
    have hlast := last?_eq h
    cases e' with
    | raw text' => rfl
    | _ => simp [last?] at hlast
  | binary op left right ihl ihr =>
    have hlast := last?_eq h
    cases e' with
    | binary op' left' right' =>
      simp only [last?, Option.some.injEq, Instr.binary.injEq, true_and] at hlast
      obtain ⟨rfl, hsecond⟩ := hlast
      obtain ⟨hl, second, hr⟩ := instructions_binary_inj h (Nat.add_left_cancel hsecond)
      rw [Expr.blank, ihl hl, ihr hr, Expr.blank]
    | _ => simp [last?] at hlast
  | call f operand ih =>
    have hlast := last?_eq h
    cases e' with
    | call f' operand' =>
      obtain rfl : f = f' := by simpa [last?] using hlast
      rw [Expr.blank, ih (List.append_cancel_right h), Expr.blank]
    | _ => simp [last?] at hlast

end Block

/-! ### From the statements to the instructions -/

lemma Operator.primitive_injective {op op' : Operator} (h : op.primitive = op'.primitive) :
    op = op' := by
  revert h
  cases op <;> cases op' <;> decide

lemma Func.primitive_injective {f f' : Func} (h : f.primitive = f'.primitive) : f = f' := by
  revert h
  cases f <;> cases f' <;> decide

lemma Symbol.sources_injective {s s' : Symbol} (h : s.sources = s'.sources) : s = s' := by
  revert h
  cases s <;> cases s' <;> decide

/-- A number with a plus sign is written for a literal only. -/
lemma Symbol.sources_ne_written (s : Symbol) (number : String) :
    s.sources.1 ≠ .written number true := by
  cases s <;> simp [sources]

namespace Instr

lemma statements_ne_nil (i : Instr) : i.statements ≠ [] := by
  cases i <;> simp [statements]

/-- The statements of an instruction are told from those that follow. -/
lemma statements_append_inj {i j : Instr} {ss ts : List Statement}
    (h : i.statements ++ ss = j.statements ++ ts) : i = j ∧ ss = ts := by
  cases i with
  | literal text =>
    cases j with
    | literal text' => simpa [statements] using h
    | symbol s =>
      simp only [statements, List.cons_append, List.cons.injEq, Statement.assign.injEq] at h
      exact absurd h.1.2.symm (s.sources_ne_written text)
    | _ => simp [statements] at h
  | symbol s =>
    cases j with
    | literal text =>
      simp only [statements, List.cons_append, List.cons.injEq, Statement.assign.injEq] at h
      exact absurd h.1.2 (s.sources_ne_written text)
    | symbol s' =>
      simp only [statements, List.cons_append, List.nil_append, List.cons.injEq,
        Statement.assign.injEq, true_and] at h
      obtain ⟨hre, him, hrest⟩ := h
      exact ⟨congrArg symbol (Symbol.sources_injective (Prod.ext hre him)), hrest⟩
    | _ => simp [statements] at h
  | store slot coerce =>
    cases j with
    | store slot' coerce' => simpa [statements] using h
    | _ => simp [statements] at h
  | binary op lhs rhs =>
    cases j with
    | binary op' lhs' rhs' =>
      simp only [statements, List.cons_append, List.nil_append, List.cons.injEq,
        Statement.call.injEq, Variable.slotRe.injEq] at h
      obtain ⟨⟨hop, hl, -, hr, -⟩, hrest⟩ := h
      exact ⟨by rw [Operator.primitive_injective hop, hl, hr], hrest⟩
    | _ => simp [statements] at h
  | unary f arg =>
    cases j with
    | unary f' arg' =>
      simp only [statements, List.cons_append, List.nil_append, List.cons.injEq,
        Statement.call.injEq, Variable.slotRe.injEq] at h
      obtain ⟨⟨hf, ha, -⟩, hrest⟩ := h
      exact ⟨by rw [Func.primitive_injective hf, ha], hrest⟩
    | _ => simp [statements] at h

theorem flatMap_statements_injective {is js : List Instr}
    (h : is.flatMap statements = js.flatMap statements) : is = js := by
  induction is generalizing js with
  | nil =>
    cases js with
    | nil => rfl
    | cons j js => simp [statements_ne_nil] at h
  | cons i is ih =>
    cases js with
    | nil => simp [statements_ne_nil] at h
    | cons j js =>
      rw [List.flatMap_cons, List.flatMap_cons] at h
      obtain ⟨rfl, hrest⟩ := statements_append_inj h
      rw [ih hrest]

end Instr

/-! ### From the text to the expression -/

/-- Whether the statement declares a variable. -/
def Statement.declares : Statement → Bool
  | declare _ => true
  | _ => false

namespace Kernel

/-- Without its declarations a kernel's text is that of its instructions. -/
lemma filter_statements (k : Kernel) :
    k.statements.filter (!·.declares) = inputStatements ++ k.instructions.flatMap Instr.statements := by
  have hslots : (k.slots.flatMap slotStatements).filter (!·.declares) = [] := by
    rw [List.filter_flatMap, List.flatMap_eq_nil_iff]
    exact fun _ _ => rfl
  have hinstr : ∀ i : Instr, i.statements.filter (!·.declares) = i.statements := fun i => by
    cases i <;> rfl
  simp only [statements, List.filter_append, hslots, List.append_nil, List.filter_flatMap, hinstr]
  rfl

lemma instructions_eq_of_statements_eq {k k' : Kernel} (h : k.statements = k'.statements) :
    k.instructions = k'.instructions := by
  have hfilter := congrArg (List.filter (!·.declares)) h
  rw [filter_statements, filter_statements] at hfilter
  exact Instr.flatMap_statements_injective (List.append_cancel_left hfilter)

/-- What is written for a formula is read back as its statements. -/
lemma read?_text_compile (source : String) :
    Script.read? (compile source).text = some (compile source).statements :=
  Script.read?_text fun _ h =>
    SyntaxTree.isNumeral_of_mem_literals (Block.mem_literals_of_mem_instructions h)

/-- **The text of a kernel is a lossless account of the expression.** Two formulas have the same
kernel text exactly when they stand for the same expression, the texts of raw leaves apart. -/
theorem text_compile_eq_iff (s t : String) :
    (compile s).text = (compile t).text ↔
      (Formula.parse s).blank = (Formula.parse t).blank := by
  constructor
  · intro h
    have hread := congrArg Script.read? h
    rw [read?_text_compile, read?_text_compile] at hread
    have hinstr := instructions_eq_of_statements_eq (Option.some.inj hread)
    exact Block.blank_eq_of_instructions_eq hinstr
  · intro h
    have hkernel : ∀ e : Expr, ofExpr e.blank = ofExpr e := fun e => by
      simp only [ofExpr, Block.slots_ofExpr_blank, Block.instructions_ofExpr_blank]
    rw [compile, compile, ← hkernel, h, hkernel]

end Kernel

end EscapeTime
