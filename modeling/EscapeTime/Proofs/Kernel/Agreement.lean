import EscapeTime.Kernel.Compile
import EscapeTime.Proofs.Kernel.Script
import EscapeTime.Proofs.Kernel.Simulation
import Mathlib.Logic.Function.Basic

namespace EscapeTime

/-!
# The text of a kernel against its evaluator

A script is run on variables that hold numbers. The text of a kernel, run line by line, does to the
variables what the instructions do to the registers, with one difference: the imaginary unit with a
minus is written with a real part of `0.0`, while the evaluator negates the unit as a whole and so
loads `-0.0`. The text and the evaluator agree, whatever the primitives do, exactly on the formulas
in which that symbol does not occur.
-/

/-! ### Running a script -/

/-- What the variables hold. A slot holds nothing before it is declared. -/
abbrev Env := Variable → Option Float

def Source.value? (env : Env) : Source → Option Float
  | named v _ => env v
  | written number _ => Decimal.readFloat? number.toList

/-- The primitive of the given name, called with the parts of its arguments. -/
def Primitives.called (p : Primitives) (name : String) : List Float → Option Complex
  | [a, b, c, d] =>
    (Operator.all.find? (·.primitive == name)).map fun op => p.binary op ⟨a, b⟩ ⟨c, d⟩
  | [a, b] => (Func.all.find? (·.primitive == name)).map fun f => p.unary f ⟨a, b⟩
  | _ => none

/-- The effect of a statement; only what has been declared can be assigned. -/
def Statement.run? (p : Primitives) (env : Env) : Statement → Option Env
  | assign target source => do
    let _ ← env target
    return Function.update env target (some (← source.value? env))
  | declare target => do
    return Function.update env target (some (← (Source.written "0.0" false).value? env))
  | call f arguments => do
    let value ← p.called f (← arguments.mapM env)
    return Function.update (Function.update env .outRe (some value.re)) .outIm (some value.im)

/-- The effect of statements one after the other. -/
def Statement.runAll? (p : Primitives) (env : Env) (ss : List Statement) : Option Env :=
  ss.foldlM (Statement.run? p) env

namespace Script

/-- The inputs are given, and the output is zero. -/
def start (z c : Complex) : Env
  | .iterateRe => some z.re
  | .iterateIm => some z.im
  | .parameterRe => some c.re
  | .parameterIm => some c.im
  | .outRe | .outIm => some 0.0
  | .slotRe _ | .slotIm _ => none

/-- The output after the lines of a text have been run at `(z, c)`. -/
def run? (p : Primitives) (z c : Complex) (text : String) : Option Complex := do
  let env ← Statement.runAll? p (start z c) (← read? text)
  return ⟨← env .outRe, ← env .outIm⟩

end Script

/-! ### Variables and registers -/

/-- The variables as they stand for the inputs and the registers. -/
def Registers.env (z c : Complex) (r : Registers) : Env
  | .iterateRe => some z.re
  | .iterateIm => some z.im
  | .parameterRe => some c.re
  | .parameterIm => some c.im
  | .outRe => some r.out.re
  | .outIm => some r.out.im
  | .slotRe id => r.slots[id]?.map (·.re)
  | .slotIm id => r.slots[id]?.map (·.im)

/-- The symbols as they are written. -/
def Symbol.written (z c : Complex) : Symbol → Complex
  | iterate => z
  | parameter => c
  | imagUnit => ⟨0.0, 1.0⟩
  | negImagUnit => ⟨0.0, -1.0⟩

section

variable {p : Primitives} {z c : Complex}

lemma Script.start_eq : Script.start z c = Registers.env z c ⟨.zero, []⟩ := by
  funext v
  cases v <;> rfl

namespace Registers

lemma update_out (r : Registers) (x : Complex) :
    Function.update (Function.update (r.env z c) .outRe (some x.re)) .outIm (some x.im) =
      env z c { r with out := x } := by
  funext v
  cases v <;> simp [env, Function.update]

/-- Both parts of one slot are replaced, be it an old slot or the next new one. -/
lemma update_slot (r : Registers) {id : Nat} {x : Complex} {slots : List Complex}
    (h : ∀ n, slots[n]? = if n = id then some x else r.slots[n]?) :
    Function.update (Function.update (r.env z c) (.slotRe id) (some x.re)) (.slotIm id) (some x.im) =
      env z c { r with slots := slots } := by
  funext v
  cases v with
  | slotRe n | slotIm n => by_cases hn : n = id <;> simp [env, Function.update, h, hn]
  | _ => simp [env, Function.update]

end Registers

/-! ### Instructions -/

namespace Statement

lemma runAll?_append (env : Env) (ss ts : List Statement) :
    runAll? p env (ss ++ ts) = (runAll? p env ss).bind (runAll? p · ts) := by
  simp [runAll?, List.foldlM_append]

/-- The two parts of a number are assigned one after the other; the second is not read from the
first. -/
lemma runAll?_assign_pair {env : Env} {re im : Variable} {s t : Source} {x y : Float}
    (hre : (env re).isSome) (him : (env im).isSome) (hne : im ≠ re)
    (hs : s.value? env = some x) (ht : t.value? (Function.update env re (some x)) = some y) :
    runAll? p env [.assign re s, .assign im t] =
      some (Function.update (Function.update env re (some x)) im (some y)) := by
  obtain ⟨u, hu⟩ := Option.isSome_iff_exists.1 hre
  obtain ⟨v, hv⟩ := Option.isSome_iff_exists.1 him
  simp [runAll?, run?, hu, hv, hs, ht, Function.update_of_ne hne]

lemma runAll?_assign_out {r : Registers} {s t : Source} {x : Complex}
    (hs : s.value? (r.env z c) = some x.re)
    (ht : t.value? (Function.update (r.env z c) .outRe (some x.re)) = some x.im) :
    runAll? p (r.env z c) [.assign .outRe s, .assign .outIm t] =
      some (Registers.env z c { r with out := x }) := by
  rw [runAll?_assign_pair rfl rfl (by decide) hs ht, r.update_out]

end Statement

/-- A call by name reaches the primitive of that name. -/
lemma Primitives.called_operator (op : Operator) (x y : Complex) :
    p.called op.primitive [x.re, x.im, y.re, y.im] = some (p.binary op x y) := by
  have hop : Operator.all.find? (·.primitive == op.primitive) = some op := by cases op <;> decide
  simp [called, hop]

lemma Primitives.called_func (f : Func) (x : Complex) :
    p.called f.primitive [x.re, x.im] = some (p.unary f x) := by
  have hf : Func.all.find? (·.primitive == f.primitive) = some f := by cases f <;> decide
  simp [called, hf]

/-- What is written for a symbol is read as its parts. -/
lemma Symbol.value?_sources (r : Registers) (s : Symbol) (x : Option Float) :
    s.sources.1.value? (r.env z c) = some (s.written z c).re ∧
      s.sources.2.value? (Function.update (r.env z c) .outRe x) = some (s.written z c).im := by
  cases s <;> exact ⟨rfl, rfl⟩

/-- The statements of an instruction do to the variables what the instruction does to the
registers. -/
theorem Instr.runAll?_statements {r r' : Registers} {i : Instr}
    (h : i.run? p (Symbol.written z c) r = some r') :
    Statement.runAll? p (r.env z c) i.statements = some (r'.env z c) := by
  cases i with
  | literal text =>
    obtain ⟨x, hx, rfl⟩ := Option.map_eq_some_iff.1 h
    have hzero : Decimal.readFloat? "0".toList = some 0.0 := by decide
    exact Statement.runAll?_assign_out (x := .ofReal x) hx hzero
  | symbol s =>
    obtain rfl := Option.some.inj h
    obtain ⟨hre, him⟩ := Symbol.value?_sources r s (some (s.written z c).re)
    exact Statement.runAll?_assign_out hre him
  | store slot coerce =>
    simp only [run?] at h
    split at h
    · rename_i hslot
      obtain rfl := Option.some.inj h
      have hslots : ∀ n, (r.slots.set slot r.out)[n]? =
          if n = slot then some r.out else r.slots[n]? := by
        grind
      rw [statements, Statement.runAll?_assign_pair (by simp [Registers.env, hslot])
        (by simp [Registers.env, hslot]) (by simp) rfl (y := r.out.im) rfl, r.update_slot hslots]
    · cases h
  | binary op lhs rhs =>
    obtain ⟨x, hx, h⟩ := Option.bind_eq_some_iff.1 h
    obtain ⟨y, hy, h⟩ := Option.bind_eq_some_iff.1 h
    obtain rfl := Option.some.inj h
    have hargs : [Variable.slotRe lhs, .slotIm lhs, .slotRe rhs, .slotIm rhs].mapM (r.env z c) =
        some [x.re, x.im, y.re, y.im] := by
      simp [Registers.env, hx, hy]
    simp [statements, Statement.runAll?, Statement.run?, hargs, Primitives.called_operator,
      r.update_out]
  | unary f arg =>
    obtain ⟨x, hx, h⟩ := Option.bind_eq_some_iff.1 h
    obtain rfl := Option.some.inj h
    have hargs : [Variable.slotRe arg, .slotIm arg].mapM (r.env z c) = some [x.re, x.im] := by
      simp [Registers.env, hx]
    simp [statements, Statement.runAll?, Statement.run?, hargs, Primitives.called_func,
      r.update_out]

theorem Instr.runAll?_flatMap_statements {is : List Instr} {r r' : Registers}
    (h : runAll? p (Symbol.written z c) r is = some r') :
    Statement.runAll? p (r.env z c) (is.flatMap statements) = some (r'.env z c) := by
  induction is generalizing r with
  | nil =>
    obtain rfl := Option.some.inj h
    rfl
  | cons i is ih =>
    rw [runAll?_cons] at h
    obtain ⟨r₁, h₁, h⟩ := Option.bind_eq_some_iff.1 h
    rw [List.flatMap_cons, Statement.runAll?_append, runAll?_statements h₁, Option.bind_some, ih h]

/-! ### Whole kernels -/

/-- To mark an input as a number changes nothing. -/
lemma Kernel.runAll?_inputStatements (r : Registers) :
    Statement.runAll? p (r.env z c) inputStatements = some (r.env z c) := by
  have hsame : ∀ v x, r.env z c v = some x →
      Statement.run? p (r.env z c) (.assign v (.named v true)) = some (r.env z c) := by
    intro v x hv
    have hself : Function.update (r.env z c) v (some x) = r.env z c := by
      rw [← hv, Function.update_eq_self]
    simp [Statement.run?, Source.value?, hv, hself]
  simp [inputStatements, Statement.runAll?, hsame .iterateRe _ rfl, hsame .iterateIm _ rfl,
    hsame .parameterRe _ rfl, hsame .parameterIm _ rfl]

/-- The slots of a block are numbered in the order in which they stand. -/
lemma Block.map_id_slots_ofExpr (next : Nat) (e : Expr) :
    (ofExpr next e).slots.map (·.id) = List.range' next (ofExpr next e).slots.length := by
  induction e generalizing next with
  | literal text => rfl
  | symbol s => rfl
  | raw text => rfl
  | binary op left right ihl ihr =>
    simp only [ofExpr, List.map_cons, List.map_append, List.cons_append, ihl, ihr,
      ← List.range'_succ, List.length_append, List.length_cons]
    rw [← List.cons_append, ← List.range'_succ, Nat.add_right_comm next 1, Nat.add_assoc next,
      List.range'_append_1]
    congr 1
    omega
  | call f operand ih =>
    simp [ofExpr, ih, List.range'_succ]

/-- Slots are declared one after the other, and hold zero. -/
lemma Kernel.runAll?_slotStatements {slots : List Slot} (r : Registers)
    (h : slots.map (·.id) = List.range' r.slots.length slots.length) :
    Statement.runAll? p (r.env z c) (slots.flatMap slotStatements) =
      some (Registers.env z c
        { r with slots := r.slots ++ List.replicate slots.length .zero }) := by
  induction slots generalizing r with
  | nil => simp [Statement.runAll?]
  | cons s slots ih =>
    simp only [List.map_cons, List.length_cons, List.range'_succ, List.cons.injEq] at h
    obtain ⟨hid, hids⟩ := h
    have hdeclare : Statement.runAll? p (r.env z c) (slotStatements s) =
        some (Registers.env z c { r with slots := r.slots ++ [.zero] }) := by
      have hslots : ∀ n, (r.slots ++ [Complex.zero])[n]? =
          if n = r.slots.length then some .zero else r.slots[n]? := by
        grind
      rw [slotStatements, hid, ← r.update_slot hslots]
      rfl
    rw [List.flatMap_cons, Statement.runAll?_append, hdeclare, Option.bind_some, ih _ (by simpa)]
    simp [List.replicate_succ]

lemma Block.mem_literals_of_mem_instructions {next : Nat} {e : Expr} {text : String}
    (h : .literal text ∈ (ofExpr next e).instructions) : text ∈ e.literals := by
  induction e generalizing next with
  | literal t => simpa [ofExpr, Expr.literals] using h
  | symbol s => simp [ofExpr] at h
  | raw t => simp [ofExpr] at h
  | binary op left right ihl ihr =>
    simp only [ofExpr, List.mem_append, List.mem_cons, reduceCtorEq, false_or, or_false,
      List.not_mem_nil] at h
    exact List.mem_append.2 (h.imp ihl ihr)
  | call f operand ih =>
    simp only [ofExpr, List.mem_append, List.mem_cons, reduceCtorEq, or_false,
      List.not_mem_nil] at h
    exact ih h

lemma Expr.readable_of_isNumeral {e : Expr}
    (h : ∀ text ∈ e.literals, SyntaxTree.isNumeral text.toList) : e.Readable :=
  fun text htext => Grammar.isSome_readFloat?_of_isNumeral (h text htext)

/-- **What the text of an expression's kernel computes**: the expression's value, the symbols being
taken as they are written. -/
theorem Script.run?_text_ofExpr {e : Expr}
    (h : ∀ text ∈ e.literals, SyntaxTree.isNumeral text.toList) (p : Primitives) (z c : Complex) :
    run? p z c (Kernel.ofExpr e).text = some (e.valueFrom p (Symbol.written z c) .zero) := by
  have hread : read? (Kernel.ofExpr e).text = some (Kernel.ofExpr e).statements :=
    read?_text fun text htext => h text (Block.mem_literals_of_mem_instructions htext)
  have hslots := Kernel.runAll?_slotStatements (p := p) (z := z) (c := c) ⟨.zero, []⟩
    (Block.map_id_slots_ofExpr 0 e)
  have hrun := Kernel.runAll?_ofExpr p (Symbol.written z c) (Expr.readable_of_isNumeral h)
    (List.length_replicate (a := Complex.zero))
  have henv : Statement.runAll? p (start z c) (Kernel.ofExpr e).statements =
      some (Registers.env z c
        ⟨e.valueFrom p (Symbol.written z c) .zero, e.operandsFrom p (Symbol.written z c) .zero⟩) := by
    rw [List.nil_append] at hslots
    rw [Kernel.statements, start_eq, Statement.runAll?_append, Statement.runAll?_append,
      Kernel.runAll?_inputStatements, Option.bind_some, Kernel.ofExpr, hslots, Option.bind_some]
    exact Instr.runAll?_flatMap_statements hrun
  simp [run?, hread, henv, Registers.env]

end

/-! ### Telling the two units apart -/

open Classical in
/-- Primitives that hand a marked number on and forget all others. -/
noncomputable def Primitives.handOn (m : Complex) : Primitives where
  binary _ a b := if a = m ∨ b = m then m else .zero
  unary _ a := if a = m then m else .zero

section

variable {m : Complex}

lemma Primitives.handOn_binary_eq_iff (hm : .zero ≠ m) (op : Operator) (a b : Complex) :
    (handOn m).binary op a b = m ↔ a = m ∨ b = m := by
  simp only [handOn]
  split <;> simp_all

lemma Primitives.handOn_unary_eq_iff (hm : .zero ≠ m) (f : Func) (a : Complex) :
    (handOn m).unary f a = m ↔ a = m := by
  simp only [handOn]
  split <;> simp_all

variable {σ : Symbol → Complex}

/-- The mark of a symbol reaches the result from wherever the symbol stands. -/
lemma Expr.valueFrom_handOn_eq (hm : .zero ≠ m) {s : Symbol} (hs : σ s = m) {e : Expr}
    (h : s ∈ e.symbols) (o : Complex) : e.valueFrom (.handOn m) σ o = m := by
  induction e generalizing o with
  | literal text => simp [symbols] at h
  | symbol x =>
    obtain rfl := List.mem_singleton.1 h
    exact hs
  | raw text => simp [symbols] at h
  | binary op left right ihl ihr =>
    rw [valueFrom, Primitives.handOn_binary_eq_iff hm]
    exact (List.mem_append.1 h).imp (ihl · o) (ihr · _)
  | call f operand ih =>
    rw [valueFrom, Primitives.handOn_unary_eq_iff hm]
    exact ih h o

/-- No result is marked if no leaf is. -/
lemma Expr.valueFrom_handOn_ne (hσ : ∀ s, σ s ≠ m) (him : m.im ≠ 0.0) (e : Expr) {o : Complex}
    (ho : o ≠ m) : e.valueFrom (.handOn m) σ o ≠ m := by
  have hreal : ∀ x, Complex.ofReal x ≠ m := fun x h => him (congrArg Complex.im h).symm
  induction e generalizing o with
  | literal text => exact hreal _
  | symbol s => exact hσ s
  | raw text => exact ho
  | binary op left right ihl ihr =>
    rw [valueFrom, Ne, Primitives.handOn_binary_eq_iff (hreal 0.0), not_or]
    exact ⟨ihl ho, ihr (ihl ho)⟩
  | call f operand ih =>
    rw [valueFrom, Ne, Primitives.handOn_unary_eq_iff (hreal 0.0)]
    exact ih ho

end

/-! ### The text and the evaluator -/

/-- All symbols but the unit with a minus are written as they are loaded. -/
lemma Symbol.written_eq_value {z c : Complex} {s : Symbol} (h : s ≠ .negImagUnit) :
    s.written z c = s.value z c := by
  cases s with
  | negImagUnit => exact absurd rfl h
  | _ => rfl

lemma Symbol.value_negImagUnit (z c : Complex) : negImagUnit.value z c = -.unit := rfl

/-- No symbol is written as the negated unit. -/
lemma Symbol.written_ne_neg_unit (s : Symbol) : s.written .zero .zero ≠ -Complex.unit := by
  have hre : (s.written .zero .zero).re = 0.0 := by cases s <;> rfl
  intro h
  rw [h] at hre
  exact absurd hre (by decide)

/-- **The text agrees with the evaluator exactly where the unit with a minus does not occur.** The
kernel of every formula is accepted, and its text runs to the formula's value with the symbols as
they are written. That is the evaluator's value, whatever the primitives do, if and only if the
formula is free of that symbol. -/
theorem Kernel.text_agrees_iff (source : String) :
    ∃ ev, Evaluator.ofKernel (compile source) = .ok ev ∧
      (∀ p z c, Script.run? p z c (compile source).text =
        some ((Formula.parse source).valueFrom p (Symbol.written z c) .zero)) ∧
      ((∀ p z c, Script.run? p z c (compile source).text = some (ev.eval p z c)) ↔
        .negImagUnit ∉ (Formula.parse source).symbols) := by
  have hnum : ∀ text ∈ (Formula.parse source).literals, SyntaxTree.isNumeral text.toList :=
    fun text => SyntaxTree.isNumeral_of_mem_literals
  obtain ⟨ev, hev, heval⟩ := exists_evaluator (Expr.readable_of_isNumeral hnum)
  have htext : ∀ p z c, Script.run? p z c (compile source).text =
      some ((Formula.parse source).valueFrom p (Symbol.written z c) .zero) :=
    Script.run?_text_ofExpr hnum
  refine ⟨ev, hev, htext, ?_⟩
  simp only [htext, Evaluator.eval, heval, Option.some.injEq]
  constructor
  · -- primitives that hand the negated unit on show it in the evaluator's result alone
    intro hagree hmem
    have hzero : Complex.zero ≠ -Complex.unit := Symbol.written_ne_neg_unit .iterate
    have him : (-Complex.unit).im ≠ 0.0 := by decide
    have hmarked := Expr.valueFrom_handOn_eq hzero (Symbol.value_negImagUnit .zero .zero) hmem .zero
    exact Expr.valueFrom_handOn_ne Symbol.written_ne_neg_unit him _ hzero
      ((hagree _ _ _).trans hmarked)
  · intro hnot p z c
    refine Expr.valueFrom_congr (fun s hs => Symbol.written_eq_value ?_) _
    rintro rfl
    exact hnot hs

/-- At `-i` the text ends with a real part of `0.0`, the evaluator with `-0.0`. -/
theorem Kernel.text_disagrees_at_neg_unit :
    ∃ ev, Evaluator.ofKernel (compile "-i") = .ok ev ∧
      Script.run? .standard .zero .zero (compile "-i").text = some ⟨0.0, -1.0⟩ ∧
      ev.eval .standard .zero .zero = ⟨-0.0, -1.0⟩ ∧ (0.0 : Float) ≠ -0.0 := by
  have hparse : Formula.parse "-i" = .symbol .negImagUnit := by decide +kernel
  have hnum : ∀ text ∈ (Expr.symbol .negImagUnit).literals, SyntaxTree.isNumeral text.toList := by
    simp [Expr.literals]
  obtain ⟨ev, hev, heval⟩ := exists_evaluator (Expr.readable_of_isNumeral hnum)
  rw [compile, hparse]
  refine ⟨ev, hev, Script.run?_text_ofExpr hnum _ _ _, ?_, by decide⟩
  rw [Evaluator.eval, heval]
  rfl

end EscapeTime
