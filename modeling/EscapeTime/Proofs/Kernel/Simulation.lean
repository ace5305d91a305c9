import EscapeTime.Kernel.Evaluator
import EscapeTime.Proofs.Kernel.Registers

namespace EscapeTime

/-!
# A kernel computes its expression

The evaluator checks every instruction once and then runs steps that cannot go wrong. Its check
passes wherever the instructions have a defined effect on the registers, and its steps have just
that effect. So what a block leaves in the registers is what the evaluator returns.
-/

/-- The registers of a running kernel. -/
def Machine.registers {n : Nat} (m : Machine n) : Registers := ⟨m.out, m.slots.toList⟩

namespace Step

variable {n : Nat}

/-! ### One instruction -/

lemma checkSlot_eq_ok_iff {id : Nat} {slot : Fin n} : checkSlot n id = .ok slot ↔ slot.val = id := by
  unfold checkSlot
  split
  · simp [Fin.ext_iff, eq_comm]
  · rename_i h
    simp only [reduceCtorEq, false_iff]
    rintro rfl
    exact h slot.isLt

lemma bind_eq_ok {α β : Type} {x : Except KernelFault α} {f : α → Except KernelFault β} {b : β} :
    x >>= f = .ok b ↔ ∃ a, x = .ok a ∧ f a = .ok b := by
  cases x <;> simp [bind, Except.bind]

lemma pure_eq_ok {α : Type} {a b : α} : (pure a : Except KernelFault α) = .ok b ↔ a = b := by
  simp [pure, Except.pure]

lemma ofInstr_store {slot : Nat} {coerce : Bool} {s : Step n} :
    ofInstr n (.store slot coerce) = .ok s ↔ ∃ k : Fin n, k.val = slot ∧ .store k = s := by
  simp only [ofInstr, bind_eq_ok, pure_eq_ok, checkSlot_eq_ok_iff]

lemma ofInstr_binary {op : Operator} {lhs rhs : Nat} {s : Step n} :
    ofInstr n (.binary op lhs rhs) = .ok s ↔
      ∃ k : Fin n, k.val = lhs ∧ ∃ l : Fin n, l.val = rhs ∧ .binary op k l = s := by
  simp only [ofInstr, bind_eq_ok, pure_eq_ok, checkSlot_eq_ok_iff]

lemma ofInstr_unary {f : Func} {arg : Nat} {s : Step n} :
    ofInstr n (.unary f arg) = .ok s ↔ ∃ k : Fin n, k.val = arg ∧ .unary f k = s := by
  simp only [ofInstr, bind_eq_ok, pure_eq_ok, checkSlot_eq_ok_iff]

/-- An instruction with a defined effect passes the check, and keeps the number of slots. -/
lemma exists_ofInstr {p : Primitives} {σ : Symbol → Complex} {r r' : Registers} {i : Instr}
    (hr : r.slots.length = n) (h : i.run? p σ r = some r') :
    (∃ s, ofInstr n i = .ok s) ∧ r'.slots.length = n := by
  subst hr
  cases i with
  | literal text =>
    obtain ⟨x, hx, rfl⟩ := Option.map_eq_some_iff.1 h
    exact ⟨⟨.load (.ofReal x), by simp [ofInstr, hx]⟩, rfl⟩
  | symbol s =>
    obtain rfl := Option.some.inj h
    exact ⟨by cases s <;> exact ⟨_, rfl⟩, rfl⟩
  | store slot coerce =>
    simp only [Instr.run?] at h
    split at h
    · rename_i hslot
      obtain rfl := Option.some.inj h
      exact ⟨⟨_, ofInstr_store.2 ⟨⟨slot, hslot⟩, rfl, rfl⟩⟩, by simp⟩
    · cases h
  | binary op lhs rhs =>
    obtain ⟨x, hx, h⟩ := Option.bind_eq_some_iff.1 h
    obtain ⟨y, hy, h⟩ := Option.bind_eq_some_iff.1 h
    obtain rfl := Option.some.inj h
    obtain ⟨hl, -⟩ := List.getElem?_eq_some_iff.1 hx
    obtain ⟨hr, -⟩ := List.getElem?_eq_some_iff.1 hy
    exact ⟨⟨_, ofInstr_binary.2 ⟨⟨lhs, hl⟩, rfl, ⟨rhs, hr⟩, rfl, rfl⟩⟩, rfl⟩
  | unary f arg =>
    obtain ⟨x, hx, h⟩ := Option.bind_eq_some_iff.1 h
    obtain rfl := Option.some.inj h
    obtain ⟨ha, -⟩ := List.getElem?_eq_some_iff.1 hx
    exact ⟨⟨_, ofInstr_unary.2 ⟨⟨arg, ha⟩, rfl, rfl⟩⟩, rfl⟩

/-- A checked instruction has the effect of the instruction. -/
lemma run_registers {z c : Complex} {i : Instr} {s : Step n} (h : ofInstr n i = .ok s)
    (p : Primitives) (m : Machine n) :
    i.run? p (Symbol.value z c) m.registers = some (s.run p z c m).registers := by
  cases i with
  | literal text =>
    simp only [ofInstr] at h
    split at h
    · rename_i x hx
      obtain rfl := Except.ok.inj h
      simp [Instr.run?, hx, Machine.registers, run]
    · cases h
  | symbol x => cases x <;> (obtain rfl := Except.ok.inj h; rfl)
  | store slot coerce =>
    obtain ⟨k, rfl, rfl⟩ := ofInstr_store.1 h
    simp [Instr.run?, Machine.registers, run, Vector.toList_set]
  | binary op lhs rhs =>
    obtain ⟨k, rfl, l, rfl, rfl⟩ := ofInstr_binary.1 h
    simp [Instr.run?, Machine.registers, run]
  | unary f arg =>
    obtain ⟨k, rfl, rfl⟩ := ofInstr_unary.1 h
    simp [Instr.run?, Machine.registers, run]

/-! ### All instructions -/

lemma mapM_cons_eq_ok {i : Instr} {is : List Instr} {steps : List (Step n)} :
    (i :: is).mapM (ofInstr n) = .ok steps ↔
      ∃ s, ofInstr n i = .ok s ∧ ∃ ss, is.mapM (ofInstr n) = .ok ss ∧ s :: ss = steps := by
  simp only [List.mapM_cons, bind_eq_ok, pure_eq_ok]

theorem exists_mapM_ofInstr {p : Primitives} {σ : Symbol → Complex} {is : List Instr}
    {r r' : Registers} (hr : r.slots.length = n) (h : Instr.runAll? p σ r is = some r') :
    ∃ steps, is.mapM (ofInstr n) = .ok steps := by
  induction is generalizing r with
  | nil => exact ⟨[], rfl⟩
  | cons i is ih =>
    rw [Instr.runAll?_cons] at h
    obtain ⟨r₁, h₁, h⟩ := Option.bind_eq_some_iff.1 h
    obtain ⟨⟨s, hs⟩, hlen⟩ := exists_ofInstr hr h₁
    obtain ⟨ss, hss⟩ := ih hlen h
    exact ⟨s :: ss, mapM_cons_eq_ok.2 ⟨s, hs, ss, hss, rfl⟩⟩

theorem foldl_run_registers {is : List Instr} {steps : List (Step n)}
    (h : is.mapM (ofInstr n) = .ok steps) (p : Primitives) (z c : Complex) (m : Machine n) :
    Instr.runAll? p (Symbol.value z c) m.registers is =
      some (steps.foldl (Step.run p z c) m).registers := by
  induction is generalizing steps m with
  | nil =>
    obtain rfl := Except.ok.inj h
    rfl
  | cons i is ih =>
    obtain ⟨s, hs, ss, hss, rfl⟩ := mapM_cons_eq_ok.1 h
    rw [Instr.runAll?_cons, run_registers hs, Option.bind_some, ih hss, List.foldl_cons]

end Step

/-! ### The evaluator of an expression -/

/-- A readable expression's kernel is accepted, and every run of it ends with the expression's value
in the output and the operands' values in the buffer. -/
theorem exists_evaluator {e : Expr} (h : e.Readable) :
    ∃ ev, Evaluator.ofKernel (.ofExpr e) = .ok ev ∧
      ∀ (p : Primitives) (buffer : Array Complex) (z c : Complex),
        ev.evalWith p buffer z c =
          (e.valueFrom p (Symbol.value z c) .zero,
            (e.operandsFrom p (Symbol.value z c) .zero).toArray) := by
  obtain ⟨steps, hsteps⟩ := Step.exists_mapM_ofInstr (n := (Kernel.ofExpr e).slotCount) (by simp)
    (Kernel.runAll?_ofExpr .standard (Symbol.value .zero .zero) h
      (List.length_replicate (a := Complex.zero)))
  refine ⟨⟨(Kernel.ofExpr e).slotCount, steps⟩, ?_, ?_⟩
  · rw [Evaluator.ofKernel, hsteps]
    rfl
  · intro p buffer z c
    have hregs := Step.foldl_run_registers hsteps p z c ⟨.zero, Evaluator.reset _ buffer⟩
    rw [Machine.registers, Kernel.runAll?_ofExpr p _ h (by simp)] at hregs
    obtain ⟨hout, hslots⟩ := Registers.mk.inj (Option.some.inj hregs)
    simp only [Evaluator.evalWith, Evaluator.runWith, hout, hslots, Vector.toArray_toList]

/-- **Compiler correctness.** The kernel of an expression whose literals are numbers is accepted by
the evaluator. Whatever the primitives do, its value is the expression's value, starting from zero
in the output register, which is the ordinary value when there is no raw leaf; and a run in any
buffer leaves there exactly the operands' values in the order in which their slots were taken. -/
theorem eval_ofExpr (e : Expr) (h : e.Readable) :
    ∃ ev, Evaluator.ofKernel (.ofExpr e) = .ok ev ∧
      ∀ (p : Primitives) (z c : Complex),
        ev.eval p z c = e.valueFrom p (Symbol.value z c) .zero ∧
        (e.rawLeaves = [] → e.value? p (Symbol.value z c) = some (ev.eval p z c)) ∧
        ∀ buffer : Array Complex,
          ev.evalWith p buffer z c =
            (e.valueFrom p (Symbol.value z c) .zero,
              (e.operandsFrom p (Symbol.value z c) .zero).toArray) := by
  obtain ⟨ev, hev, hrun⟩ := exists_evaluator h
  refine ⟨ev, hev, fun p z c => ?_⟩
  have hval : ev.eval p z c = e.valueFrom p (Symbol.value z c) .zero := by
    rw [Evaluator.eval, hrun]
  refine ⟨hval, fun hraw => ?_, fun buffer => hrun p buffer z c⟩
  rw [hval]
  exact Expr.value?_eq_some h hraw _

/-- In `2*z+foo` the leaf that is not understood repeats the product. -/
theorem eval_ofExpr_raw_operand :
    (Expr.binary .add (.binary .mul (.literal "2") (.symbol .iterate)) (.raw "foo")).Readable ∧
      ∃ ev, Evaluator.ofKernel (.ofExpr (.binary .add
          (.binary .mul (.literal "2") (.symbol .iterate)) (.raw "foo"))) = .ok ev ∧
        ∀ (p : Primitives) (z c : Complex), ev.eval p z c =
          p.binary .add (p.binary .mul (Expr.literalValue "2") z)
            (p.binary .mul (Expr.literalValue "2") z) := by
  have hread : (Expr.binary .add (.binary .mul (.literal "2") (.symbol .iterate))
      (.raw "foo")).Readable := by
    intro text htext
    obtain rfl : text = "2" := by simpa [Expr.literals] using htext
    decide
  obtain ⟨ev, hev, hrun⟩ := eval_ofExpr _ hread
  exact ⟨hread, ev, hev, fun p z c => (hrun p z c).1⟩

end EscapeTime
