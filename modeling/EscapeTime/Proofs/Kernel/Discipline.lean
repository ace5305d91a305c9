import EscapeTime.Proofs.Kernel.Agreement

namespace EscapeTime

/-!
# The discipline of slots

The blocks of two operands share no slot, and neither touches the slots of the operator above them.
So a slot that is taken for an operand is stored when that operand has been computed, is used by the
one instruction that it was taken for, and is named nowhere else. What an instruction does with a
slot agrees with the slot's role, and the counts of slots and instructions can be read off the
expression.
-/

/-! ### Counts -/

namespace Expr

/-- The number of binary operators. -/
def operatorCount : Expr → Nat
  | literal _ | symbol _ | raw _ => 0
  | binary _ left right => left.operatorCount + right.operatorCount + 1
  | call _ operand => operand.operatorCount

/-- The number of function calls. -/
def callCount : Expr → Nat
  | literal _ | symbol _ | raw _ => 0
  | binary _ left right => left.callCount + right.callCount
  | call _ operand => operand.callCount + 1

/-- The number of leaves that are not raw. -/
def loadCount : Expr → Nat
  | literal _ | symbol _ => 1
  | raw _ => 0
  | binary _ left right => left.loadCount + right.loadCount
  | call _ operand => operand.loadCount

/-- The primitives of an expression, each after those of its operands. -/
def primitives : Expr → List String
  | literal _ | symbol _ | raw _ => []
  | binary op left right => left.primitives ++ right.primitives ++ [op.primitive]
  | call f operand => operand.primitives ++ [f.primitive]

end Expr

namespace Block

lemma length_slots_eq (next : Nat) (e : Expr) :
    (ofExpr next e).slots.length = 2 * e.operatorCount + e.callCount := by
  induction e generalizing next with
  | literal text => rfl
  | symbol s => rfl
  | raw text => rfl
  | binary op left right ihl ihr =>
    simp only [ofExpr, List.cons_append, List.length_cons, List.length_append, ihl, ihr,
      Expr.operatorCount, Expr.callCount]
    omega
  | call f operand ih =>
    simp only [ofExpr, List.length_cons, ih, Expr.operatorCount, Expr.callCount]
    omega

lemma length_instructions_eq (next : Nat) (e : Expr) :
    (ofExpr next e).instructions.length =
      e.loadCount + 3 * e.operatorCount + 2 * e.callCount := by
  induction e generalizing next with
  | literal text => rfl
  | symbol s => rfl
  | raw text => rfl
  | binary op left right ihl ihr =>
    simp only [ofExpr, List.length_cons, List.length_append, List.length_nil, ihl, ihr,
      Expr.loadCount, Expr.operatorCount, Expr.callCount]
    omega
  | call f operand ih =>
    simp only [ofExpr, List.length_cons, List.length_append, List.length_nil, ih, Expr.loadCount,
      Expr.operatorCount, Expr.callCount]
    omega

lemma filterMap_primitive? (next : Nat) (e : Expr) :
    (ofExpr next e).instructions.filterMap Instr.primitive? = e.primitives := by
  induction e generalizing next with
  | literal text => rfl
  | symbol s => rfl
  | raw text => rfl
  | binary op left right ihl ihr =>
    simp [ofExpr, List.filterMap_append, List.filterMap_cons, Instr.primitive?, ihl, ihr,
      Expr.primitives]
  | call f operand ih =>
    simp [ofExpr, List.filterMap_append, List.filterMap_cons, Instr.primitive?, ih,
      Expr.primitives]

end Block

/-! ### Instructions and the roles of slots -/

namespace Instr

/-- The slots that an instruction reads. -/
def operands : Instr → List Nat
  | binary _ lhs rhs => [lhs, rhs]
  | unary _ arg => [arg]
  | _ => []

/-- The slots that an instruction names. -/
def slotIds : Instr → List Nat
  | store slot _ => [slot]
  | i => i.operands

end Instr

/-- Whether a value is marked as a number when it is stored for the role. -/
def SlotRole.coerces : SlotRole → Bool
  | left _ | right _ => true
  | argument _ => false

/-- The instruction treats slots in accordance with their roles. -/
def Instr.Fits (slots : List Slot) : Instr → Prop
  | literal _ | symbol _ => True
  | store slot coerce => ∃ role, ⟨slot, role⟩ ∈ slots ∧ coerce = role.coerces
  | binary op lhs rhs => lhs < rhs ∧ ⟨lhs, .left op⟩ ∈ slots ∧ ⟨rhs, .right op⟩ ∈ slots
  | unary f arg => ⟨arg, .argument f⟩ ∈ slots

namespace Instr

variable {slots slots' : List Slot} {i : Instr}

lemma Fits.mono (hi : i.Fits slots) (h : slots ⊆ slots') : i.Fits slots' := by
  cases i with
  | literal text => trivial
  | symbol s => trivial
  | store slot coerce =>
    obtain ⟨role, hmem, hcoerce⟩ := hi
    exact ⟨role, h hmem, hcoerce⟩
  | binary op lhs rhs =>
    obtain ⟨hlt, hl, hr⟩ := hi
    exact ⟨hlt, h hl, h hr⟩
  | unary f arg => exact h hi

lemma Fits.mem_ids (hi : i.Fits slots) {id : Nat} (hid : id ∈ i.slotIds) :
    id ∈ slots.map (·.id) := by
  cases i with
  | literal text => simp [slotIds, operands] at hid
  | symbol s => simp [slotIds, operands] at hid
  | store slot coerce =>
    obtain ⟨role, hmem, -⟩ := hi
    obtain rfl : id = slot := by simpa [slotIds] using hid
    exact List.mem_map_of_mem hmem
  | binary op lhs rhs =>
    obtain ⟨-, hl, hr⟩ := hi
    have hcases : id = lhs ∨ id = rhs := by simpa [slotIds, operands] using hid
    rcases hcases with rfl | rfl
    · exact List.mem_map_of_mem hl
    · exact List.mem_map_of_mem hr
  | unary f arg =>
    obtain rfl : id = arg := by simpa [slotIds, operands] using hid
    exact List.mem_map_of_mem hi

end Instr

namespace Block

lemma fits_of_mem {next : Nat} {e : Expr} {i : Instr} (h : i ∈ (ofExpr next e).instructions) :
    i.Fits (ofExpr next e).slots := by
  induction e generalizing next with
  | literal text =>
    obtain rfl := List.mem_singleton.1 h
    trivial
  | symbol s =>
    obtain rfl := List.mem_singleton.1 h
    trivial
  | raw text => simp [ofExpr] at h
  | binary op left right ihl ihr =>
    simp only [ofExpr, List.mem_append, List.mem_cons, List.not_mem_nil, or_false] at h
    rcases h with (h | rfl | h) | rfl | rfl
    · exact (ihl h).mono fun s hs => by simp [ofExpr, hs]
    · exact ⟨.left op, by simp [ofExpr], rfl⟩
    · exact (ihr h).mono fun s hs => by simp [ofExpr, hs]
    · exact ⟨.right op, by simp [ofExpr], rfl⟩
    · exact ⟨by omega, by simp [ofExpr], by simp [ofExpr]⟩
  | call f operand ih =>
    simp only [ofExpr, List.mem_append, List.mem_cons, List.not_mem_nil, or_false] at h
    rcases h with h | rfl | rfl
    · exact (ih h).mono fun s hs => by simp [ofExpr, hs]
    · exact ⟨.argument f, by simp [ofExpr], rfl⟩
    · simp [Instr.Fits, ofExpr]

/-- A block names its own slots only. -/
lemma mem_slotIds {next : Nat} {e : Expr} {i : Instr} (h : i ∈ (ofExpr next e).instructions)
    {id : Nat} (hid : id ∈ i.slotIds) :
    next ≤ id ∧ id < next + (ofExpr next e).slots.length := by
  have hmem := (fits_of_mem h).mem_ids hid
  rw [map_id_slots_ofExpr, List.mem_range'_1] at hmem
  exact hmem

end Block

/-! ### Stored once, used once -/

namespace Instr

/-- None of the instructions names the slot. -/
def Avoid (id : Nat) (is : List Instr) : Prop := ∀ i ∈ is, id ∉ i.slotIds

/-- The slot is stored by one instruction and used by one that comes later. No other instruction
names it. -/
def StoredThenUsed (id : Nat) (is : List Instr) : Prop :=
  ∃ before coerce between use after, is = before ++ .store id coerce :: between ++ use :: after ∧
    id ∈ use.operands ∧ Avoid id (before ++ between ++ after)

variable {id : Nat} {is js : List Instr}

@[simp] lemma avoid_nil (id : Nat) : Avoid id [] := by simp [Avoid]

@[simp] lemma avoid_cons {i : Instr} : Avoid id (i :: is) ↔ id ∉ i.slotIds ∧ Avoid id is := by
  simp [Avoid]

@[simp] lemma avoid_append : Avoid id (is ++ js) ↔ Avoid id is ∧ Avoid id js := by
  simp [Avoid, or_imp, forall_and]

/-- Instructions that do not name the slot may stand around those that do. -/
lemma StoredThenUsed.around {front back : List Instr} (h : StoredThenUsed id is)
    (hfront : Avoid id front) (hback : Avoid id back) : StoredThenUsed id (front ++ is ++ back) := by
  obtain ⟨before, coerce, between, use, after, rfl, huse, havoid⟩ := h
  simp only [avoid_append] at havoid
  obtain ⟨⟨hbefore, hbetween⟩, hafter⟩ := havoid
  refine ⟨front ++ before, coerce, between, use, after ++ back, by simp, huse, ?_⟩
  simp only [avoid_append]
  exact ⟨⟨⟨hfront, hbefore⟩, hbetween⟩, hafter, hback⟩

end Instr

namespace Block

lemma avoid_of_outside {next : Nat} {e : Expr} {id : Nat}
    (h : id < next ∨ next + (ofExpr next e).slots.length ≤ id) :
    Instr.Avoid id (ofExpr next e).instructions := by
  intro i hi hid
  have hown := mem_slotIds hi hid
  omega

/-- Every slot of a block is stored once and used once in it. -/
theorem storedThenUsed {next : Nat} {e : Expr} {id : Nat} (hle : next ≤ id)
    (hlt : id < next + (ofExpr next e).slots.length) :
    Instr.StoredThenUsed id (ofExpr next e).instructions := by
  induction e generalizing next with
  | literal text => simp only [ofExpr, List.length_nil] at hlt; omega
  | symbol s => simp only [ofExpr, List.length_nil] at hlt; omega
  | raw text => simp only [ofExpr, List.length_nil] at hlt; omega
  | binary op left right ihl ihr =>
    -- the slots are `next`, those of the left block, `second`, and those of the right block
    simp only [ofExpr, List.cons_append, List.length_cons, List.length_append] at hlt ⊢
    set l := ofExpr (next + 1) left with hl
    set second := next + 1 + l.slots.length with hsecond
    set r := ofExpr (second + 1) right with hr
    have hcases : id = next ∨ next < id ∧ id < second ∨ id = second ∨ second < id := by omega
    rcases hcases with rfl | ⟨hnext, hbelow⟩ | hid | habove
    · have hleft : Instr.Avoid id l.instructions := avoid_of_outside (by omega)
      have hright : Instr.Avoid id r.instructions := avoid_of_outside (by omega)
      refine ⟨l.instructions, true, r.instructions ++ [.store second true], .binary op id second, [],
        by simp, by simp [Instr.operands], ?_⟩
      have hne : id ≠ second := by omega
      simp [hleft, hright, Instr.slotIds, hne]
    · have hused : Instr.StoredThenUsed id l.instructions := ihl (by omega) (by omega)
      have hright : Instr.Avoid id r.instructions := avoid_of_outside (by omega)
      have hne : id ≠ next ∧ id ≠ second := by omega
      have hback : Instr.Avoid id
          (.store next true :: r.instructions ++ [.store second true, .binary op next second]) := by
        simp [hright, Instr.slotIds, Instr.operands, hne]
      simpa using hused.around (Instr.avoid_nil id) hback
    · have hleft : Instr.Avoid id l.instructions := avoid_of_outside (by rw [← hl]; omega)
      have hright : Instr.Avoid id r.instructions := avoid_of_outside (by omega)
      refine ⟨l.instructions ++ .store next true :: r.instructions, true, [], .binary op next second,
        [], by simp [hid], by simp [Instr.operands, hid], ?_⟩
      have hne : id ≠ next := by omega
      simp [hleft, hright, Instr.slotIds, hne]
    · have hused : Instr.StoredThenUsed id r.instructions := ihr (by omega) (by rw [← hr]; omega)
      have hleft : Instr.Avoid id l.instructions := avoid_of_outside (by rw [← hl]; omega)
      have hne : id ≠ next ∧ id ≠ second := by omega
      have hfront : Instr.Avoid id (l.instructions ++ [.store next true]) := by
        simp [hleft, Instr.slotIds, hne]
      have hback : Instr.Avoid id [.store second true, .binary op next second] := by
        simp [Instr.slotIds, Instr.operands, hne]
      simpa using hused.around hfront hback
  | call f operand ih =>
    simp only [ofExpr, List.length_cons] at hlt ⊢
    set x := ofExpr (next + 1) operand with hx
    have hcases : id = next ∨ next < id := by omega
    rcases hcases with rfl | hnext
    · have hoperand : Instr.Avoid id x.instructions := avoid_of_outside (by omega)
      exact ⟨x.instructions, false, [], .unary f id, [], by simp, by simp [Instr.operands],
        by simp [hoperand]⟩
    · have hused : Instr.StoredThenUsed id x.instructions := ih (by omega) (by rw [← hx]; omega)
      have hne : id ≠ next := by omega
      have hback : Instr.Avoid id [.store next false, .unary f next] := by
        simp [Instr.slotIds, Instr.operands, hne]
      simpa using hused.around (Instr.avoid_nil id) hback

end Block

/-! ### Kernels -/

namespace Kernel

variable {e : Expr}

/-- The slots of a kernel stand at the places of their numbers. -/
lemma id_of_getElem? {i : Nat} {slot : Slot} (h : (ofExpr e).slots[i]? = some slot) :
    slot.id = i := by
  have hids : (ofExpr e).slots.map (·.id) = List.range' 0 (ofExpr e).slots.length :=
    Block.map_id_slots_ofExpr 0 e
  have hlt : i < (ofExpr e).slots.length := (List.getElem?_eq_some_iff.1 h).1
  have hid : ((ofExpr e).slots.map (·.id))[i]? = some slot.id := by
    rw [List.getElem?_map, h, Option.map_some]
  rw [hids, List.getElem?_range' hlt] at hid
  have := Option.some.inj hid
  omega

lemma getElem?_of_mem {id : Nat} {role : SlotRole} (h : ⟨id, role⟩ ∈ (ofExpr e).slots) :
    (ofExpr e).slots[id]? = some ⟨id, role⟩ := by
  obtain ⟨i, hi⟩ := List.mem_iff_getElem?.1 h
  have hid : id = i := id_of_getElem? hi
  rw [hid] at hi ⊢
  exact hi

/-- A store marks its value as a number just if the slot is an operand of an operator. -/
lemma coerce_eq {id : Nat} {role : SlotRole} {coerce : Bool} (h : ⟨id, role⟩ ∈ (ofExpr e).slots)
    (hstore : .store id coerce ∈ (ofExpr e).instructions) : coerce = role.coerces := by
  have hfits : Instr.Fits (ofExpr e).slots (.store id coerce) := Block.fits_of_mem hstore
  obtain ⟨role', hrole', rfl⟩ := hfits
  have hsame := (getElem?_of_mem hrole').symm.trans (getElem?_of_mem h)
  simp only [Option.some.injEq, Slot.mk.injEq, true_and] at hsame
  rw [hsame]

/-- **The discipline of slots.** The slots of an expression's kernel are numbered in order. There are
two for each operator and one for each function call, and an instruction for each leaf that is not
raw, three for each operator and two for each call. Each slot is stored once and, after that, used
once. An operator's operands stand in order in slots taken for its left and its right operand, and
are marked as numbers when they are stored; a function's argument stands in a slot taken for it, and
is not marked. The primitives are called in the order in which the expression has them, operands
first. -/
theorem slot_discipline (e : Expr) :
    (∀ (i : Nat) (slot : Slot), (ofExpr e).slots[i]? = some slot → slot.id = i) ∧
    (ofExpr e).slotCount = 2 * e.operatorCount + e.callCount ∧
    (ofExpr e).instructions.length = e.loadCount + 3 * e.operatorCount + 2 * e.callCount ∧
    (∀ id < (ofExpr e).slotCount, Instr.StoredThenUsed id (ofExpr e).instructions) ∧
    (∀ op lhs rhs, .binary op lhs rhs ∈ (ofExpr e).instructions → lhs < rhs ∧
      (ofExpr e).slots[lhs]? = some ⟨lhs, .left op⟩ ∧
      (ofExpr e).slots[rhs]? = some ⟨rhs, .right op⟩ ∧
      ∀ coerce, .store lhs coerce ∈ (ofExpr e).instructions ∨
        .store rhs coerce ∈ (ofExpr e).instructions → coerce = true) ∧
    (∀ f arg, .unary f arg ∈ (ofExpr e).instructions →
      (ofExpr e).slots[arg]? = some ⟨arg, .argument f⟩ ∧
      ∀ coerce, .store arg coerce ∈ (ofExpr e).instructions → coerce = false) ∧
    (ofExpr e).calls = e.primitives := by
  refine ⟨fun i slot => id_of_getElem?, Block.length_slots_eq 0 e, Block.length_instructions_eq 0 e,
    fun id hid => ?_, fun op lhs rhs h => ?_, fun f arg h => ?_, Block.filterMap_primitive? 0 e⟩
  · exact Block.storedThenUsed (Nat.zero_le id) (by rw [Nat.zero_add]; exact hid)
  · have hfits : Instr.Fits (ofExpr e).slots (.binary op lhs rhs) := Block.fits_of_mem h
    obtain ⟨hlt, hl, hr⟩ := hfits
    exact ⟨hlt, getElem?_of_mem hl, getElem?_of_mem hr, fun coerce hstore =>
      hstore.elim (coerce_eq hl) (coerce_eq hr)⟩
  · have harg : Instr.Fits (ofExpr e).slots (.unary f arg) := Block.fits_of_mem h
    exact ⟨getElem?_of_mem harg, fun coerce hstore => coerce_eq harg hstore⟩

/-- In `sin z + c` the argument of the function lies between the operands of the sum. -/
theorem slot_discipline_sum :
    .binary .add 0 2 ∈ (ofExpr (.binary .add (.call .sin (.symbol .iterate))
        (.symbol .parameter))).instructions ∧
      (ofExpr (.binary .add (.call .sin (.symbol .iterate)) (.symbol .parameter))).slots[2]? =
        some ⟨2, .right .add⟩ ∧
      Instr.StoredThenUsed 1 (ofExpr (.binary .add (.call .sin (.symbol .iterate))
        (.symbol .parameter))).instructions ∧
      (ofExpr (.binary .add (.call .sin (.symbol .iterate)) (.symbol .parameter))).calls =
        ["compute_sin", "add"] := by
  obtain ⟨-, -, -, hused, hbinary, -, hcalls⟩ :=
    slot_discipline (.binary .add (.call .sin (.symbol .iterate)) (.symbol .parameter))
  have hmem : .binary .add 0 2 ∈ (ofExpr (.binary .add (.call .sin (.symbol .iterate))
      (.symbol .parameter))).instructions := by decide
  exact ⟨hmem, (hbinary .add 0 2 hmem).2.2.1, hused 1 (by decide), hcalls⟩

end Kernel

end EscapeTime
