import EscapeTime.Formula.SyntaxTree
import Mathlib.Data.List.Basic
import Mathlib.Tactic.Common
import Mathlib.Tactic.Ring

namespace EscapeTime

/-!
# Operators and names outside all brackets

The places at which a text may be cut, described by the text before and the text behind them. A
place is outside all brackets when the text before it opens as many as it closes. The operator at
which a text is cut is the last one among the loosest; the name is the last place of the first
function that has one.
-/

/-- The place of a function in the order in which names are tried. -/
def Func.rank (f : Func) : Nat := Func.all.idxOf f

namespace Formula

/-! ### Depth -/

/-- How many more brackets the text opens than it closes. -/
def depth (cs : List Char) : Int := cs.count '(' - cs.count ')'

@[simp] lemma depth_nil : depth [] = 0 := rfl

@[simp] lemma bracketStep_open : bracketStep '(' = 1 := rfl

@[simp] lemma bracketStep_close : bracketStep ')' = -1 := rfl

lemma bracketStep_of_ne {c : Char} (h₁ : c ≠ '(') (h₂ : c ≠ ')') : bracketStep c = 0 := by
  simp [bracketStep, h₁, h₂]

@[simp] lemma depth_append (u v : List Char) : depth (u ++ v) = depth u + depth v := by
  simp only [depth, List.count_append, Nat.cast_add]
  ring

@[simp] lemma depth_cons (c : Char) (cs : List Char) : depth (c :: cs) = bracketStep c + depth cs := by
  unfold depth
  by_cases h₁ : c = '('
  · subst h₁
    rw [List.count_cons_self, List.count_cons_of_ne (by decide), bracketStep_open]
    push_cast
    ring
  · by_cases h₂ : c = ')'
    · subst h₂
      rw [List.count_cons_self, List.count_cons_of_ne (by decide), bracketStep_close]
      push_cast
      ring
    · rw [List.count_cons_of_ne h₁, List.count_cons_of_ne h₂, bracketStep_of_ne h₁ h₂, zero_add]

lemma depth_eq_zero_iff {cs : List Char} : depth cs = 0 ↔ cs.count '(' = cs.count ')' := by
  unfold depth
  omega

lemma depth_eq_zero {cs : List Char} (h : ∀ c ∈ cs, c ≠ '(' ∧ c ≠ ')') : depth cs = 0 := by
  rw [depth_eq_zero_iff, List.count_eq_zero.2 fun hc => (h _ hc).1 rfl,
    List.count_eq_zero.2 fun hc => (h _ hc).2 rfl]

@[simp] lemma bracketStep_symbol (op : Operator) : bracketStep op.symbol = 0 := by
  cases op <;> rfl

@[simp] lemma depth_letters (f : Func) : depth f.letters = 0 := by
  cases f <;> rfl

/-! ### Places -/

lemma mem_placesFrom {d : Int} {k : Nat} {before : Option Char} {cs : List Char} {p : Place} :
    p ∈ placesFrom d k before cs ↔
      ∃ u v, v ≠ [] ∧ cs = u ++ v ∧ d + depth u = 0 ∧
        p = ⟨k + u.length, u.getLast?.or before, v⟩ := by
  induction cs generalizing d k before with
  | nil =>
    simp only [placesFrom, List.not_mem_nil, false_iff]
    rintro ⟨u, v, hv, huv, -⟩
    exact hv (List.append_eq_nil_iff.1 huv.symm).2
  | cons c rest ih =>
    have hlater : p ∈ placesFrom (d + bracketStep c) (k + 1) (some c) rest ↔
        ∃ u v, v ≠ [] ∧ rest = u ++ v ∧ d + depth (c :: u) = 0 ∧
          p = ⟨k + (c :: u).length, (c :: u).getLast?.or before, v⟩ := by
      rw [ih]
      refine exists_congr fun u => exists_congr fun v => ?_
      rw [depth_cons, List.length_cons, List.getLast?_cons, Int.add_assoc,
        show k + 1 + u.length = k + (u.length + 1) by omega]
      cases u.getLast? <;> simp
    have hsplit : p ∈ placesFrom d k before (c :: rest) ↔
        (d = 0 ∧ p = ⟨k, before, c :: rest⟩) ∨
          p ∈ placesFrom (d + bracketStep c) (k + 1) (some c) rest := by
      by_cases hd : d = 0 <;> simp [placesFrom, hd]
    rw [hsplit, hlater]
    constructor
    · rintro (⟨rfl, rfl⟩ | ⟨u, v, hv, rfl, hd, rfl⟩)
      · exact ⟨[], c :: rest, by simp, rfl, by simp, by simp⟩
      · exact ⟨c :: u, v, hv, rfl, hd, rfl⟩
    · rintro ⟨u, v, hv, huv, hd, rfl⟩
      cases u with
      | nil => exact .inl ⟨by simpa using hd, by simpa using huv.symm⟩
      | cons x u =>
        obtain ⟨rfl, rfl⟩ := List.cons.inj huv
        exact .inr ⟨u, v, hv, rfl, hd, rfl⟩

lemma mem_places {cs : List Char} {p : Place} :
    p ∈ places cs ↔
      ∃ u v, v ≠ [] ∧ cs = u ++ v ∧ depth u = 0 ∧ p = ⟨u.length, u.getLast?, v⟩ := by
  simp [places, mem_placesFrom]

lemma pairwise_placesFrom (d : Int) (k : Nat) (before : Option Char) (cs : List Char) :
    (placesFrom d k before cs).Pairwise (·.position < ·.position) := by
  induction cs generalizing d k before with
  | nil => exact .nil
  | cons c rest ih =>
    rw [placesFrom]
    split
    · refine List.pairwise_cons.2 ⟨fun p hp => ?_, ih ..⟩
      have := (placesFrom_bounds hp).1
      simp only
      omega
    · exact ih ..

/-! ### Searching ordered lists -/

section Search

variable {α β : Type} {key : α → Nat} {l : List α}

/-- The last entry of a list with ascending keys has the greatest key. -/
lemma greatest_of_getLast? (hl : l.Pairwise (key · < key ·)) {a : α} (h : l.getLast? = some a) :
    a ∈ l ∧ ∀ b ∈ l, key b ≤ key a := by
  obtain ⟨front, rfl⟩ := List.getLast?_eq_some_iff.1 h
  refine ⟨by simp, fun b hb => ?_⟩
  rcases List.mem_append.1 hb with hb | hb
  · exact le_of_lt ((List.pairwise_append.1 hl).2.2 b hb a (by simp))
  · rw [List.mem_singleton.1 hb]

/-- Where a list with ascending keys is searched, no entry with a smaller key was a hit. -/
lemma least_of_findSome? (hl : l.Pairwise (key · < key ·)) {f : α → Option β} {b : β}
    (h : l.findSome? f = some b) :
    ∃ a ∈ l, f a = some b ∧ ∀ a' ∈ l, key a' < key a → f a' = none := by
  obtain ⟨front, a, back, rfl, ha, hfront⟩ := List.findSome?_eq_some_iff.1 h
  refine ⟨a, by simp, ha, fun a' ha' hlt => ?_⟩
  rcases List.mem_append.1 ha' with hmem | hmem
  · exact hfront a' hmem
  · -- behind the hit all keys are greater
    have hle : key a ≤ key a' := by
      rcases List.mem_cons.1 hmem with rfl | hback
      · exact le_refl _
      · exact le_of_lt ((List.pairwise_cons.1 (List.pairwise_append.1 hl).2.1).1 a' hback)
    omega

end Search

/-- A character of two joined texts belongs to the first or to the second. -/
lemma eq_append_of_append_cons {u v a b : List Char} {c : Char} (h : u ++ v = a ++ c :: b) :
    (∃ t, u = a ++ c :: t ∧ b = t ++ v) ∨ ∃ t, a = u ++ t ∧ v = t ++ c :: b := by
  rcases List.append_eq_append_iff.1 h with ⟨t, rfl, rfl⟩ | ⟨t, rfl, ht⟩
  · exact .inr ⟨t, rfl, rfl⟩
  · cases t with
    | nil => exact .inr ⟨[], by simp, by simpa using ht.symm⟩
    | cons d t =>
      obtain ⟨rfl, rfl⟩ := List.cons.inj ht
      exact .inl ⟨t, rfl, rfl⟩

/-! ### Operators -/

/-- The operator `op` stands at position `k`, outside all brackets; a minus there is no sign. -/
def OperatorAt (cs : List Char) (k : Nat) (op : Operator) : Prop :=
  ∃ u v, cs = u ++ op.symbol :: v ∧ u.length = k ∧ depth u = 0 ∧
    (op = .sub → startsOperand u.getLast? = false)

lemma symbol_injective {op op' : Operator} (h : op.symbol = op'.symbol) : op = op' := by
  cases op <;> cases op' <;> first | rfl | exact absurd h (by decide)

lemma ofSymbol?_eq_some_iff {c : Char} {op : Operator} :
    Operator.ofSymbol? c = some op ↔ op.symbol = c := by
  constructor
  · intro h
    simpa using List.find?_some h
  · rintro rfl
    cases op <;> rfl

lemma symbol_eq_minus_iff {op : Operator} : op.symbol = '-' ↔ op = .sub := by
  cases op <;> simp [Operator.symbol]

lemma operator?_eq_some_iff {p : Place} {op : Operator} :
    p.operator? = some op ↔
      ∃ v, p.rest = op.symbol :: v ∧ (op = .sub → startsOperand p.before = false) := by
  unfold Place.operator?
  cases p.rest with
  | nil => simp
  | cons c rest =>
    simp only [List.cons.injEq]
    split
    · rename_i h
      obtain ⟨rfl, hb⟩ : c = '-' ∧ startsOperand p.before = true := by simpa using h
      simp only [reduceCtorEq, false_iff]
      rintro ⟨v, ⟨hc, -⟩, hop⟩
      rw [hop (symbol_eq_minus_iff.1 hc.symm)] at hb
      cases hb
    · rename_i h
      rw [ofSymbol?_eq_some_iff]
      constructor
      · rintro rfl
        exact ⟨rest, ⟨rfl, rfl⟩, fun hop => by simpa [symbol_eq_minus_iff.2 hop] using h⟩
      · rintro ⟨v, ⟨hc, -⟩, -⟩
        exact hc.symm

lemma mem_operators {cs : List Char} {k : Nat} {op : Operator} :
    (k, op) ∈ operators cs ↔ OperatorAt cs k op := by
  simp only [operators, List.mem_filterMap, Option.map_eq_some_iff, Prod.mk.injEq]
  constructor
  · rintro ⟨p, hp, op', hop, rfl, rfl⟩
    obtain ⟨u, v, -, rfl, hu, rfl⟩ := mem_places.1 hp
    obtain ⟨v, rfl, hs⟩ := operator?_eq_some_iff.1 hop
    exact ⟨u, v, rfl, rfl, hu, hs⟩
  · rintro ⟨u, v, rfl, rfl, hu, hs⟩
    refine ⟨⟨u.length, u.getLast?, op.symbol :: v⟩, mem_places.2 ⟨u, _, by simp, rfl, hu, rfl⟩, op,
      operator?_eq_some_iff.2 ⟨v, rfl, hs⟩, rfl, rfl⟩

lemma OperatorAt.unique {cs : List Char} {k : Nat} {op op' : Operator} (h : OperatorAt cs k op)
    (h' : OperatorAt cs k op') : op = op' := by
  obtain ⟨u, v, rfl, rfl, -⟩ := h
  obtain ⟨u', v', hcs, hlen, -⟩ := h'
  exact symbol_injective (List.cons.inj (List.append_inj hcs hlen.symm).2).1

lemma OperatorAt.symbol_mem {cs : List Char} {k : Nat} {op : Operator} (h : OperatorAt cs k op) :
    op.symbol ∈ cs := by
  obtain ⟨u, v, rfl, -⟩ := h
  simp

lemma OperatorAt.lt_length {cs : List Char} {k : Nat} {op : Operator} (h : OperatorAt cs k op) :
    k < cs.length := by
  obtain ⟨u, v, rfl, rfl, -⟩ := h
  simp

/-- At the start of a text a minus is a sign. -/
lemma OperatorAt.ne_zero {cs : List Char} {k : Nat} (h : OperatorAt cs k .sub) : k ≠ 0 := by
  obtain ⟨u, v, rfl, rfl, -, hs⟩ := h
  intro hu
  rw [List.length_eq_zero_iff.1 hu] at hs
  exact absurd (hs rfl) (by decide)

section Append

variable {u v : List Char} {k : Nat} {op : Operator}

lemma OperatorAt.append_right (h : OperatorAt u k op) (v : List Char) :
    OperatorAt (u ++ v) k op := by
  obtain ⟨a, b, rfl, rfl, ha, hs⟩ := h
  exact ⟨a, b ++ v, by simp, rfl, ha, hs⟩

lemma OperatorAt.append_left (hu : depth u = 0) (h : OperatorAt v k op) :
    OperatorAt (u ++ v) (u.length + k) op := by
  have hstart : op = .sub → k ≠ 0 := by
    rintro rfl
    exact h.ne_zero
  obtain ⟨a, b, rfl, rfl, ha, hs⟩ := h
  refine ⟨u ++ a, b, by simp, by simp, by simp [hu, ha], fun hop => ?_⟩
  -- the minus has a character of `v` before it
  cases hlast : a.getLast? with
  | none => exact absurd (by simp [List.getLast?_eq_none_iff.1 hlast]) (hstart hop)
  | some c => simpa [List.getLast?_append, hlast] using hs hop

/-- An operator of two joined texts is one of the first or one of the second, unless it is a minus
where they meet. -/
lemma OperatorAt.of_append (hu : depth u = 0) (h : OperatorAt (u ++ v) k op) :
    OperatorAt u k op ∨ ∃ i, k = u.length + i ∧ (OperatorAt v i op ∨
      i = 0 ∧ op = .sub ∧ v.head? = some '-' ∧ startsOperand u.getLast? = false) := by
  obtain ⟨a, b, hab, rfl, ha, hs⟩ := h
  rcases eq_append_of_append_cons hab with ⟨t, rfl, -⟩ | ⟨t, rfl, rfl⟩
  · exact .inl ⟨a, t, rfl, rfl, ha, hs⟩
  · right
    rw [depth_append, hu, zero_add] at ha
    refine ⟨t.length, by simp, ?_⟩
    cases t with
    | nil =>
      by_cases hop : op = .sub
      · subst hop
        exact .inr ⟨rfl, rfl, rfl, by simpa using hs rfl⟩
      · exact .inl ⟨[], b, rfl, rfl, rfl, fun h => absurd h hop⟩
    | cons c t =>
      refine .inl ⟨c :: t, b, rfl, rfl, ha, fun hop => ?_⟩
      simpa [List.getLast?_append, List.getLast?_cons] using hs hop

end Append

/-- The operator at which a text is cut: among those that bind most loosely, the last. -/
structure RootOperator (cs : List Char) (k : Nat) (op : Operator) : Prop where
  stands : OperatorAt cs k op
  loosest : ∀ j op', OperatorAt cs j op' → op.precedence ≤ op'.precedence
  last : ∀ j op', OperatorAt cs j op' → op'.precedence = op.precedence → j ≤ k

lemma pairwise_operators (cs : List Char) : (operators cs).Pairwise (·.1 < ·.1) := by
  refine List.Pairwise.filterMap _ ?_ (pairwise_placesFrom 0 0 none cs)
  intro p q hpq a ha b hb
  obtain ⟨-, -, rfl⟩ := Option.map_eq_some_iff.1 ha
  obtain ⟨-, -, rfl⟩ := Option.map_eq_some_iff.1 hb
  exact hpq

lemma precedence_mem (op : Operator) : op.precedence ∈ Operator.precedences := by
  cases op <;> decide

lemma rootOperator?_eq_none_iff {cs : List Char} :
    rootOperator? cs = none ↔ ∀ k op, ¬ OperatorAt cs k op := by
  simp only [rootOperator?, List.findSome?_eq_none_iff, List.getLast?_eq_none_iff,
    List.filter_eq_nil_iff]
  constructor
  · intro h k op hop
    exact h _ (precedence_mem op) (k, op) (mem_operators.2 hop) (by simp)
  · rintro h t - ⟨k, op⟩ hmem
    exact absurd (mem_operators.1 hmem) (h k op)

lemma rootOperator_of_rootOperator? {cs : List Char} {k : Nat} {op : Operator}
    (h : rootOperator? cs = some (k, op)) : RootOperator cs k op := by
  unfold rootOperator? at h
  have hsorted : Operator.precedences.Pairwise (id · < id ·) := by decide
  obtain ⟨t, -, ht, hless⟩ := least_of_findSome? hsorted h
  obtain ⟨hmem, hlast⟩ := greatest_of_getLast? ((pairwise_operators cs).filter _) ht
  obtain ⟨hmem, hop⟩ := List.mem_filter.1 hmem
  have hop : op.precedence = t := by simpa using hop
  refine ⟨mem_operators.1 hmem, fun j op' h' => ?_, fun j op' h' heq => ?_⟩
  · -- an operator that binds more loosely would have been found in an earlier round
    by_contra hlt
    have hnil := hless op'.precedence (precedence_mem op') (by simp only [id]; omega)
    rw [List.getLast?_eq_none_iff, List.filter_eq_nil_iff] at hnil
    exact hnil _ (mem_operators.2 h') (by simp)
  · exact hlast (j, op') (List.mem_filter.2 ⟨mem_operators.2 h', by simp [heq, hop]⟩)

theorem rootOperator?_eq_some_iff {cs : List Char} {k : Nat} {op : Operator} :
    rootOperator? cs = some (k, op) ↔ RootOperator cs k op := by
  refine ⟨rootOperator_of_rootOperator?, fun h => ?_⟩
  cases hroot : rootOperator? cs with
  | none => exact absurd h.stands (rootOperator?_eq_none_iff.1 hroot k op)
  | some r =>
    obtain ⟨j, op'⟩ := r
    have h' := rootOperator_of_rootOperator? hroot
    have hprec : op.precedence = op'.precedence :=
      le_antisymm (h.loosest _ _ h'.stands) (h'.loosest _ _ h.stands)
    have hpos : k = j :=
      le_antisymm (h'.last _ _ h.stands hprec) (h.last _ _ h'.stands hprec.symm)
    subst hpos
    rw [h.stands.unique h'.stands]

/-! ### Names -/

/-- The name of `f` stands at position `k`, outside all brackets. -/
def NameAt (cs : List Char) (k : Nat) (f : Func) : Prop :=
  ∃ u v, cs = u ++ (f.letters ++ v) ∧ u.length = k ∧ depth u = 0

lemma NameAt.subset {cs : List Char} {j : Nat} {f : Func} (h : NameAt cs j f) : f.letters ⊆ cs := by
  obtain ⟨u, v, rfl, -⟩ := h
  intro c hc
  simp [hc]

/-- The name at which a text is cut: the last place of the first function that has one. -/
structure RootName (cs : List Char) (k : Nat) (f : Func) : Prop where
  stands : NameAt cs k f
  first : ∀ j g, NameAt cs j g → f.rank ≤ g.rank
  last : ∀ j, NameAt cs j f → j ≤ k

lemma rank_injective {f g : Func} (h : f.rank = g.rank) : f = g := by
  revert h
  cases f <;> cases g <;> decide

lemma mem_all (f : Func) : f ∈ Func.all := by
  cases f <;> decide

lemma nameAt_of_mem {cs : List Char} {f : Func} {p : Place}
    (h : p ∈ (places cs).filter (f.letters.isPrefixOf ·.rest)) : NameAt cs p.position f := by
  obtain ⟨hp, hpre⟩ := List.mem_filter.1 h
  obtain ⟨u, v, -, rfl, hu, rfl⟩ := mem_places.1 hp
  obtain ⟨t, rfl⟩ := List.isPrefixOf_iff_prefix.1 hpre
  exact ⟨u, t, rfl, rfl, hu⟩

lemma NameAt.exists_mem {cs : List Char} {k : Nat} {f : Func} (h : NameAt cs k f) :
    ∃ p ∈ (places cs).filter (f.letters.isPrefixOf ·.rest), p.position = k := by
  obtain ⟨u, v, rfl, rfl, hu⟩ := h
  refine ⟨⟨u.length, u.getLast?, f.letters ++ v⟩, List.mem_filter.2 ⟨mem_places.2 ⟨u, _, ?_, rfl,
    hu, rfl⟩, List.isPrefixOf_iff_prefix.2 (List.prefix_append _ _)⟩, rfl⟩
  exact List.append_ne_nil_of_left_ne_nil (List.ne_nil_of_length_pos (letters_length_pos f)) v

lemma rootFunc?_eq_none_iff {cs : List Char} :
    rootFunc? cs = none ↔ ∀ k f, ¬ NameAt cs k f := by
  simp only [rootFunc?, List.findSome?_eq_none_iff, Option.map_eq_none_iff,
    List.getLast?_eq_none_iff]
  constructor
  · intro h k f hf
    obtain ⟨p, hp, -⟩ := hf.exists_mem
    simp [h f (mem_all f)] at hp
  · intro h f _
    exact List.eq_nil_iff_forall_not_mem.2 fun p hp => h _ f (nameAt_of_mem hp)

lemma rootName_of_rootFunc? {cs : List Char} {k : Nat} {f : Func}
    (h : rootFunc? cs = some (k, f)) : RootName cs k f := by
  unfold rootFunc? at h
  have hsorted : Func.all.Pairwise (Func.rank · < Func.rank ·) := by decide
  obtain ⟨f', -, hf, hless⟩ := least_of_findSome? hsorted h
  obtain ⟨p, hp, hpair⟩ := Option.map_eq_some_iff.1 hf
  obtain ⟨rfl, rfl⟩ := Prod.mk.inj hpair
  obtain ⟨hmem, hlast⟩ := greatest_of_getLast? ((pairwise_placesFrom 0 0 none cs).filter _) hp
  refine ⟨nameAt_of_mem hmem, fun j g hg => ?_, fun j hj => ?_⟩
  · by_contra hlt
    have hnil := hless g (mem_all g) (by omega)
    rw [Option.map_eq_none_iff, List.getLast?_eq_none_iff] at hnil
    obtain ⟨q, hq, -⟩ := hg.exists_mem
    simp [hnil] at hq
  · obtain ⟨q, hq, rfl⟩ := hj.exists_mem
    exact hlast q hq

theorem rootFunc?_eq_some_iff {cs : List Char} {k : Nat} {f : Func} :
    rootFunc? cs = some (k, f) ↔ RootName cs k f := by
  refine ⟨rootName_of_rootFunc?, fun h => ?_⟩
  cases hroot : rootFunc? cs with
  | none => exact absurd h.stands (rootFunc?_eq_none_iff.1 hroot k f)
  | some r =>
    obtain ⟨j, g⟩ := r
    have h' := rootName_of_rootFunc? hroot
    obtain rfl : f = g :=
      rank_injective (le_antisymm (h.first _ _ h'.stands) (h'.first _ _ h.stands))
    rw [le_antisymm (h'.last _ h.stands) (h.last _ h'.stands)]

end Formula

end EscapeTime
