import EscapeTime.Proofs.Formula.Root
import Mathlib.Data.List.MinMax

namespace EscapeTime

/-!
# Cutting a span in place

To cut a span its text is taken out and looked at. The cut can also be found where the span stands:
the characters are looked up in the whole text by their positions, in one scan of the span for each
operator and each name. A look-up where the text has no character is an error. None is made in a
span of the text, and the cut that is found is the one of the text taken out.

A scan keeps the number of open brackets as an integer without bounds. It is at most the number of
characters scanned, so that a word of 32 bits would hold it in any text of fewer than 2^31 of them.
-/

/-- A look-up for which the text has no place. -/
inductive BadAccess
  /-- There is no character at the position. -/
  | index (position : Nat)
  /-- The range ends before it starts, or behind the end of the text. -/
  | range (start stop : Nat)
  /-- There is no position before the first. -/
  | underflow
  deriving DecidableEq, Repr

/-- What is done with a span. -/
inductive Cut
  | operator (position : Nat) (op : Operator)
  | name (position : Nat) (func : Func)
  | brackets (inner : Span)
  | leaf
  deriving DecidableEq, Repr

/-- The spans that a cut of `s` leaves to be read, from left to right. -/
def Cut.parts (s : Span) : Cut → List Span
  | operator position _ => [⟨s.start, position⟩, ⟨position + 1, s.stop⟩]
  | name position func => [⟨position + func.letters.length, s.stop⟩]
  | brackets inner => [inner]
  | leaf => []

/-- The first cut of a tree. -/
def SyntaxTree.root : SyntaxTree → Cut
  | binary _ position op _ _ => .operator position op
  | call _ position func _ => .name position func
  | group s _ => .brackets (inside s)
  | leaf _ => .leaf

/-- The spans that a cut leaves lie inside the span that is cut, and are shorter. -/
lemma SyntaxTree.Covers.part {w : List Char} {s : Span} {t : SyntaxTree} (h : Covers w s t) :
    ∀ part ∈ t.root.parts s, s.start ≤ part.start ∧ part.start ≤ part.stop ∧
      part.stop ≤ s.stop ∧ part.length < s.length := by
  intro part hpart
  cases h with
  | binary hstart hstop =>
    simp only [root, Cut.parts, List.mem_cons, List.not_mem_nil, or_false] at hpart
    rcases hpart with rfl | rfl <;> simp only [Span.length] <;> omega
  | @call _ _ f _ hstart hstop =>
    have := Formula.letters_length_pos f
    obtain rfl := List.mem_singleton.1 hpart
    simp only [Span.length]
    omega
  | group hlt =>
    obtain rfl := List.mem_singleton.1 hpart
    simp only [inside, Span.length]
    omega
  | leaf => exact absurd hpart List.not_mem_nil

namespace InPlace

open Formula SyntaxTree

/-! ### Look-ups -/

def charAt (w : List Char) (j : Nat) : Except BadAccess Char :=
  match w[j]? with
  | some c => .ok c
  | none => .error (.index j)

def textAt (w : List Char) (s : Span) : Except BadAccess (List Char) :=
  if s.start ≤ s.stop ∧ s.stop ≤ w.length then .ok (s.slice w) else .error (.range s.start s.stop)

def before : Nat → Except BadAccess Nat
  | 0 => .error .underflow
  | j + 1 => .ok j

/-- Whether the word stands at the position and ends at `stop` at the latest. -/
def standsAt (w : List Char) (stop : Nat) (word : List Char) (j : Nat) : Except BadAccess Bool :=
  if j + word.length ≤ stop then return (← textAt w ⟨j, j + word.length⟩) == word
  else return false

/-- Whether the word is a minus that is the sign of an operand. -/
def isSign (w : List Char) (s : Span) (word : List Char) (j : Nat) : Except BadAccess Bool :=
  if word == ['-'] then
    if j == s.start then return true
    else return startsOperand (some (← charAt w (← before j)))
  else return false

/-- Whether the span may be cut at the word at the position, where `level` brackets are open. -/
def isHit (w : List Char) (s : Span) (word : List Char) (j : Nat) (level : Int) :
    Except BadAccess Bool :=
  if level == 0 then do
    if ← standsAt w s.stop word j then return !(← isSign w s word j)
    else return false
  else return false

/-! ### Scans -/

/-- Scans `n` positions from `j` on; `last` is the last hit so far. -/
def scanFrom (w : List Char) (s : Span) (word : List Char) :
    (n j : Nat) → (level : Int) → (last : Option Nat) → Except BadAccess (Option Nat)
  | 0, _, _, last => return last
  | n + 1, j, level, last => do
    let hit ← isHit w s word j level
    let c ← charAt w j
    scanFrom w s word n (j + 1) (level + bracketStep c) (if hit then some j else last)

/-- The last position at which the span may be cut at the word. -/
def lastHit (w : List Char) (s : Span) (word : List Char) : Except BadAccess (Option Nat) :=
  scanFrom w s word s.length s.start 0 none

/-- The last operator among those of one precedence, no two of which stand at one position. -/
def lastOfTier (w : List Char) (s : Span) (t : Nat) :
    Except BadAccess (Option (Nat × Operator)) := do
  let hits ← (Operator.all.filter (·.precedence == t)).mapM fun op => do
    return (← lastHit w s [op.symbol]).map (·, op)
  return (hits.filterMap id).argmax (·.1)

/-- The operator at which the span is cut. -/
def operatorIn (w : List Char) (s : Span) : Except BadAccess (Option (Nat × Operator)) :=
  Operator.precedences.findSomeM? (lastOfTier w s)

/-- The name behind which the span is cut. -/
def nameIn (w : List Char) (s : Span) : Except BadAccess (Option (Nat × Func)) :=
  Func.all.findSomeM? fun f => do return (← lastHit w s f.letters).map (·, f)

/-- What is to be done with the span. -/
def cutAt (w : List Char) (s : Span) : Except BadAccess Cut := do
  -- the account quotes the span's text before anything else is done
  let _ ← textAt w s
  match ← operatorIn w s with
  | some (position, op) => return .operator position op
  | none =>
    match ← nameIn w s with
    | some (position, f) => return .name position f
    | none =>
      if s.isEmpty then return .leaf
      else if (← charAt w s.start) == '(' then
        return .brackets ⟨s.start + 1, max (← before s.stop) (s.start + 1)⟩
      else return .leaf

/-! ### No look-up fails -/

section LookUp

variable {w : List Char} {s : Span} {j : Nat}

lemma charAt_of_lt (h : j < w.length) : charAt w j = pure w[j] := by
  rw [charAt, List.getElem?_eq_getElem h]
  rfl

lemma textAt_of_le (hle : s.start ≤ s.stop) (hw : s.stop ≤ w.length) :
    textAt w s = pure (s.slice w) :=
  if_pos ⟨hle, hw⟩

lemma standsAt_spec {stop : Nat} (word : List Char) (j : Nat) (hw : stop ≤ w.length) :
    ∃ b, standsAt w stop word j = pure b ∧
      (b = true ↔ j + word.length ≤ stop ∧ word <+: w.drop j) := by
  by_cases hstop : j + word.length ≤ stop
  · refine ⟨(⟨j, j + word.length⟩ : Span).slice w == word, ?_, ?_⟩
    · rw [standsAt, if_pos hstop, textAt_of_le (by simp only; omega) (hstop.trans hw), pure_bind]
    · rw [beq_iff_eq, List.prefix_iff_eq_take]
      simp only [Span.slice, Span.length, Nat.add_sub_cancel_left, hstop, true_and, eq_comm]
  · exact ⟨false, by rw [standsAt, if_neg hstop], by simp [hstop]⟩

/-- What precedes a minus is looked up behind the start of the span only. -/
lemma isSign_spec (word : List Char) (hj : s.start ≤ j) (hw : j < w.length) :
    ∃ b, isSign w s word j = pure b ∧ (b = true ↔ word = ['-'] ∧
      (j = s.start ∨ ∃ c ∈ ['(', '+', '*', '/', '^'], w[j - 1]? = some c)) := by
  by_cases hword : word = ['-']
  swap
  · exact ⟨false, by simp [isSign, hword], by simp [hword]⟩
  by_cases hstart : j = s.start
  · exact ⟨true, by simp [isSign, hword, hstart], by simp [hword, hstart]⟩
  · obtain ⟨i, rfl⟩ : ∃ i, j = i + 1 := Nat.exists_eq_succ_of_ne_zero (by omega)
    have hi : i < w.length := by omega
    refine ⟨startsOperand (some w[i]), ?_, ?_⟩
    · have hbefore : before (i + 1) = pure i := rfl
      simp [isSign, hword, hstart, hbefore, charAt_of_lt hi]
    · simp [hword, hstart, startsOperand, List.getElem?_eq_getElem hi]

end LookUp

/-! ### What a scan finds -/

/-- The positions at which the span may be cut at the word. -/
def wordPlaces (w : List Char) (s : Span) (word : List Char) : Set Nat :=
  {j | s.start ≤ j ∧ j < s.stop ∧ (j + word.length ≤ s.stop ∧ word <+: w.drop j) ∧ Level w s j ∧
    ¬ (word = ['-'] ∧ SignAt w s j)}

/-- The position is the last of the set, if the set has any. -/
def IsLast (places : Set Nat) : Option Nat → Prop
  | none => places = ∅
  | some p => IsGreatest places p

lemma IsLast.unique {places : Set Nat} {a b : Option Nat} (ha : IsLast places a)
    (hb : IsLast places b) : a = b := by
  cases a with
  | none =>
    cases b with
    | none => rfl
    | some q => exact absurd (ha ▸ hb.1) (Set.notMem_empty q)
  | some p =>
    cases b with
    | none => exact absurd (hb ▸ ha.1) (Set.notMem_empty p)
    | some q => rw [IsGreatest.unique ha hb]

lemma IsLast.exists_ge {places : Set Nat} {last : Option Nat} (h : IsLast places last) {j : Nat}
    (hj : j ∈ places) : ∃ p, last = some p ∧ j ≤ p := by
  cases last with
  | none => exact absurd (h ▸ hj) (Set.notMem_empty j)
  | some p => exact ⟨p, rfl, h.2 hj⟩

/-- One more position is looked at. -/
lemma IsLast.step {places : Set Nat} {j : Nat} {last : Option Nat} {hit : Bool}
    (h : IsLast (places ∩ Set.Iio j) last) (hhit : hit = true ↔ j ∈ places) :
    IsLast (places ∩ Set.Iio (j + 1)) (if hit then some j else last) := by
  by_cases hj : j ∈ places
  · rw [if_pos (hhit.2 hj)]
    exact ⟨⟨hj, Nat.lt_succ_self j⟩, fun i hi => Nat.lt_succ_iff.1 hi.2⟩
  · have hsame : places ∩ Set.Iio (j + 1) = places ∩ Set.Iio j := by
      ext i
      refine and_congr_right fun hi => ?_
      have hne : i ≠ j := by rintro rfl; exact hj hi
      simp only [Set.mem_Iio]
      omega
    rw [if_neg (mt hhit.1 hj), hsame]
    exact h

/-- The last entry of a list with ascending keys has the last of the positions that they give. -/
lemma isLast_getLast? {α : Type} {key : α → Nat} {l : List α} (hl : l.Pairwise (key · < key ·))
    {places : Set Nat} {start : Nat} (hplaces : ∀ j, j ∈ places ↔ ∃ a ∈ l, j = start + key a) :
    IsLast places (l.getLast?.map (start + key ·)) := by
  cases hlast : l.getLast? with
  | none =>
    refine Set.eq_empty_iff_forall_notMem.2 fun j hj => ?_
    obtain ⟨a, ha, -⟩ := (hplaces j).1 hj
    rw [List.getLast?_eq_none_iff.1 hlast] at ha
    exact absurd ha List.not_mem_nil
  | some a =>
    obtain ⟨ha, hgreatest⟩ := greatest_of_getLast? hl hlast
    refine ⟨(hplaces _).2 ⟨a, ha, rfl⟩, fun j hj => ?_⟩
    obtain ⟨b, hb, rfl⟩ := (hplaces j).1 hj
    exact Nat.add_le_add_left (hgreatest b hb) start

section Scan

variable {w : List Char} {s : Span} {word : List Char}

/-- A minus that stands at the position is a sign by what is before it. -/
lemma signAt_iff {j : Nat} (h : word <+: w.drop j) :
    word = ['-'] ∧ SignAt w s j ↔ word = ['-'] ∧
      (j = s.start ∨ ∃ c ∈ ['(', '+', '*', '/', '^'], w[j - 1]? = some c) := by
  refine and_congr_right fun hword => and_iff_right ?_
  obtain ⟨rest, hrest⟩ := h
  rw [← List.head?_drop, ← hrest, hword]
  rfl

lemma isHit_spec (word : List Char) (hw : s.stop ≤ w.length) {j : Nat} (hstart : s.start ≤ j)
    (hstop : j < s.stop) :
    ∃ b, isHit w s word j (depth ((⟨s.start, j⟩ : Span).slice w)) = pure b ∧
      (b = true ↔ j ∈ wordPlaces w s word) := by
  obtain ⟨stands, hstands, hstands_iff⟩ := standsAt_spec word j hw
  obtain ⟨sign, hsign, hsign_iff⟩ := isSign_spec word hstart (Nat.lt_of_lt_of_le hstop hw)
  have hlevel : Level w s j ↔ depth ((⟨s.start, j⟩ : Span).slice w) = 0 := depth_eq_zero_iff.symm
  have hplaces : j ∈ wordPlaces w s word ↔
      depth ((⟨s.start, j⟩ : Span).slice w) = 0 ∧ stands = true ∧ sign = false := by
    rw [← hlevel, ← Bool.not_eq_true sign, hstands_iff, hsign_iff]
    constructor
    · rintro ⟨-, -, hword, hlevel, hnot⟩
      exact ⟨hlevel, hword, mt (signAt_iff hword.2).2 hnot⟩
    · rintro ⟨hlevel, hword, hnot⟩
      exact ⟨hstart, hstop, hword, hlevel, mt (signAt_iff hword.2).1 hnot⟩
  by_cases hzero : depth ((⟨s.start, j⟩ : Span).slice w) = 0
  · refine ⟨stands && !sign, ?_, by simp [hplaces, hzero]⟩
    cases stands <;> simp [isHit, hzero, hstands, hsign]
  · exact ⟨false, by simp [isHit, hzero], by simp [hplaces, hzero]⟩

lemma depth_slice_succ {j : Nat} (hstart : s.start ≤ j) (hw : j < w.length) :
    depth ((⟨s.start, j + 1⟩ : Span).slice w) =
      depth ((⟨s.start, j⟩ : Span).slice w) + bracketStep w[j] := by
  have hchar : w[s.start + (j - s.start)]? = some w[j] := by
    rw [Nat.add_sub_cancel' hstart, List.getElem?_eq_getElem hw]
  simp only [Span.slice, Span.length]
  rw [Nat.sub_add_comm hstart, List.take_add_one, List.getElem?_drop, hchar]
  simp

/-- A scan from `j` on goes through, and if it is told the last hit before `j` it finds the last of
all. -/
lemma scanFrom_spec (word : List Char) (hw : s.stop ≤ w.length) {n j : Nat} {last : Option Nat}
    (hstart : s.start ≤ j) (hn : j + n = s.stop)
    (hlast : IsLast (wordPlaces w s word ∩ Set.Iio j) last) :
    ∃ r, scanFrom w s word n j (depth ((⟨s.start, j⟩ : Span).slice w)) last = pure r ∧
      IsLast (wordPlaces w s word) r := by
  -- on the positions that are left; what is before `j` is in `last` and in the level
  induction n generalizing j last with
  | zero =>
    have hall : wordPlaces w s word ∩ Set.Iio j = wordPlaces w s word := by
      refine Set.inter_eq_left.2 fun i hi => ?_
      have := hi.2.1
      simp only [Set.mem_Iio]
      omega
    exact ⟨last, rfl, hall ▸ hlast⟩
  | succ n ih =>
    have hj : j < w.length := by omega
    obtain ⟨hit, hhit, hhit_iff⟩ := isHit_spec word hw hstart (show j < s.stop by omega)
    obtain ⟨r, hr, hrlast⟩ := ih (show s.start ≤ j + 1 by omega) (by omega) (hlast.step hhit_iff)
    refine ⟨r, ?_, hrlast⟩
    rw [scanFrom, hhit, charAt_of_lt hj, pure_bind, pure_bind, ← depth_slice_succ hstart hj, hr]

lemma lastHit_spec (word : List Char) (hle : s.start ≤ s.stop) (hw : s.stop ≤ w.length) :
    ∃ r, lastHit w s word = pure r ∧ IsLast (wordPlaces w s word) r := by
  have hnone : IsLast (wordPlaces w s word ∩ Set.Iio s.start) none :=
    Set.eq_empty_iff_forall_notMem.2 fun i hi => absurd hi.1.1 (Nat.not_le.2 hi.2)
  have hempty : (⟨s.start, s.start⟩ : Span).slice w = [] := by simp [Span.slice, Span.length]
  have h := scanFrom_spec word hw (Nat.le_refl _) (Nat.add_sub_cancel' hle) hnone
  rw [hempty] at h
  exact h

end Scan

/-! ### The cut that is found -/

section Found

variable {w : List Char} {s : Span}

lemma wordPlaces_letters (f : Func) : wordPlaces w s f.letters = namePlaces w s f := by
  have hpos := letters_length_pos f
  have hminus : f.letters ≠ ['-'] := by cases f <;> decide
  ext j
  constructor
  · rintro ⟨hstart, -, ⟨hstop, hname⟩, hlevel, -⟩
    exact ⟨hstart, hstop, hname, hlevel⟩
  · rintro ⟨hstart, hstop, hname, hlevel⟩
    exact ⟨hstart, by omega, ⟨hstop, hname⟩, hlevel, fun h => hminus h.1⟩

/-- The last place of the name in the span's text is the last in the span. -/
lemma isLast_name (f : Func) :
    IsLast (namePlaces w s f)
      (((places (s.slice w)).filter (f.letters.isPrefixOf ·.rest)).getLast?.map
        (s.start + ·.position)) := by
  refine isLast_getLast? ((pairwise_placesFrom 0 0 none (s.slice w)).filter _) fun j => ?_
  rw [mem_namePlaces_iff]
  constructor
  · rintro ⟨k, rfl, hname⟩
    obtain ⟨p, hp, rfl⟩ := hname.exists_mem
    exact ⟨p, hp, rfl⟩
  · rintro ⟨p, hp, rfl⟩
    exact ⟨p.position, rfl, nameAt_of_mem hp⟩

lemma nameIn_eq (hle : s.start ≤ s.stop) (hw : s.stop ≤ w.length) :
    nameIn w s = pure ((rootFunc? (s.slice w)).map fun p => (s.start + p.1, p.2)) := by
  have hhit : ∀ f : Func, lastHit w s f.letters =
      pure (((places (s.slice w)).filter (f.letters.isPrefixOf ·.rest)).getLast?.map
        (s.start + ·.position)) := by
    intro f
    obtain ⟨r, hr, hlast⟩ := lastHit_spec f.letters hle hw
    rw [wordPlaces_letters] at hlast
    rw [hr, hlast.unique (isLast_name f)]
  unfold nameIn rootFunc?
  simp only [hhit, pure_bind, List.findSomeM?_pure, List.map_findSome?]
  congr 2
  funext f
  simp [Function.comp_def]

lemma singleton_prefix_drop_iff {c : Char} {j : Nat} : [c] <+: w.drop j ↔ w[j]? = some c := by
  rw [← List.head?_drop]
  cases w.drop j with
  | nil => simp
  | cons d rest => simp [List.cons_prefix_cons, eq_comm]

/-- The operators of one precedence are looked for one by one. -/
lemma mem_operatorPlaces_iff_word {t j : Nat} :
    j ∈ operatorPlaces w s t ↔
      ∃ op : Operator, op.precedence = t ∧ j ∈ wordPlaces w s [op.symbol] := by
  constructor
  · rintro ⟨hstart, hstop, ⟨op, hop, hprec⟩, hlevel, hsign⟩
    exact ⟨op, hprec, hstart, hstop, ⟨hstop, singleton_prefix_drop_iff.2 hop⟩, hlevel,
      fun h => hsign h.2⟩
  · rintro ⟨op, hprec, hstart, hstop, ⟨-, hop⟩, hlevel, hsign⟩
    have hop := singleton_prefix_drop_iff.1 hop
    refine ⟨hstart, hstop, ⟨op, hop, hprec⟩, hlevel, fun h => hsign ⟨?_, h⟩⟩
    rw [Option.some.inj (hop.symm.trans h.1)]

/-- The operator is the last of its precedence in the span, if there is any. -/
structure IsLastOperator (w : List Char) (s : Span) (t : Nat) (found : Option (Nat × Operator)) :
    Prop where
  last : IsLast (operatorPlaces w s t) (found.map (·.1))
  stands : ∀ p ∈ found, w[p.1]? = some p.2.symbol

lemma IsLastOperator.unique {t : Nat} {a b : Option (Nat × Operator)}
    (ha : IsLastOperator w s t a) (hb : IsLastOperator w s t b) : a = b := by
  have hpos := ha.last.unique hb.last
  cases a with
  | none => exact (Option.map_eq_none_iff.1 hpos.symm).symm
  | some p =>
    obtain ⟨q, rfl, hq⟩ := Option.map_eq_some_iff.1 hpos.symm
    have hq : q.1 = p.1 := hq
    have hp := ha.stands p rfl
    rw [← hq, hb.stands q rfl] at hp
    rw [Prod.ext hq (symbol_injective (Option.some.inj hp))]

/-- Of the last hits of the operators of one precedence the last is taken. -/
lemma isLastOperator_argmax {t : Nat} {hits : List (Nat × Operator)} {last : Operator → Option Nat}
    (hlast : ∀ op, IsLast (wordPlaces w s [op.symbol]) (last op))
    (hhits : ∀ p op, (p, op) ∈ hits ↔ op.precedence = t ∧ last op = some p) :
    IsLastOperator w s t (hits.argmax (·.1)) := by
  have hcover : ∀ j ∈ operatorPlaces w s t, ∃ p ∈ hits, j ≤ p.1 := by
    intro j hj
    obtain ⟨op, hprec, hj⟩ := mem_operatorPlaces_iff_word.1 hj
    obtain ⟨p, hp, hle⟩ := (hlast op).exists_ge hj
    exact ⟨(p, op), (hhits p op).2 ⟨hprec, hp⟩, hle⟩
  have hplace : ∀ p ∈ hits, p.1 ∈ wordPlaces w s [p.2.symbol] ∧ p.2.precedence = t := by
    intro p hp
    obtain ⟨hprec, hr⟩ := (hhits p.1 p.2).1 hp
    have h := hlast p.2
    rw [hr] at h
    exact ⟨h.1, hprec⟩
  cases hfound : hits.argmax (·.1) with
  | none =>
    refine ⟨Set.eq_empty_iff_forall_notMem.2 fun j hj => ?_, fun p hp => absurd hp (by simp)⟩
    obtain ⟨p, hp, -⟩ := hcover j hj
    rw [List.argmax_eq_none.1 hfound] at hp
    exact absurd hp List.not_mem_nil
  | some p =>
    obtain ⟨hp, hprec⟩ := hplace p (List.argmax_mem hfound)
    refine ⟨⟨mem_operatorPlaces_iff_word.2 ⟨p.2, hprec, hp⟩, fun j hj => ?_⟩, fun q hq => ?_⟩
    · obtain ⟨q, hq, hle⟩ := hcover j hj
      exact hle.trans (List.le_of_mem_argmax hq hfound)
    · obtain rfl := Option.some.inj hq
      exact singleton_prefix_drop_iff.1 hp.2.2.1.2

lemma lastOfTier_spec (t : Nat) (hle : s.start ≤ s.stop) (hw : s.stop ≤ w.length) :
    ∃ found, lastOfTier w s t = pure found ∧ IsLastOperator w s t found := by
  choose last hscan hlast using fun op : Operator => lastHit_spec [op.symbol] hle hw
  have hfound : lastOfTier w s t = pure ((((Operator.all.filter (·.precedence == t)).map fun op =>
      (last op).map (·, op)).filterMap id).argmax (·.1)) := by
    unfold lastOfTier
    simp only [hscan, pure_bind, List.mapM_pure]
  refine ⟨_, hfound, isLastOperator_argmax hlast fun p op => ?_⟩
  have hall : op ∈ Operator.all := by cases op <;> decide
  simp [hall, and_comm]

/-- The last operator of a precedence in the span's text is the last in the span. -/
lemma isLastOperator_getLast? (t : Nat) :
    IsLastOperator w s t
      (((operators (s.slice w)).filter (·.2.precedence == t)).getLast?.map fun p =>
        (s.start + p.1, p.2)) := by
  have hmem : ∀ k op, (k, op) ∈ (operators (s.slice w)).filter (·.2.precedence == t) ↔
      OperatorAt (s.slice w) k op ∧ op.precedence = t := by
    intro k op
    rw [List.mem_filter, mem_operators, beq_iff_eq]
  refine ⟨?_, fun p hp => ?_⟩
  · rw [Option.map_map]
    refine isLast_getLast? ((pairwise_operators (s.slice w)).filter _) fun j => ?_
    rw [mem_operatorPlaces_iff]
    constructor
    · rintro ⟨k, op, rfl, hop⟩
      exact ⟨(k, op), (hmem k op).2 hop, rfl⟩
    · rintro ⟨p, hp, rfl⟩
      exact ⟨p.1, p.2, rfl, (hmem p.1 p.2).1 hp⟩
  · obtain ⟨q, hq, rfl⟩ := Option.map_eq_some_iff.1 hp
    have hop := ((hmem q.1 q.2).1 (List.mem_of_getLast? hq)).1
    exact (operatorAt_slice_iff.1 hop).2.1

lemma operatorIn_eq (hle : s.start ≤ s.stop) (hw : s.stop ≤ w.length) :
    operatorIn w s = pure ((rootOperator? (s.slice w)).map fun p => (s.start + p.1, p.2)) := by
  have htier : lastOfTier w s = fun t => pure (((operators (s.slice w)).filter
      (·.2.precedence == t)).getLast?.map fun p => (s.start + p.1, p.2)) := by
    funext t
    obtain ⟨found, hfound, hlast⟩ := lastOfTier_spec t hle hw
    rw [hfound, hlast.unique (isLastOperator_getLast? t)]
  rw [operatorIn, htier, List.findSomeM?_pure, rootOperator?, List.map_findSome?]
  rfl

lemma head?_slice (w : List Char) (s : Span) :
    (s.slice w).head? = if s.start < s.stop then w[s.start]? else none := by
  rw [List.head?_eq_getElem?, getElem?_slice, Nat.add_zero]

/-- A span of the text is cut in place as its text is cut, and no look-up fails. -/
theorem cutAt_eq (hle : s.start ≤ s.stop) (hw : s.stop ≤ w.length) :
    cutAt w s = pure (cut w s).root := by
  rw [cutAt, textAt_of_le hle hw, pure_bind, operatorIn_eq hle hw, pure_bind]
  cases hop : rootOperator? (s.slice w) with
  | some p =>
    rw [cut_of_operator hop]
    rfl
  | none =>
    simp only [Option.map_none]
    rw [nameIn_eq hle hw, pure_bind]
    cases hf : rootFunc? (s.slice w) with
    | some p =>
      rw [cut_of_name hop hf]
      rfl
    | none =>
      simp only [Option.map_none, Span.isEmpty, decide_eq_true_eq]
      have hhead := head?_slice w s
      by_cases hlt : s.start < s.stop
      · have hstart : s.start < w.length := by omega
        rw [if_pos hlt, List.getElem?_eq_getElem hstart] at hhead
        rw [if_neg (Nat.not_le.2 hlt), charAt_of_lt hstart, pure_bind]
        by_cases hopen : w[s.start] = '('
        · -- the last position is one before the end, which is not the first
          have hbefore : before s.stop = pure (s.stop - 1) := by
            rw [show s.stop = s.stop - 1 + 1 by omega]
            rfl
          rw [hopen] at hhead
          rw [if_pos (beq_iff_eq.2 hopen), hbefore, pure_bind, cut_of_open hop hf hhead]
          rfl
        · rw [if_neg (mt beq_iff_eq.1 hopen), cut_of_leaf hop hf (by simpa [hhead] using hopen)]
          rfl
      · rw [if_neg hlt] at hhead
        rw [if_pos (Nat.not_lt.1 hlt), cut_of_leaf hop hf (by simp [hhead])]
        rfl

/-- A bracket that stands alone at the end of the text has nothing inside. -/
example : cutAt "z(".toList ⟨1, 2⟩ = .ok (.brackets ⟨2, 2⟩) := rfl

/-- A span that ends behind the text cannot be cut. -/
example : cutAt "z(".toList ⟨1, 3⟩ = .error (.range 1 3) := rfl

end Found

end InPlace

end EscapeTime
