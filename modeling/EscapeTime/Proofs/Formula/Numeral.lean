import EscapeTime.Formula.SyntaxTree
import Mathlib.Data.List.TakeWhile
import Mathlib.Tactic.Common

namespace EscapeTime.Grammar

/-!
# Numerals

The numbers of a formula are written as a run of digits with an optional point and an optional power
of ten. In a text of digits, points and exponent marks these are exactly the texts that can be read
as a number, and a minus in front changes nothing.
-/

/-- One digit or more. -/
def Digits (ds : List Char) : Prop := ds ≠ [] ∧ ∀ c ∈ ds, c.isDigit

/-- The part of a numeral before its power of ten. -/
inductive Mantissa : List Char → Prop
  | whole {ds : List Char} (h : Digits ds) : Mantissa ds
  | point {ds fs : List Char} (h : Digits ds) (hf : ∀ c ∈ fs, c.isDigit) :
    Mantissa (ds ++ '.' :: fs)
  | fraction {fs : List Char} (h : Digits fs) : Mantissa ('.' :: fs)

/-- The power of ten, which may be missing. -/
inductive Exponent : List Char → Prop
  | none : Exponent []
  | power {ds : List Char} (h : Digits ds) : Exponent ('e' :: ds)

/-- A numeral without a sign. -/
inductive Num : List Char → Prop
  | mk {m x : List Char} (hm : Mantissa m) (hx : Exponent x) : Num (m ++ x)

/-- The characters of numerals. -/
def NumChar (c : Char) : Prop := c.isDigit ∨ c = '.' ∨ c = 'e'

lemma NumChar.ne {c d : Char} (h : NumChar c) (hd : d.isDigit = false ∧ d ≠ '.' ∧ d ≠ 'e') :
    c ≠ d := by
  rintro rfl
  rcases h with h | h | h
  · rw [hd.1] at h
    cases h
  · exact hd.2.1 h
  · exact hd.2.2 h

lemma Mantissa.numChar {m : List Char} (h : Mantissa m) : ∀ c ∈ m, NumChar c := by
  cases h with
  | whole h => exact fun c hc => .inl (h.2 c hc)
  | point h hf =>
    simp only [List.forall_mem_append, List.forall_mem_cons]
    exact ⟨fun c hc => .inl (h.2 c hc), .inr (.inl rfl), fun c hc => .inl (hf c hc)⟩
  | fraction h =>
    simp only [List.forall_mem_cons]
    exact ⟨.inr (.inl rfl), fun c hc => .inl (h.2 c hc)⟩

lemma Exponent.numChar {x : List Char} (h : Exponent x) : ∀ c ∈ x, NumChar c := by
  cases h with
  | none => simp
  | power h =>
    simp only [List.forall_mem_cons]
    exact ⟨.inr (.inr rfl), fun c hc => .inl (h.2 c hc)⟩

lemma Num.numChar {cs : List Char} (h : Num cs) : ∀ c ∈ cs, NumChar c := by
  obtain ⟨hm, hx⟩ := h
  rw [List.forall_mem_append]
  exact ⟨hm.numChar, hx.numChar⟩

lemma Mantissa.ne_nil {m : List Char} (h : Mantissa m) : m ≠ [] := by
  cases h with
  | whole h => exact h.1
  | point h hf => simp
  | fraction h => simp

lemma Num.ne_nil {cs : List Char} (h : Num cs) : cs ≠ [] := by
  obtain ⟨hm, hx⟩ := h
  exact List.append_ne_nil_of_left_ne_nil hm.ne_nil _

/-! ### What the reader accepts -/

open Decimal

lemma readSign_of_numChar {cs : List Char} (h : ∀ c ∈ cs, NumChar c) : readSign cs = (false, cs) := by
  cases cs with
  | nil => rfl
  | cons c rest =>
    have hm := (h c (by simp)).ne (d := '-') (by decide)
    have hp := (h c (by simp)).ne (d := '+') (by decide)
    unfold readSign
    split
    · rename_i heq
      exact absurd (List.cons.inj heq).1 hm
    · rename_i heq
      exact absurd (List.cons.inj heq).1 hp
    · rfl

lemma isSome_readExponent?_iff {cs : List Char} (h : ∀ c ∈ cs, NumChar c) :
    (readExponent? cs).isSome ↔ Exponent cs := by
  cases cs with
  | nil => exact ⟨fun _ => .none, fun _ => rfl⟩
  | cons mark ds =>
    have hds : ∀ c ∈ ds, NumChar c := fun c hc => h c (by simp [hc])
    have hE : mark ≠ 'E' := (h mark (by simp)).ne (by decide)
    have hread : (readExponent? (mark :: ds)).isSome ↔ mark = 'e' ∧ Digits ds := by
      simp only [readExponent?, readSign_of_numChar hds, Digits]
      by_cases hmark : mark = 'e' <;> by_cases hnil : ds = [] <;>
        by_cases hall : ∀ c ∈ ds, c.isDigit <;> simp [hmark, hnil, hE, hall]
    rw [hread]
    constructor
    · rintro ⟨rfl, hd⟩
      exact .power hd
    · rintro ⟨⟩
      exact ⟨rfl, ‹_›⟩

lemma isSome_read?_iff (cs : List Char) :
    (Numeral.read? cs).isSome ↔
      ¬ (cs.takeWhile Char.isDigit = [] ∧ (readFraction (cs.dropWhile Char.isDigit)).1 = []) ∧
        (readExponent? (readFraction (cs.dropWhile Char.isDigit)).2).isSome := by
  simp only [Numeral.read?]
  split <;> simp_all

/-- Digits that are not continued are read as far as they go. -/
lemma span_digits {ds rest : List Char} (hd : ∀ c ∈ ds, c.isDigit)
    (hr : ∀ c ∈ rest.head?, c.isDigit = false) :
    (ds ++ rest).takeWhile Char.isDigit = ds ∧ (ds ++ rest).dropWhile Char.isDigit = rest := by
  rw [List.takeWhile_append_of_pos hd, List.dropWhile_append_of_pos hd]
  cases rest with
  | nil => simp
  | cons c rest => simp [hr c rfl]

lemma Exponent.head_isDigit {x : List Char} (h : Exponent x) :
    ∀ c ∈ x.head?, c.isDigit = false := by
  cases h with
  | none => simp
  | power h =>
    rintro c ⟨⟩
    rfl

lemma readFraction_exponent {x : List Char} (h : Exponent x) : readFraction x = ([], x) := by
  cases h <;> rfl

lemma isSome_read?_of_num {cs : List Char} (h : Num cs) : (Numeral.read? cs).isSome := by
  have hexp : ∀ {x}, Exponent x → (readExponent? x).isSome := fun hx =>
    (isSome_readExponent?_iff hx.numChar).2 hx
  -- a mantissa with a point, with at least one digit on either side
  have hpoint : ∀ (ds : List Char) {fs x : List Char}, (∀ c ∈ ds, c.isDigit) → (∀ c ∈ fs, c.isDigit) →
      ¬ (ds = [] ∧ fs = []) → Exponent x → (Numeral.read? (ds ++ '.' :: (fs ++ x))).isSome := by
    intro ds fs x hds hfs hne hx
    have hdot : ∀ c ∈ ('.' :: (fs ++ x)).head?, c.isDigit = false := by simp
    obtain ⟨h₁, h₂⟩ := span_digits hds hdot
    obtain ⟨h₃, h₄⟩ := span_digits hfs hx.head_isDigit
    rw [isSome_read?_iff, h₁, h₂, readFraction, h₃, h₄]
    exact ⟨hne, hexp hx⟩
  obtain ⟨hm, hx⟩ := h
  cases hm with
  | whole hd =>
    obtain ⟨h₁, h₂⟩ := span_digits hd.2 hx.head_isDigit
    rw [isSome_read?_iff, h₁, h₂, readFraction_exponent hx]
    exact ⟨fun h => hd.1 h.1, hexp hx⟩
  | point hd hf =>
    rw [List.append_assoc, List.cons_append]
    exact hpoint _ hd.2 hf (fun h => hd.1 h.1) hx
  | fraction hf => exact hpoint [] (by simp) hf.2 (fun h => hf.1 h.2) hx

lemma num_of_isSome_read? {cs : List Char} (hcs : ∀ c ∈ cs, NumChar c)
    (h : (Numeral.read? cs).isSome) : Num cs := by
  rw [isSome_read?_iff] at h
  obtain ⟨hne, hexp⟩ := h
  have hwhole : ∀ c ∈ cs.takeWhile Char.isDigit, c.isDigit := fun c hc => List.mem_takeWhile_imp hc
  have hsplit : cs = cs.takeWhile Char.isDigit ++ cs.dropWhile Char.isDigit := by simp
  generalize cs.takeWhile Char.isDigit = ds at *
  generalize cs.dropWhile Char.isDigit = tail at *
  subst hsplit
  unfold readFraction at hne hexp
  split at hne
  · rename_i rest
    have hfrac : ∀ c ∈ rest.takeWhile Char.isDigit, c.isDigit :=
      fun c hc => List.mem_takeWhile_imp hc
    have hrest : rest = rest.takeWhile Char.isDigit ++ rest.dropWhile Char.isDigit := by simp
    have hx : Exponent (rest.dropWhile Char.isDigit) :=
      (isSome_readExponent?_iff fun c hc => hcs c (by
        simp [(List.dropWhile_sublist _).subset hc])).1 hexp
    have hm : Mantissa (ds ++ '.' :: rest.takeWhile Char.isDigit) := by
      by_cases hds : ds = []
      · subst hds
        exact .fraction ⟨fun h => hne ⟨rfl, h⟩, hfrac⟩
      · exact .point ⟨hds, hwhole⟩ hfrac
    have := Num.mk hm hx
    rwa [List.append_assoc, List.cons_append, ← hrest] at this
  · have hx : Exponent tail :=
      (isSome_readExponent?_iff fun c hc => hcs c (by simp [hc])).1 (by simpa using hexp)
    exact .mk (.whole ⟨fun h => hne ⟨h, rfl⟩, hwhole⟩) hx

/-- The words for infinity and for "not a number" hold a letter that no numeral has. -/
lemma readWord?_eq_none {cs : List Char} (h : ∀ c ∈ cs, NumChar c) : readWord? cs = none := by
  have hn : 'n' ∉ cs.map Char.toLower := by
    intro hmem
    obtain ⟨c, hc, hlow⟩ := List.mem_map.1 hmem
    rcases h c hc with hd | rfl | rfl
    · have hsame : c.toLower = c := by
        simp only [Char.isDigit, Bool.and_eq_true, decide_eq_true_eq] at hd
        exact dif_neg fun hup => absurd (UInt32.le_trans hup.1 hd.2) (by decide)
      rw [hsame] at hlow
      subst hlow
      exact absurd hd (by decide)
    · exact absurd hlow (by decide)
    · exact absurd hlow (by decide)
  have hword : ∀ w : String, 'n' ∈ w.toList → String.ofList (cs.map Char.toLower) ≠ w := by
    rintro w hw rfl
    exact hn (by simpa using hw)
  simp [readWord?, hword "inf" (by decide), hword "infinity" (by decide), hword "nan" (by decide)]

lemma isSome_read?_iff_num {cs : List Char} (h : ∀ c ∈ cs, NumChar c) :
    (Numeral.read? cs).isSome ↔ Num cs :=
  ⟨num_of_isSome_read? h, isSome_read?_of_num⟩

theorem isSome_readFloat?_iff {cs : List Char} (h : ∀ c ∈ cs, NumChar c) :
    (readFloat? cs).isSome ↔ Num cs := by
  rw [← isSome_read?_iff_num h]
  simp [readFloat?, readSign_of_numChar h, readWord?_eq_none h]

theorem isSome_readFloat?_minus_iff {cs : List Char} (h : ∀ c ∈ cs, NumChar c) :
    (readFloat? ('-' :: cs)).isSome ↔ Num cs := by
  rw [← isSome_read?_iff_num h]
  simp [readFloat?, readSign, readWord?_eq_none h]

/-! ### Numerals as leaves -/

lemma Num.isNumeral {cs : List Char} (h : Num cs) : SyntaxTree.isNumeral cs := by
  simp only [SyntaxTree.isNumeral, (isSome_readFloat?_iff h.numChar).2 h, Bool.and_true,
    Bool.and_eq_true, List.all_eq_true]
  refine ⟨by simpa using h.ne_nil, fun c hc => ?_⟩
  rcases h.numChar c hc with h | h | h <;> simp [h]

lemma Num.isNumeral_minus {cs : List Char} (h : Num cs) : SyntaxTree.isNumeral ('-' :: cs) := by
  simp only [SyntaxTree.isNumeral, (isSome_readFloat?_minus_iff h.numChar).2 h, Bool.and_true,
    Bool.and_eq_true, List.all_eq_true]
  refine ⟨by simp, fun c hc => ?_⟩
  rcases List.mem_cons.1 hc with rfl | hc
  · rfl
  · rcases h.numChar c hc with h | h | h <;> simp [h]

lemma isNumeral_char {w : List Char} (h : SyntaxTree.isNumeral w) :
    ∀ c ∈ w, NumChar c ∨ c = '+' ∨ c = '-' := by
  intro c hc
  simp only [SyntaxTree.isNumeral, Bool.and_eq_true, List.all_eq_true] at h
  have := h.1.2 c hc
  simp only [Bool.or_eq_true, beq_iff_eq] at this
  unfold NumChar
  tauto

lemma not_mem_of_isNumeral {w : List Char} (h : SyntaxTree.isNumeral w) {d : Char}
    (hd : d.isDigit = false) (hmark : d ∉ ['.', 'e', '+', '-']) : d ∉ w := by
  intro hmem
  rcases isNumeral_char h d hmem with (hdigit | rfl | rfl) | rfl | rfl
  · rw [hd] at hdigit
    cases hdigit
  all_goals exact hmark (by decide)

lemma isSome_readFloat?_of_isNumeral {w : List Char} (h : SyntaxTree.isNumeral w) :
    (readFloat? w).isSome :=
  (Bool.and_eq_true_iff.1 h).2

end EscapeTime.Grammar
