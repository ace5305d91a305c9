import EscapeTime.Json.Number
import EscapeTime.Json.Lexer
import EscapeTime.Json.Printer
import EscapeTime.Proofs.Formula.Numeral

namespace EscapeTime

/-!
# Numbers are read as they are written

A number follows the grammar if its whole digits have no zero in front and no part of it that must
have a digit is empty. Such a number is read back digit by digit, whatever comes behind that does not
continue it. All numbers that are written follow the grammar: the digits of a natural number, and the
shortest digits of a double, which are never zero.
-/

namespace Json.Number

/-! ### Reading the digits -/

/-- The number follows the grammar. -/
structure WellFormed (n : Number) : Prop where
  whole_ne_nil : n.whole ≠ []
  whole_digits : ∀ c ∈ n.whole, c.isDigit
  no_leading_zero : n.whole.head? = some '0' → n.whole.length = 1
  fraction_digits : ∀ c ∈ n.fraction, c.isDigit
  exponent_digits : ∀ e ∈ n.exponent, e.2 ≠ [] ∧ ∀ c ∈ e.2, c.isDigit

/-- No number goes on with this text. -/
def EndsBefore (rest : List Char) : Prop :=
  ∀ c ∈ rest.head?, c.isDigit = false ∧ c ≠ '.' ∧ c ≠ 'e' ∧ c ≠ 'E'

/-- The point and the digits behind it. -/
def fractionText (fraction : List Char) : List Char :=
  if fraction.isEmpty then [] else '.' :: fraction

/-- The power of ten at the end. -/
def exponentText : Option (Bool × List Char) → List Char
  | none => []
  | some (negative, digits) => 'e' :: (if negative then '-' else '+') :: digits

lemma text_eq (n : Number) :
    n.text = (if n.negative then ['-'] else []) ++
      (n.whole ++ (fractionText n.fraction ++ exponentText n.exponent)) := by
  obtain ⟨negative, whole, fraction, exponent⟩ := n
  rcases exponent with - | ⟨e, digits⟩ <;> simp [text, fractionText, exponentText]

lemma readDigits?_append {ds rest : List Char} (hne : ds ≠ []) (hds : ∀ c ∈ ds, c.isDigit)
    (hrest : ∀ c ∈ rest.head?, c.isDigit = false) : readDigits? (ds ++ rest) = some (ds, rest) := by
  obtain ⟨htake, hdrop⟩ := Grammar.span_digits hds hrest
  simp [readDigits?, htake, hdrop, hne]

lemma readExponent?_append {exponent : Option (Bool × List Char)} {rest : List Char}
    (hdigits : ∀ e ∈ exponent, e.2 ≠ [] ∧ ∀ c ∈ e.2, c.isDigit) (hrest : EndsBefore rest) :
    readExponent? (exponentText exponent ++ rest) = some (exponent, rest) := by
  cases exponent with
  | none =>
    cases rest with
    | nil => rfl
    | cons c rest =>
      obtain ⟨-, -, he, hE⟩ := hrest c rfl
      simp [exponentText, readExponent?, he, hE]
  | some e =>
    obtain ⟨negative, digits⟩ := e
    obtain ⟨hne, hall⟩ := hdigits _ rfl
    have hread := readDigits?_append hne hall fun c hc => (hrest c hc).1
    cases negative <;> simp [exponentText, readExponent?, readExponentSign, hread]

/-- What follows the digits behind the point. -/
lemma exponentText_head (exponent : Option (Bool × List Char)) {rest : List Char}
    (hrest : EndsBefore rest) :
    ∀ c ∈ (exponentText exponent ++ rest).head?, c.isDigit = false ∧ c ≠ '.' := by
  rcases exponent with - | ⟨negative, digits⟩
  · exact fun c hc => ⟨(hrest c hc).1, (hrest c hc).2.1⟩
  · rintro c ⟨⟩
    decide

lemma readFraction?_append {fraction rest : List Char} (hdigits : ∀ c ∈ fraction, c.isDigit)
    (hrest : ∀ c ∈ rest.head?, c.isDigit = false ∧ c ≠ '.') :
    readFraction? (fractionText fraction ++ rest) = some (fraction, rest) := by
  cases fraction with
  | nil =>
    change readFraction? rest = _
    unfold readFraction?
    split
    · exact absurd rfl (hrest '.' rfl).2
    · rfl
  | cons d ds =>
    exact readDigits?_append (by simp) hdigits fun c hc => (hrest c hc).1

lemma readWhole?_append {n : Number} (h : n.WellFormed) {rest : List Char}
    (hrest : ∀ c ∈ rest.head?, c.isDigit = false) :
    readWhole? (n.whole ++ rest) = some (n.whole, rest) := by
  have hzero : ¬ (n.whole.head? = some '0' ∧ 1 < n.whole.length) := by
    rintro ⟨hhead, hlength⟩
    have := h.no_leading_zero hhead
    omega
  simp only [readWhole?, readDigits?_append h.whole_ne_nil h.whole_digits hrest]
  simp [hzero]

/-- Behind the whole digits there is no further one. -/
lemma fractionText_head (fraction : List Char) {rest : List Char}
    (hrest : ∀ c ∈ rest.head?, c.isDigit = false ∧ c ≠ '.') :
    ∀ c ∈ (fractionText fraction ++ rest).head?, c.isDigit = false := by
  cases fraction with
  | nil => exact fun c hc => (hrest c hc).1
  | cons d ds =>
    rintro c ⟨⟩
    rfl

lemma readNumber?_append {n : Number} (h : n.WellFormed) {rest : List Char}
    (hrest : EndsBefore rest) (negative : Bool) :
    readNumber? negative (n.whole ++ (fractionText n.fraction ++ exponentText n.exponent) ++ rest) =
      some ({ n with negative := negative }, rest) := by
  have hexponent := exponentText_head n.exponent hrest
  have hwhole := readWhole?_append h (fractionText_head n.fraction hexponent)
  have hfraction := readFraction?_append h.fraction_digits hexponent
  have hpower := readExponent?_append h.exponent_digits hrest
  simp only [readNumber?, List.append_assoc, hwhole, Option.bind_eq_bind, Option.bind_some,
    hfraction, hpower]
  rfl

/-- A digit starts a number and nothing else. -/
lemma readToken?_of_isDigit {c : Char} (hc : c.isDigit) (cs : List Char) :
    readToken? (c :: cs) = (readNumber? false (c :: cs)).map fun (n, rest) => (.number n, rest) := by
  unfold readToken?
  split <;> simp_all

/-- **A number is read back.** -/
lemma readToken?_text {n : Number} (h : n.WellFormed) {rest : List Char} (hrest : EndsBefore rest) :
    readToken? (n.text ++ rest) = some (.number n, rest) := by
  have hread : readNumber? n.negative
      (n.whole ++ (fractionText n.fraction ++ exponentText n.exponent) ++ rest) = some (n, rest) :=
    readNumber?_append h hrest n.negative
  rw [text_eq]
  cases hsign : n.negative with
  | false =>
    obtain ⟨c, cs, hwhole⟩ := List.exists_cons_of_ne_nil h.whole_ne_nil
    have hc : c.isDigit := h.whole_digits c (by simp [hwhole])
    rw [hsign, hwhole, List.cons_append, List.cons_append] at hread
    rw [if_neg (by simp), List.nil_append, hwhole, List.cons_append, List.cons_append,
      readToken?_of_isDigit hc, hread]
    rfl
  | true =>
    rw [hsign] at hread
    rw [if_pos rfl, List.singleton_append, List.cons_append]
    change (readNumber? true _).map _ = _
    rw [hread]
    rfl

/-- A number starts with its sign or with a digit, so not with a blank. -/
lemma exists_text_cons {n : Number} (h : n.WellFormed) :
    ∃ c cs, n.text = c :: cs ∧ isSpace c = false := by
  obtain ⟨d, ds, hwhole⟩ := List.exists_cons_of_ne_nil h.whole_ne_nil
  have hdigit : d.isDigit := h.whole_digits d (by simp [hwhole])
  rw [text_eq, hwhole]
  cases n.negative with
  | true => exact ⟨'-', _, rfl, rfl⟩
  | false =>
    refine ⟨d, _, rfl, ?_⟩
    by_contra hspace
    simp only [isSpace, Bool.not_eq_false, Bool.or_eq_true, beq_iff_eq] at hspace
    rcases hspace with ((rfl | rfl) | rfl) | rfl <;> cases hdigit

end Json.Number

/-! ### The digits that are written -/

namespace Decimal

/-- A positive number has no zero in front. -/
lemma head?_toDigits_ne {n : Nat} (h : 0 < n) : (Nat.toDigits 10 n).head? ≠ some '0' := by
  induction n using Nat.strongRecOn with
  | ind n ih =>
    rcases Nat.lt_or_ge n 10 with hlt | hge
    · have hdigit : ∀ m < 10, 0 < m → [Nat.digitChar m].head? ≠ some '0' := by decide
      rw [Nat.toDigits_of_lt_base hlt]
      exact hdigit n hlt h
    · have hhead := ih (n / 10) (by omega) (by omega)
      obtain ⟨c, cs, hcs⟩ :=
        List.exists_cons_of_ne_nil (Nat.toDigits_ne_nil (n := n / 10) (b := 10))
      rw [Nat.toDigits_of_base_le (by decide) hge, hcs]
      simpa [hcs] using hhead

lemma length_toDigits_of_head? {n : Nat} (h : (Nat.toDigits 10 n).head? = some '0') :
    (Nat.toDigits 10 n).length = 1 := by
  rcases Nat.eq_zero_or_pos n with rfl | hpos
  · rfl
  · exact absurd h (head?_toDigits_ne hpos)

namespace Binary

/-- A decimal that stands for a positive double is positive, as is the least real that does. -/
lemma pick_pos {tie : Tie} {x : Binary} {g : Int} {d : Nat} (hx : 0 < x.mantissa)
    (h : x.pick tie g = some d) : 0 < d := by
  have hunit : 0 < (ratio ⟨1, x.exponent - 2⟩ g).1 := by
    simp only [ratio]
    exact Nat.mul_pos (Nat.mul_pos (by decide) (Nat.pow_pos (by decide))) (Nat.pow_pos (by decide))
  have hleast : 0 < (4 * x.mantissa - x.lowerQuarters) * (ratio ⟨1, x.exponent - 2⟩ g).1 := by
    refine Nat.mul_pos ?_ hunit
    unfold lowerQuarters
    split <;> omega
  rcases Nat.eq_zero_or_pos d with rfl | hpos
  · -- the point below is zero only if the least real is, and the point above never is
    simp only [pick] at h
    generalize (4 * x.mantissa - x.lowerQuarters) * (ratio ⟨1, x.exponent - 2⟩ g).1 = least at *
    generalize 4 * x.mantissa * (ratio ⟨1, x.exponent - 2⟩ g).1 / (ratio ⟨1, x.exponent - 2⟩ g).2 =
      below at h
    grind
  · exact hpos

/-- The shortest digits, if there are any. -/
lemma shortest_pos_or {x : Binary} (hx : 0 < x.mantissa) (tie : Tie) :
    0 < (x.shortest tie).digits ∨ (x.shortest tie).exponent = 0 := by
  simp only [shortest]
  generalize (List.range 20).map (fun (i : Nat) => x.decimalExponent + 1 - (i : Int)) = grids
  cases hfound : grids.findSome? fun g => (x.pick tie g).map fun d => (⟨d, g⟩ : Digits) with
  | none => exact .inr (by simp)
  | some digits =>
    obtain ⟨g, -, hg⟩ := List.exists_of_findSome?_eq_some hfound
    obtain ⟨d, hd, rfl⟩ := Option.map_eq_some_iff.1 hg
    exact .inl (pick_pos hx hd)

end Binary

lemma decode_mantissa_pos {x : Float} {negative : Bool} {d : Binary}
    (h : decode x = (negative, .finite d)) : 0 < d.mantissa := by
  simp only [decode] at h
  generalize (x.toBits &&& 0xFFFFFFFFFFFFF).toNat = fraction at h
  split_ifs at h with hinf hnan hexponent hzero <;> cases h
  · exact Nat.pos_of_ne_zero (by simpa using hzero)
  · exact Nat.add_pos_left (by decide) fraction

end Decimal

namespace Json.Number

open Decimal

lemma wellFormed_ofNat (n : Nat) : (ofNat n).WellFormed where
  whole_ne_nil := Nat.toDigits_ne_nil
  whole_digits _ hc := Nat.isDigit_of_mem_toDigits (by decide) (by decide) hc
  no_leading_zero := length_toDigits_of_head?
  fraction_digits := by simp [ofNat]
  exponent_digits := by simp [ofNat]

lemma isDigit_of_mem_text {d : Digits} {c : Char} (hc : c ∈ d.text) : c.isDigit :=
  Nat.isDigit_of_mem_toDigits (by decide) (by decide) hc

/-- Positional digits follow the grammar: zeros are put behind a positive number only, and in front
of it only behind a point. -/
lemma wellFormed_split (negative : Bool) {d : Digits} (hd : 0 < d.digits ∨ d.exponent = 0) :
    WellFormed ⟨negative, d.split.1, d.split.2, none⟩ := by
  have hne : d.text ≠ [] := Nat.toDigits_ne_nil
  have hhead : d.text.head? = some '0' → d.digits = 0 := fun hhead => by
    by_contra hpos
    exact head?_toDigits_ne (Nat.pos_of_ne_zero hpos) hhead
  obtain ⟨c, cs, htext⟩ := List.exists_cons_of_ne_nil hne
  simp only [Digits.split]
  split_ifs with hexponent hpoint
  · refine ⟨by simp [hne], ?_, fun h => ?_, by simp, by simp⟩
    · rintro c hc
      rcases List.mem_append.1 hc with hc | hc
      · exact isDigit_of_mem_text hc
      · rw [List.eq_of_mem_replicate hc]
        rfl
    · have hzero : d.digits = 0 := hhead (by simpa [htext] using h)
      have hexp : d.exponent = 0 := hd.resolve_left (by omega)
      simp [hexp, Digits.text, hzero]
  · have hpos : 0 < d.pointPosition.toNat := by omega
    obtain ⟨k, hk⟩ := Nat.exists_eq_succ_of_ne_zero hpos.ne'
    rw [List.splitAt_eq]
    refine ⟨by simp [hk, htext], fun c hc => isDigit_of_mem_text (List.mem_of_mem_take hc),
      fun h => ?_, fun c hc => isDigit_of_mem_text (List.mem_of_mem_drop hc), by simp⟩
    have hzero : d.digits = 0 := hhead (by simpa [htext, hk] using h)
    omega
  · refine ⟨by simp, by simp, by simp, fun c hc => ?_, by simp⟩
    rcases List.mem_append.1 hc with hc | hc
    · rw [List.eq_of_mem_replicate hc]
      rfl
    · exact isDigit_of_mem_text hc

lemma wellFormed_ofDigits (negative : Bool) {d : Digits} (hd : 0 < d.digits ∨ d.exponent = 0) :
    (ofDigits negative d).WellFormed := by
  have hne : d.text ≠ [] := Nat.toDigits_ne_nil
  simp only [ofDigits]
  by_cases hplain : isPlain d.normal.2.2
  · rw [if_pos hplain]
    have hsplit := wellFormed_split negative hd
    refine { hsplit with fraction_digits := fun c hc => ?_ }
    split_ifs at hc
    · rw [List.mem_singleton.1 hc]
      rfl
    · exact hsplit.fraction_digits c hc
  · rw [if_neg hplain]
    refine ⟨by simp [Digits.normal, hne],
      fun c hc => isDigit_of_mem_text (List.mem_of_mem_take hc), fun _ => ?_,
      fun c hc => isDigit_of_mem_text (List.mem_of_mem_drop hc), ?_⟩
    · have hlength := List.length_pos_iff.2 hne
      simp only [Digits.normal, List.length_take]
      omega
    · rintro e ⟨⟩
      exact ⟨Nat.toDigits_ne_nil, fun c hc => Nat.isDigit_of_mem_toDigits (by decide) (by decide) hc⟩

/-- **What is written for a double follows the grammar.** -/
lemma wellFormed_of_ofFloat? {x : Float} {n : Number} (h : ofFloat? x = some n) : n.WellFormed := by
  unfold ofFloat? at h
  split at h
  · cases h
  · cases h
  · cases h
    exact ⟨by simp, by simp, by simp, by simp, by simp⟩
  · rename_i d hdecode
    cases h
    exact wellFormed_ofDigits _ (Binary.shortest_pos_or (decode_mantissa_pos hdecode) _)

end Json.Number

end EscapeTime
