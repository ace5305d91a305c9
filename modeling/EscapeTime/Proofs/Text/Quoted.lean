import EscapeTime.Text.Basic
import EscapeTime.Text.Quoted
import Mathlib.Data.List.Basic
import Mathlib.Tactic.Common

namespace EscapeTime.Text

/-!
# Quoted text is told from what follows

Between the quotes a character stands as it is, as a backslash with a letter, or as a number in
braces. The first two characters say which, and the brace ends the number. So what is written for one
character never begins what is written for another, and none begins with a quote: the quoted text and
what follows on it can both be read off.
-/

/-- Texts that run on up to a character of another kind are told from what follows on them. -/
lemma append_inj_of_stop (p : Char → Bool) {u v x y : List Char} (hu : ∀ c ∈ u, p c)
    (hv : ∀ c ∈ v, p c) (hx : ∀ c ∈ x.head?, p c = false) (hy : ∀ c ∈ y.head?, p c = false)
    (h : u ++ x = v ++ y) : u = v ∧ x = y := by
  have hrun : ∀ {s z : List Char}, (∀ c ∈ s, p c) → (∀ c ∈ z.head?, p c = false) →
      (s ++ z).takeWhile p = s := by
    intro s z hs hz
    rw [List.takeWhile_append_of_pos hs]
    cases z with
    | nil => simp
    | cons c z => rw [List.takeWhile_cons_of_neg (by simpa using hz c rfl), List.append_nil]
  have huv : u = v := by rw [← hrun hu hx, h, hrun hv hy]
  subst huv
  exact ⟨rfl, List.append_cancel_left h⟩

/-! ### Hexadecimal numbers -/

/-- The number that hexadecimal digits spell. -/
def spellHex (digits : List Char) : Nat :=
  digits.foldl (fun acc c => 16 * acc + (hexValue? c).getD 0) 0

lemma toDigits_hex (n : Nat) :
    spellHex (Nat.toDigits 16 n) = n ∧ ∀ c ∈ Nat.toDigits 16 n, (hexValue? c).isSome := by
  induction n using Nat.strongRecOn with
  | ind n ih =>
    by_cases hn : n < 16
    · rw [Nat.toDigits_of_lt_base hn]
      simp [spellHex, hexValue?_digitChar hn]
    · -- the last digit comes behind those of the sixteenth part
      have hmod : n % 16 < 16 := Nat.mod_lt n (by omega)
      have happend := Nat.toDigits_append_toDigits (b := 16) (n := n / 16) (d := n % 16)
        (by omega) (by omega) hmod
      rw [Nat.div_add_mod, Nat.toDigits_of_lt_base hmod] at happend
      obtain ⟨hspell, hdigits⟩ := ih (n / 16) (by omega)
      have hlast := hexValue?_digitChar hmod
      rw [← happend]
      constructor
      · rw [spellHex, List.foldl_append, ← spellHex, hspell]
        simp only [List.foldl_cons, List.foldl_nil, hlast, Option.getD_some]
        omega
      · intro c hc
        rcases List.mem_append.1 hc with hc | hc
        · exact hdigits c hc
        · rw [List.mem_singleton.1 hc, hlast]
          rfl

lemma numberEscape_append_inj {c d : Char} {x y : List Char}
    (h : numberEscape c ++ x = numberEscape d ++ y) : c = d ∧ x = y := by
  have hbrace : ∀ n, ∀ a ∈ Nat.toDigits 16 n, (a != '\x7d') = true := by
    intro n a ha
    have hdigit := (toDigits_hex n).2 a ha
    rw [bne_iff_ne]
    rintro rfl
    exact absurd hdigit (by decide)
  have hdigits : Nat.toDigits 16 c.toNat ++ '\x7d' :: x = Nat.toDigits 16 d.toNat ++ '\x7d' :: y := by
    simpa [numberEscape] using h
  obtain ⟨hcode, hrest⟩ := append_inj_of_stop (· != '\x7d') (hbrace _) (hbrace _) (by simp) (by simp)
    hdigits
  have hnat : c.toNat = d.toNat := by
    rw [← (toDigits_hex c.toNat).1, hcode, (toDigits_hex d.toNat).1]
  exact ⟨Char.toNat_inj.1 hnat, (List.cons.inj hrest).2⟩

/-! ### Characters between quotes -/

/-- The characters that are written as a backslash and a letter, with their letters. -/
def letterEscapes : List (Char × Char) :=
  [('"', '"'), ('\\', '\\'), ('\n', 'n'), ('\r', 'r'), ('\t', 't'), (Char.ofNat 0, '0')]

/-- The ways to write a character between quotes. -/
inductive Quotes (c : Char) : List Char → Prop
  | bare (hquote : c ≠ '"') (hslash : c ≠ '\\') : Quotes c [c]
  | letter {e : Char} (h : (c, e) ∈ letterEscapes) : Quotes c ['\\', e]
  | number : Quotes c (numberEscape c)

lemma quotes_quoteChar (c : Char) : Quotes c (quoteChar c) := by
  unfold quoteChar
  split_ifs with hquote hslash hn hr ht hzero hhidden
  · obtain rfl := beq_iff_eq.1 hquote
    exact .letter (by decide)
  · obtain rfl := beq_iff_eq.1 hslash
    exact .letter (by decide)
  · obtain rfl := beq_iff_eq.1 hn
    exact .letter (by decide)
  · obtain rfl := beq_iff_eq.1 hr
    exact .letter (by decide)
  · obtain rfl := beq_iff_eq.1 ht
    exact .letter (by decide)
  · obtain rfl : c = Char.ofNat 0 := Char.toNat_inj.1 (beq_iff_eq.1 hzero)
    exact .letter (by decide)
  · exact .number
  · exact .bare (by simpa using hquote) (by simpa using hslash)

lemma letterEscapes_inj {c d e : Char} (hc : (c, e) ∈ letterEscapes) (hd : (d, e) ∈ letterEscapes) :
    c = d := by
  have hall : ∀ p ∈ letterEscapes, ∀ q ∈ letterEscapes, p.2 = q.2 → p.1 = q.1 := by decide
  exact hall _ hc _ hd rfl

lemma letterEscapes_ne {c e : Char} (h : (c, e) ∈ letterEscapes) : e ≠ 'u' := by
  have hall : ∀ p ∈ letterEscapes, p.2 ≠ 'u' := by decide
  exact hall _ h

/-- What is written for a character is told from what follows on it. -/
lemma Quotes.append_inj {c d : Char} {u v x y : List Char} (hu : Quotes c u) (hv : Quotes d v)
    (h : u ++ x = v ++ y) : c = d ∧ x = y := by
  cases hu with
  | bare _ hslash =>
    cases hv with
    | bare => simpa using h
    | letter => exact absurd (List.cons.inj h).1 hslash
    | number => exact absurd (List.cons.inj h).1 hslash
  | letter hc =>
    cases hv with
    | bare _ hslash => exact absurd (List.cons.inj h).1.symm hslash
    | letter hd =>
      simp only [List.cons_append, List.nil_append, List.cons.injEq, true_and] at h
      obtain ⟨rfl, hrest⟩ := h
      exact ⟨letterEscapes_inj hc hd, hrest⟩
    | number =>
      simp only [numberEscape, List.cons_append, List.nil_append, List.cons.injEq, true_and] at h
      exact absurd h.1 (letterEscapes_ne hc)
  | number =>
    cases hv with
    | bare _ hslash => exact absurd (List.cons.inj h).1.symm hslash
    | letter hd =>
      simp only [numberEscape, List.cons_append, List.nil_append, List.cons.injEq, true_and] at h
      exact absurd h.1.symm (letterEscapes_ne hd)
    | number => exact numberEscape_append_inj h

/-- Nothing that is written for a character begins with a quote. -/
lemma Quotes.head_ne {c : Char} {u : List Char} (hu : Quotes c u) (x y : List Char) :
    u ++ x ≠ '"' :: y := by
  intro h
  cases hu with
  | bare hquote => exact hquote (List.cons.inj h).1
  | letter => exact absurd (List.cons.inj h).1 (by decide)
  | number => exact absurd (List.cons.inj h).1 (by decide)

lemma flatMap_quoteChar_inj {s t x y : List Char}
    (h : s.flatMap quoteChar ++ '"' :: x = t.flatMap quoteChar ++ '"' :: y) : s = t ∧ x = y := by
  induction s generalizing t with
  | nil =>
    cases t with
    | nil => simpa using h
    | cons d t =>
      rw [List.flatMap_cons, List.append_assoc] at h
      exact absurd h.symm ((quotes_quoteChar d).head_ne _ _)
  | cons c s ih =>
    cases t with
    | nil =>
      rw [List.flatMap_cons, List.append_assoc] at h
      exact absurd h ((quotes_quoteChar c).head_ne _ _)
    | cons d t =>
      rw [List.flatMap_cons, List.flatMap_cons, List.append_assoc, List.append_assoc] at h
      obtain ⟨rfl, hrest⟩ := (quotes_quoteChar c).append_inj (quotes_quoteChar d) h
      obtain ⟨rfl, hend⟩ := ih hrest
      exact ⟨rfl, hend⟩

/-- **A quoted text and what follows on it can both be read off.** -/
theorem quote_append_inj {s t x y : List Char} (h : quote s ++ x = quote t ++ y) : s = t ∧ x = y := by
  simp only [quote, List.cons_append, List.append_assoc, List.nil_append, List.cons.injEq,
    true_and] at h
  exact flatMap_quoteChar_inj h

end EscapeTime.Text
