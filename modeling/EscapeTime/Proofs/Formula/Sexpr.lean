import EscapeTime.Proofs.Formula.Strict
import EscapeTime.Proofs.Formula.Value
import EscapeTime.Proofs.Text.Quoted

namespace EscapeTime

/-!
# The bracketed form identifies the expression

With each operator and function before its operands, in brackets, an expression can be read back
from its text. The first character tells a bracket, a quoted leaf and a plain word apart. A word ends
before the next blank or bracket, a quoted leaf at its closing quote; behind an opening bracket the
operator or the name ends before a blank. A word is a numeral or a symbol, and no text is both, as
long as the literals are numerals. This is so in what is read from a formula.
-/

namespace Expr

open Text

/-- The characters of a word: it is neither a bracket, a quote nor a blank. -/
def bareChar (c : Char) : Bool := !(['(', ')', '"', ' '].contains c)

/-- Every literal is a numeral. -/
def Numeric (e : Expr) : Prop := ∀ text ∈ e.literals, SyntaxTree.isNumeral text.toList

/-- The word that a leaf is written as, unless it is quoted. -/
def word? : Expr → Option (List Char)
  | literal text => some text.toList
  | symbol s => some s.token.toList
  | raw _ => none
  | binary _ _ _ => none
  | call _ _ => none

/-- The character that begins an expression that is no word. -/
def opener? : Expr → Option Char
  | literal _ => none
  | symbol _ => none
  | raw _ => some '"'
  | binary _ _ _ => some '('
  | call _ _ => some '('

variable {e e' : Expr} {u : List Char}

/-! ### Words -/

lemma numeral_bareChar {w : List Char} (h : SyntaxTree.isNumeral w) : ∀ c ∈ w, bareChar c := by
  intro c hc
  have hother : ∀ d ∈ ['(', ')', '"', ' '], d ∉ w := by
    intro d hd
    refine Grammar.not_mem_of_isNumeral h ?_ ?_
    · revert d
      simp
    · revert d
      simp
  have hc' : c ∉ ['(', ')', '"', ' '] := fun hmem => hother c hmem hc
  simpa [bareChar] using hc'

lemma token_bareChar (s : Symbol) : s.token.toList ≠ [] ∧ ∀ c ∈ s.token.toList, bareChar c := by
  refine ⟨by cases s <;> decide, List.all_eq_true.1 ?_⟩
  cases s <;> decide

lemma bareChar_of_word? (he : e.Numeric) (h : e.word? = some u) : u ≠ [] ∧ ∀ c ∈ u, bareChar c := by
  cases e with
  | literal text =>
    obtain rfl := Option.some.inj h
    have hnum := he text (by simp [literals])
    refine ⟨?_, numeral_bareChar hnum⟩
    intro hnil
    rw [hnil] at hnum
    exact absurd hnum (by decide)
  | symbol s =>
    obtain rfl := Option.some.inj h
    exact token_bareChar s
  | raw | binary | call => cases h

/-- A leaf is known from its word. -/
lemma leafExpr_of_word? (he : e.Numeric) (h : e.word? = some u) : SyntaxTree.leafExpr u = e := by
  cases e with
  | literal text =>
    obtain rfl := Option.some.inj h
    rw [Grammar.leafExpr_of_isNumeral (he text (by simp [literals])), String.ofList_toList]
  | symbol s =>
    obtain rfl := Option.some.inj h
    exact Grammar.leafExpr_token s
  | raw | binary | call => cases h

lemma sexprOnto_of_word? (h : e.word? = some u) (r : List Char) : e.sexprOnto r = u ++ r := by
  cases e with
  | literal | symbol =>
    obtain rfl := Option.some.inj h
    rfl
  | raw | binary | call => cases h

lemma exists_word?_of_opener? (h : e.opener? = none) : ∃ u, e.word? = some u := by
  cases e with
  | literal | symbol => exact ⟨_, rfl⟩
  | raw | binary | call => cases h

/-! ### Reading the text off -/

/-- The first character says whether the text is a word, and if not, how it goes on. -/
lemma head?_sexprOnto (he : e.Numeric) (r : List Char) :
    (e.sexprOnto r).head?.filter (!bareChar ·) = e.opener? := by
  cases hopen : e.opener? with
  | none =>
    obtain ⟨u, hu⟩ := exists_word?_of_opener? hopen
    obtain ⟨hne, hbare⟩ := bareChar_of_word? he hu
    obtain ⟨c, u, rfl⟩ := List.exists_cons_of_ne_nil hne
    rw [sexprOnto_of_word? hu, List.cons_append, List.head?_cons, Option.filter_some,
      hbare c List.mem_cons_self]
    rfl
  | some c =>
    cases e with
    | literal | symbol => cases hopen
    | raw | binary | call =>
      obtain rfl := Option.some.inj hopen
      rfl

/-- What follows on an operand: nothing, a blank or a bracket. -/
def Ends (r : List Char) : Prop := ∀ c ∈ r.head?, bareChar c = false

lemma ends_cons {c : Char} (h : bareChar c = false) (r : List Char) : Ends (c :: r) := by
  intro d hd
  obtain rfl := Option.some.inj hd
  exact h

section Inj

variable {r r' : List Char}

lemma inj_of_words (he : e.Numeric) (he' : e'.Numeric) (hr : Ends r) (hr' : Ends r')
    (hword : e.opener? = none) (hword' : e'.opener? = none)
    (h : e.sexprOnto r = e'.sexprOnto r') : e = e' ∧ r = r' := by
  obtain ⟨u, hu⟩ := exists_word?_of_opener? hword
  obtain ⟨v, hv⟩ := exists_word?_of_opener? hword'
  rw [sexprOnto_of_word? hu, sexprOnto_of_word? hv] at h
  obtain ⟨rfl, hrest⟩ := append_inj_of_stop bareChar (bareChar_of_word? he hu).2
    (bareChar_of_word? he' hv).2 hr hr' h
  exact ⟨(leafExpr_of_word? he hu).symm.trans (leafExpr_of_word? he' hv), hrest⟩

lemma letters_injective {f g : Func} (h : f.letters = g.letters) : f = g := by
  revert h
  cases f <;> cases g <;> decide

lemma letters_bareChar (f : Func) : ∀ c ∈ f.letters, bareChar c := by
  refine List.all_eq_true.1 ?_
  cases f <;> decide

/-- No name begins with an operator. -/
lemma letters_append_ne (f : Func) (op : Operator) (x y : List Char) :
    f.letters ++ x ≠ op.symbol :: y := by
  intro h
  obtain ⟨c, l, hl⟩ := List.exists_cons_of_ne_nil (List.ne_nil_of_length_pos
    (Formula.letters_length_pos f))
  rw [hl] at h
  refine Grammar.symbol_not_letter op f ?_
  rw [hl, ← (List.cons.inj h).1]
  exact List.mem_cons_self

lemma opener?_eq (he : e.Numeric) (he' : e'.Numeric) (h : e.sexprOnto r = e'.sexprOnto r') :
    e.opener? = e'.opener? := by
  rw [← head?_sexprOnto he r, h, head?_sexprOnto he' r']

/-- **The text of an expression is told from what follows on it**, and the expression from its
text. -/
theorem sexprOnto_inj (he : e.Numeric) (he' : e'.Numeric) (hr : Ends r) (hr' : Ends r')
    (h : e.sexprOnto r = e'.sexprOnto r') : e = e' ∧ r = r' := by
  -- on the way down what follows on an operand changes, so it is not fixed
  induction e generalizing e' r r' with
  | literal | symbol => exact inj_of_words he he' hr hr' rfl (opener?_eq he he' h).symm h
  | raw text =>
    have hopen := opener?_eq he he' h
    cases e' with
    | raw text' =>
      obtain ⟨htext, hrest⟩ := quote_append_inj h
      exact ⟨congrArg raw (String.toList_inj.1 htext), hrest⟩
    | literal | symbol | binary | call => cases hopen
  | binary op left right ihl ihr =>
    have hopen := opener?_eq he he' h
    cases e' with
    | binary op' left' right' =>
      obtain ⟨hleft, hright⟩ := List.forall_mem_append.1 he
      obtain ⟨hleft', hright'⟩ := List.forall_mem_append.1 he'
      simp only [sexprOnto, List.cons.injEq, true_and] at h
      obtain ⟨hop, hoperands⟩ := h
      obtain ⟨rfl, hsecond⟩ := ihl hleft hleft' (ends_cons rfl _) (ends_cons rfl _) hoperands
      obtain ⟨rfl, hclose⟩ := ihr hright hright' (ends_cons rfl _) (ends_cons rfl _)
        (List.cons.inj hsecond).2
      rw [Formula.symbol_injective hop]
      exact ⟨rfl, (List.cons.inj hclose).2⟩
    | call f operand => exact absurd (List.cons.inj h).2.symm (letters_append_ne f op _ _)
    | literal | symbol | raw => cases hopen
  | call f operand ih =>
    have hopen := opener?_eq he he' h
    cases e' with
    | binary op left right => exact absurd (List.cons.inj h).2 (letters_append_ne f op _ _)
    | call f' operand' =>
      obtain ⟨hname, hblank⟩ := append_inj_of_stop bareChar (letters_bareChar f)
        (letters_bareChar f') (ends_cons rfl _) (ends_cons rfl _) (List.cons.inj h).2
      have hoperand' : operand'.Numeric := he'
      obtain ⟨rfl, hclose⟩ := ih he hoperand' (ends_cons rfl _) (ends_cons rfl _)
        (List.cons.inj hblank).2
      rw [letters_injective hname]
      exact ⟨rfl, (List.cons.inj hclose).2⟩
    | literal | symbol | raw => cases hopen

end Inj

end Expr

/-- **The bracketed form identifies the expression.** Two formulas have the same bracketed form
exactly if they stand for the same expression, down to the texts of raw leaves. -/
theorem Formula.sexpr_parse_eq_iff (s t : String) :
    (parse s).sexpr = (parse t).sexpr ↔ parse s = parse t := by
  have hnumeric : ∀ source, (parse source).Numeric := fun _ _ h =>
    SyntaxTree.isNumeral_of_mem_literals h
  have hend : Expr.Ends [] := by simp [Expr.Ends]
  constructor
  · intro h
    exact (Expr.sexprOnto_inj (hnumeric s) (hnumeric t) hend hend h).1
  · intro h
    rw [h]

-- quotes, escapes and brackets inside a raw leaf stay inside it
example : (Formula.parse "a\"(\u0301)*-i").sexpr = "(* \"a\\\"(\\u\x7b301\x7d)\" -i)".toList := by
  decide +kernel

end EscapeTime
