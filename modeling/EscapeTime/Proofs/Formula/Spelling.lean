import EscapeTime.Kernel.Compile
import EscapeTime.Proofs.Formula.Normal
import EscapeTime.Proofs.Text.Words

namespace EscapeTime.Formula

/-!
# Spellings of a formula

Blanks may be put in anywhere, and a hyphen may be written as the minus sign of mathematics: the
normal form stays the same, and with it all that is made of the text. The blanks are gone before the
text goes to lower case, so that a capital sigma does not see them, either.
-/

open Text

/-- The second text is the first one with blanks put in anywhere and with some of its hyphens
written as the minus sign of mathematics. -/
inductive Respelled : List Char → List Char → Prop
  | nil : Respelled [] []
  | keep {s t : List Char} (c : Char) (h : Respelled s t) : Respelled (c :: s) (c :: t)
  | blank {s t : List Char} {b : Char} (hb : isBlank b) (h : Respelled s t) : Respelled s (b :: t)
  | minus {s t : List Char} (h : Respelled s t) : Respelled ('-' :: s) ('−' :: t)

lemma normalize_eq (s : List Char) : normalize s = lower ((shown s).map plainMinus) := rfl

lemma normalize_congr {s t : List Char} (h : shown t = shown s) : normalize t = normalize s := by
  rw [normalize_eq, h, normalize_eq]

/-- Another spelling keeps the same characters in the same order, up to the form of a minus. -/
lemma Respelled.map_shown {s t : List Char} (h : Respelled s t) :
    (shown t).map plainMinus = (shown s).map plainMinus := by
  induction h with
  | nil => rfl
  | keep c _ ih =>
    by_cases hc : isBlank c
    · simpa [shown, hc] using ih
    · simpa [shown, hc] using ih
  | blank hb _ ih => simpa [shown, hb] using ih
  | minus _ ih =>
    have hsign : isBlank '−' = false := by decide
    have hhyphen : isBlank '-' = false := by decide
    have hplain : plainMinus '−' = plainMinus '-' := by decide
    simpa [shown, hsign, hhyphen, hplain] using ih

lemma Respelled.normalize_eq {s t : List Char} (h : Respelled s t) : normalize t = normalize s := by
  rw [Formula.normalize_eq, h.map_shown, Formula.normalize_eq]

/-- **The normal form is final.** -/
lemma normalize_normalize (s : List Char) : normalize (normalize s) = normalize s :=
  normalize_of_settled (settled_normalize s)

lemma Settled.ne_minus {c : Char} (h : Settled c) : c ≠ '−' := by
  rintro rfl
  exact absurd h.2.1 (by decide)

/-! ### What is made of a text -/

/-- The two texts are cut into the same tree and stand for the same expression, the same things are
wrong with them at the same places, and they give the same kernel or are refused alike. -/
structure ReadAlike (s t : String) : Prop where
  tree : Formula.tree t = Formula.tree s
  parse : Formula.parse t = Formula.parse s
  diagnostics : Formula.diagnostics t = Formula.diagnostics s
  parseStrict : Formula.parseStrict t = Formula.parseStrict s
  compileWith : ∀ policy, Kernel.compileWith policy t = Kernel.compileWith policy s

/-- All that is made of a text is made of its normal form. -/
lemma readAlike_of_chars_eq {s t : String} (h : chars t = chars s) : ReadAlike s t := by
  have htree : tree t = tree s := by rw [tree, h, tree]
  have hparse : parse t = parse s := by rw [parse, htree, h, parse]
  have hdiagnostics : diagnostics t = diagnostics s := by rw [diagnostics, htree, h, diagnostics]
  have hstrict : parseStrict t = parseStrict s := by
    rw [parseStrict, hdiagnostics, hparse, parseStrict]
  refine ⟨htree, hparse, hdiagnostics, hstrict, fun policy => ?_⟩
  cases policy with
  | compat => rw [Kernel.compileWith, Kernel.compileWith, Kernel.compile, hparse, Kernel.compile]
  | strict => rw [Kernel.compileWith, hstrict, Kernel.compileWith]

/-- A formula that is split into words and joined again is read like the formula. -/
lemma readAlike_words (s : String) :
    ReadAlike s (" ".intercalate ((words s.toList).map String.ofList)) := by
  refine readAlike_of_chars_eq (normalize_congr ?_)
  rw [String.toList_intercalate, List.map_map]
  have hpieces : (words s.toList).map (String.toList ∘ String.ofList) = words s.toList := by
    simp [Function.comp_def]
  rw [hpieces]
  exact shown_intercalate_words (by simp; decide) s.toList

end EscapeTime.Formula
