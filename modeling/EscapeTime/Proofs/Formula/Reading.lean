import EscapeTime.Formula.Parse
import Mathlib.Data.List.Basic
import Mathlib.Tactic.Common

namespace EscapeTime

/-!
# Strict reading of a text

Strict reading refuses a text whose tree has anything to report. The spans of the tree are followed
down to the pieces of text that they stand for. What is left is a relation between a piece of text
and an expression with one rule for each kind of cut.
-/

namespace Span

lemma slice_whole (w : List Char) : (⟨0, w.length⟩ : Span).slice w = w := by
  simp [slice, length]

lemma length_slice (s : Span) {w : List Char} (h : s.stop ≤ w.length) :
    (s.slice w).length = s.length := by
  simp only [slice, length, List.length_take, List.length_drop]
  omega

lemma slice_take (w : List Char) (s : Span) {k : Nat} (h : k ≤ s.length) :
    (⟨s.start, s.start + k⟩ : Span).slice w = (s.slice w).take k := by
  simp only [slice, length, List.take_take] at *
  congr 1
  omega

lemma slice_drop (w : List Char) (s : Span) (k : Nat) :
    (⟨s.start + k, s.stop⟩ : Span).slice w = (s.slice w).drop k := by
  simp only [slice, length, List.drop_take, List.drop_drop]
  congr 1
  omega

/-- Taking off the first and the last position takes off the first and the last character. -/
lemma slice_inside (w : List Char) {s : Span} (h : s.stop ≤ w.length) :
    (SyntaxTree.inside s).slice w = (s.slice w).tail.dropLast := by
  simp only [slice, length, SyntaxTree.inside, List.dropLast_eq_take, ← List.drop_one,
    List.drop_take, List.drop_drop, List.take_take, List.length_take, List.length_drop]
  congr 1
  omega

end Span

namespace Formula

open SyntaxTree

/-- The text is read, with nothing to report, as the expression. -/
inductive Reads : List Char → Expr → Prop
  | operator {cs : List Char} {k : Nat} {op : Operator} {l r : Expr}
    (hroot : rootOperator? cs = some (k, op))
    (hl : Reads (cs.take k) l) (hr : Reads (cs.drop (k + 1)) r) : Reads cs (.binary op l r)
  /-- No text stands before the name. -/
  | call {cs : List Char} {f : Func} {x : Expr} (hop : rootOperator? cs = none)
    (hroot : rootFunc? cs = some (0, f)) (hx : Reads (cs.drop f.letters.length) x) :
    Reads cs (.call f x)
  /-- The last character is taken off whatever it is. -/
  | group {cs : List Char} {x : Expr} (hop : rootOperator? cs = none) (hf : rootFunc? cs = none)
    (hhead : cs.head? = some '(') (hx : Reads cs.tail.dropLast x) : Reads cs x
  | leaf {cs : List Char} {x : Expr} (hop : rootOperator? cs = none) (hf : rootFunc? cs = none)
    (hhead : cs.head? ≠ some '(') (hx : leafExpr cs = x) (hraw : ∀ t, x ≠ .raw t) : Reads cs x

section Cases

variable {cs : List Char} {n : Expr}

lemma reads_of_operator {k : Nat} {op : Operator} (hroot : rootOperator? cs = some (k, op)) :
    Reads cs n ↔ ∃ l r, n = .binary op l r ∧ Reads (cs.take k) l ∧ Reads (cs.drop (k + 1)) r := by
  constructor
  · intro h
    cases h with
    | operator hroot' hl hr =>
      obtain ⟨rfl, rfl⟩ := Prod.mk.inj (Option.some.inj (hroot.symm.trans hroot'))
      exact ⟨_, _, rfl, hl, hr⟩
    | call hop | group hop | leaf hop => simp [hroot] at hop
  · rintro ⟨l, r, rfl, hl, hr⟩
    exact .operator hroot hl hr

lemma reads_of_name {k : Nat} {f : Func} (hop : rootOperator? cs = none)
    (hroot : rootFunc? cs = some (k, f)) :
    Reads cs n ↔ k = 0 ∧ ∃ x, n = .call f x ∧ Reads (cs.drop f.letters.length) x := by
  constructor
  · intro h
    cases h with
    | operator hroot' => simp [hop] at hroot'
    | call _ hroot' hx =>
      obtain ⟨rfl, rfl⟩ := Prod.mk.inj (Option.some.inj (hroot.symm.trans hroot'))
      exact ⟨rfl, _, rfl, hx⟩
    | group _ hf | leaf _ hf => simp [hroot] at hf
  · rintro ⟨rfl, x, rfl, hx⟩
    exact .call hop hroot hx

lemma reads_of_open (hop : rootOperator? cs = none) (hf : rootFunc? cs = none)
    (hhead : cs.head? = some '(') : Reads cs n ↔ Reads cs.tail.dropLast n := by
  constructor
  · intro h
    cases h with
    | operator hroot => simp [hop] at hroot
    | call _ hroot => simp [hf] at hroot
    | group _ _ _ hx => exact hx
    | leaf _ _ hhead' => exact absurd hhead hhead'
  · exact .group hop hf hhead

lemma reads_of_leaf (hop : rootOperator? cs = none) (hf : rootFunc? cs = none)
    (hhead : cs.head? ≠ some '(') : Reads cs n ↔ leafExpr cs = n ∧ ∀ t, n ≠ .raw t := by
  constructor
  · intro h
    cases h with
    | operator hroot => simp [hop] at hroot
    | call _ hroot => simp [hf] at hroot
    | group _ _ hhead' => exact absurd hhead' hhead
    | leaf _ _ _ hx hraw => exact ⟨hx, hraw⟩
  · rintro ⟨hx, hraw⟩
    exact .leaf hop hf hhead hx hraw

end Cases

lemma leafDiagnostic?_eq_none_iff {s : Span} {cs : List Char} :
    leafDiagnostic? s cs = none ↔ ∀ t, leafExpr cs ≠ .raw t := by
  unfold leafDiagnostic?
  split <;> simp_all

/-- A span's tree has nothing to report exactly when the span's text is read, and then as the same
expression. -/
theorem reads_slice_iff (w : List Char) (s : Span) (hs : s.stop ≤ w.length) (n : Expr) :
    Reads (s.slice w) n ↔ (cut w s).diagnostics w = [] ∧ (cut w s).expr w = n := by
  fun_induction cut w s generalizing n with
  | case1 s k op hroot hk hlen ihl ihr =>
    have hleft := ihl (by simp only [Span.length] at hlen ⊢; omega)
    have hright := ihr hs
    rw [Span.slice_take w s (by omega)] at hleft
    rw [Nat.add_assoc, Span.slice_drop] at hright
    rw [reads_of_operator hroot]
    simp only [SyntaxTree.diagnostics, expr, List.append_eq_nil_iff, hleft, hright, Nat.add_assoc]
    constructor
    · rintro ⟨l, r, rfl, ⟨dl, rfl⟩, dr, rfl⟩
      exact ⟨⟨dl, dr⟩, rfl⟩
    · rintro ⟨⟨dl, dr⟩, rfl⟩
      exact ⟨_, _, rfl, ⟨dl, rfl⟩, dr, rfl⟩
  | case2 s hop k f hroot hk hpos hlen ih =>
    have harg := ih hs
    rw [reads_of_name hop hroot]
    simp only [SyntaxTree.diagnostics, expr]
    by_cases hk0 : k = 0
    · subst hk0
      rw [Nat.add_zero, Span.slice_drop] at harg
      rw [Nat.add_zero, if_neg (by omega)]
      simp only [harg, true_and]
      constructor
      · rintro ⟨x, rfl, d, rfl⟩
        exact ⟨d, rfl⟩
      · rintro ⟨d, rfl⟩
        exact ⟨_, rfl, d, rfl⟩
    · rw [if_pos (by omega)]
      simp [hk0]
  | case3 s hop hf hhead hpos hlen ih =>
    rw [reads_of_open hop hf hhead, ← Span.slice_inside w hs]
    simp only [SyntaxTree.diagnostics, expr]
    exact ih (by simp only [Span.length, inside] at hlen ⊢; omega) n
  | case4 s hop hf hhead =>
    rw [reads_of_leaf hop hf hhead]
    simp only [SyntaxTree.diagnostics, expr, Option.toList_eq_nil_iff, leafDiagnostic?_eq_none_iff]
    constructor
    · rintro ⟨rfl, hraw⟩
      exact ⟨hraw, rfl⟩
    · rintro ⟨hraw, rfl⟩
      exact ⟨rfl, hraw⟩

lemma parseStrict_eq_ok_iff {source : String} {n : Expr} :
    parseStrict source = .ok n ↔ diagnostics source = [] ∧ parse source = n := by
  unfold parseStrict
  split <;> simp_all

lemma parseStrict_eq_error_iff {source : String} {d : Diagnostic} :
    parseStrict source = .error d ↔ (diagnostics source).head? = some d := by
  unfold parseStrict
  split <;> simp_all

theorem reads_chars_iff (source : String) (n : Expr) :
    Reads (chars source) n ↔ parseStrict source = .ok n := by
  have h := reads_slice_iff (chars source) ⟨0, (chars source).length⟩ (Nat.le_refl _) n
  rw [Span.slice_whole] at h
  rw [h]
  unfold parseStrict diagnostics parse tree ofChars
  split <;> simp_all

end Formula

end EscapeTime
