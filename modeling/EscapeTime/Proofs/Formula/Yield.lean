import EscapeTime.Proofs.Formula.Strict

namespace EscapeTime

/-!
# What strict reading keeps

The yield of an expression is its text without brackets. Strict reading keeps the whole text when it
closes as many brackets as it opens. It never closes a bracket that is not open and never makes up
text. On a text that leaves a bracket open, though, it can drop what it did not look at.
-/

/-- The leaves, operators and names of the expression, in the order of the text. -/
def Expr.yield : Expr → List Char
  | literal text => text.toList
  | symbol s => s.token.toList
  | raw text => text.toList
  | binary op left right => left.yield ++ op.symbol :: right.yield
  | call f operand => f.letters ++ operand.yield

namespace Grammar

open Formula SyntaxTree

/-- The text without its brackets. -/
def bare (w : List Char) : List Char := w.filter fun c => c != '(' && c != ')'

/-- Nothing of the text is lost in the expression: the brackets are balanced, and the rest is the
expression's yield. -/
structure Kept (w : List Char) (n : Expr) : Prop where
  opened : ∀ u, u <+: w → u.count ')' ≤ u.count '('
  closed : w.count '(' = w.count ')'
  yield : bare w = n.yield

@[simp] lemma bare_append (u v : List Char) : bare (u ++ v) = bare u ++ bare v := by
  simp [bare]

lemma bare_of_plain {w : List Char} (h : ∀ c ∈ w, c ≠ '(' ∧ c ≠ ')') : bare w = w := by
  simpa [bare, List.filter_eq_self] using h

lemma bare_symbol (op : Operator) (v : List Char) : bare (op.symbol :: v) = op.symbol :: bare v := by
  rw [← List.singleton_append, bare_append,
    bare_of_plain (by simpa using symbol_not_bracket op), List.singleton_append]

lemma bare_letters (f : Func) : bare f.letters = f.letters := bare_of_plain (letters_not_bracket f)

lemma bare_open (v : List Char) : bare ('(' :: v) = bare v := by
  simp [bare]

theorem Derives.bare_eq_yield {k : Level} {w : List Char} {n : Expr} (h : Derives k w n) :
    bare w = n.yield := by
  induction h with
  | lift _ ih => exact ih
  | binary _ _ _ ihl ihr => rw [bare_append, bare_symbol, ihl, ihr, Expr.yield]
  | negNumeral h =>
    rw [bare_of_plain (by simpa using fun c hc => (h.numChar c hc).not_bracket), Expr.yield,
      String.toList_ofList]
  | numeral h =>
    rw [bare_of_plain fun c hc => (h.numChar c hc).not_bracket, Expr.yield, String.toList_ofList]
  | negImagUnit | iterate | parameter | imagUnit => rfl
  | group _ ih =>
    rw [bare_open, bare_append, ih]
    exact List.append_nil _
  | call _ _ ih => rw [bare_append, bare_letters, ih, Expr.yield]

lemma yield_leafExpr (w : List Char) : (leafExpr w).yield = w := by
  unfold leafExpr
  split
  · exact String.toList_ofList
  · split
    · rename_i s hs
      have htoken : s.token = String.ofList w := by simpa using List.find?_some hs
      rw [Expr.yield, htoken, String.toList_ofList]
    · exact String.toList_ofList

/-- Strict reading makes up no text. -/
theorem yield_sublist_of_reads {w : List Char} {n : Expr} (h : Reads w n) :
    n.yield.Sublist (bare w) := by
  induction h with
  | @operator cs k op l r hroot _ _ ihl ihr =>
    obtain ⟨u, v, rfl, rfl, -⟩ := (rootOperator?_eq_some_iff.1 hroot).stands
    rw [List.take_left] at ihl
    rw [bare_append, bare_symbol, Expr.yield]
    exact ihl.append (.cons_cons _ (by simpa using ihr))
  | @call cs f x _ hroot _ ih =>
    obtain ⟨u, v, rfl, hu, -⟩ := (rootFunc?_eq_some_iff.1 hroot).stands
    obtain rfl := List.length_eq_zero_iff.1 hu
    rw [List.nil_append, bare_append, bare_letters, Expr.yield]
    exact (List.Sublist.refl _).append (by simpa using ih)
  | @group cs x _ _ _ _ ih =>
    exact ih.trans (((List.dropLast_sublist _).trans (List.tail_sublist _)).filter _)
  | @leaf cs x _ _ _ hx hraw =>
    subst hx
    rw [yield_leafExpr, bare_of_plain (plain_of_leaf hraw)]

lemma opened_iff_count {w : List Char} :
    Opened w ↔ ∀ u, u <+: w → u.count ')' ≤ u.count '(' := by
  constructor
  · rintro h u ⟨v, rfl⟩
    have := h u v rfl
    unfold depth at this
    omega
  · rintro h u v rfl
    have := h u (List.prefix_append _ _)
    unfold depth
    omega

/-- **What strict reading keeps.** In a text that is read strictly no bracket is closed before it is
opened, and the expression's yield is made of the text's own characters in their order. Nothing is
lost exactly when the text closes as many brackets as it opens. -/
theorem parseStrict_kept_iff (source : String) (n : Expr) (h : parseStrict source = .ok n) :
    (∀ u, u <+: chars source → u.count ')' ≤ u.count '(') ∧
      n.yield.Sublist (bare (chars source)) ∧
      (Kept (chars source) n ↔ (chars source).count '(' = (chars source).count ')') := by
  have hr := (reads_chars_iff source n).2 h
  have hopened := opened_iff_count.1 (opened_of_reads hr)
  refine ⟨hopened, yield_sublist_of_reads hr, fun hk => hk.closed, fun hcount => ?_⟩
  have hd := derives_of_reads hr (depth_eq_zero_iff.2 hcount)
  exact ⟨hopened, hcount, hd.bare_eq_yield⟩

/-- A sum in brackets, with a blank, is kept whole. -/
theorem parseStrict_kept_bracketed_sum :
    parseStrict "(z - 1)*c" = .ok (.binary .mul (.binary .sub (.symbol .iterate) (.literal "1"))
        (.symbol .parameter)) ∧
      Kept (chars "(z - 1)*c") (.binary .mul (.binary .sub (.symbol .iterate) (.literal "1"))
        (.symbol .parameter)) := by
  have hread : parseStrict "(z - 1)*c" = .ok (.binary .mul
      (.binary .sub (.symbol .iterate) (.literal "1")) (.symbol .parameter)) := by decide +kernel
  exact ⟨hread, (parseStrict_kept_iff _ _ hread).2.2.2 (by decide)⟩

/-- A bracket that is never closed takes the last character with it: `(zc` is read as `z`. -/
theorem parseStrict_unclosed :
    parseStrict "(zc" = .ok (.symbol .iterate) ∧ ¬ Kept (chars "(zc") (.symbol .iterate) :=
  ⟨by decide +kernel, fun h => absurd h.closed (by decide)⟩

end Grammar

end EscapeTime
