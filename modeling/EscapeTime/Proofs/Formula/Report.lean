import EscapeTime.Proofs.Formula.Layout

namespace EscapeTime

/-!
# Where diagnostics point

A diagnostic lies in the span whose tree reports it, and what it says of the text there is true. The
cuts keep diagnostics apart: an operator stands between those of its two operands, a name between the
text dropped before it and those of the argument. So they are reported from left to right, and the
one that strict reading gives is the leftmost.
-/

/-- What the diagnostic says is true of the text. -/
def Diagnostic.Holds (w : List Char) : Diagnostic → Prop
  | unrecognizedToken s text =>
    s.start < s.stop ∧ text.toList = s.slice w ∧ SyntaxTree.isNumeral text.toList = false ∧
      ∀ x : Symbol, x.token ≠ text
  | missingOperand s => s.start = s.stop
  | unexpectedPrefix s text f =>
    s.start < s.stop ∧ text.toList = s.slice w ∧ f.letters <+: w.drop s.stop

namespace SyntaxTree

open Formula

/-- The diagnostic points into the span, and what it says is true. -/
structure Located (w : List Char) (s : Span) (d : Diagnostic) : Prop where
  start_le : s.start ≤ d.span.start
  start_le_stop : d.span.start ≤ d.span.stop
  stop_le : d.span.stop ≤ s.stop
  holds : d.Holds w

variable {w : List Char} {s : Span} {t : SyntaxTree} {d : Diagnostic}

lemma Located.mono {s' : Span} (h : Located w s d) (hstart : s'.start ≤ s.start)
    (hstop : s.stop ≤ s'.stop) : Located w s' d :=
  ⟨hstart.trans h.start_le, h.start_le_stop, h.stop_le.trans hstop, h.holds⟩

lemma ofToken?_eq_none_iff {text : String} :
    Symbol.ofToken? text = none ↔ ∀ x : Symbol, x.token ≠ text := by
  rw [Symbol.ofToken?, List.find?_eq_none]
  constructor
  · intro h x
    have hx : x ∈ Symbol.all := by cases x <;> decide
    simpa using h x hx
  · intro h x _
    simpa using h x

/-- A leaf is reported for what it is. -/
lemma located_leaf (hle : s.start ≤ s.stop) (hw : s.stop ≤ w.length)
    (h : leafDiagnostic? s (s.slice w) = some d) : Located w s d := by
  have hlength : (s.slice w).length = s.stop - s.start := s.length_slice hw
  unfold leafDiagnostic? leafExpr at h
  by_cases hnum : isNumeral (s.slice w)
  · simp [hnum] at h
  · cases htoken : Symbol.ofToken? (String.ofList (s.slice w)) with
    | some x => simp [hnum, htoken] at h
    | none =>
      by_cases hempty : (s.slice w).isEmpty
      · simp only [hnum, htoken, hempty, if_true, Bool.false_eq_true, if_false,
          Option.some.injEq] at h
        subst h
        rw [List.isEmpty_iff_length_eq_zero, hlength] at hempty
        refine ⟨le_refl _, hle, le_refl _, ?_⟩
        simp only [Diagnostic.Holds]
        omega
      · simp only [hnum, htoken, hempty, Bool.false_eq_true, if_false, Option.some.injEq] at h
        subst h
        rw [List.isEmpty_iff_length_eq_zero, hlength] at hempty
        refine ⟨le_refl _, hle, le_refl _, ?_, String.toList_ofList, ?_, ?_⟩
        · omega
        · rw [String.toList_ofList]
          simpa using hnum
        · exact ofToken?_eq_none_iff.1 htoken

/-- Every diagnostic of a tree points into the span that the tree covers. -/
theorem Covers.located (h : Covers w s t) : ∀ d ∈ t.diagnostics w, Located w s d := by
  induction h with
  | @binary s position op left right hstart hstop _ _ ihl ihr =>
    intro d hd
    rcases List.mem_append.1 hd with hd | hd
    · exact (ihl d hd).mono (le_refl _) (by simp only; omega)
    · exact (ihr d hd).mono (by simp only; omega) (le_refl _)
  | @call s position f argument hstart hstop hname _ ih =>
    have hargument : ∀ d ∈ argument.diagnostics w, Located w s d := fun d hd =>
      (ih d hd).mono (by simp only; omega) (le_refl _)
    intro d hd
    rw [diagnostics] at hd
    split at hd
    · rcases List.mem_cons.1 hd with rfl | hd
      · -- the dropped text ends where the name begins
        refine ⟨le_refl _, hstart, ?_, ‹_›, String.toList_ofList, hname⟩
        simp only [Diagnostic.span, dropped]
        omega
      · exact hargument d hd
    · exact hargument d hd
  | @group s inner hlt _ _ ih =>
    intro d hd
    refine (ih d hd).mono (by simp only [inside]; omega) ?_
    simp only [inside]
    omega
  | leaf hle hw =>
    intro d hd
    exact located_leaf hle hw (Option.mem_toList.1 hd)

/-- A tree reports from left to right. -/
theorem Covers.pairwise_diagnostics (h : Covers w s t) :
    (t.diagnostics w).Pairwise (·.span.stop < ·.span.start) := by
  induction h with
  | @binary s position op left right hstart hstop hl hr ihl ihr =>
    refine List.pairwise_append.2 ⟨ihl, ihr, fun d hd e he => ?_⟩
    have hleft := (hl.located d hd).stop_le
    have hright := (hr.located e he).start_le
    simp only at hleft hright
    omega
  | @call s position f argument hstart hstop hname hx ih =>
    rw [diagnostics]
    split
    · refine List.pairwise_cons.2 ⟨fun e he => ?_, ih⟩
      have hargument := (hx.located e he).start_le
      have hletters := letters_length_pos f
      simp only [Diagnostic.span, dropped] at hargument ⊢
      omega
    · exact ih
  | group _ _ _ ih => exact ih
  | @leaf s _ _ =>
    rw [diagnostics]
    cases leafDiagnostic? s (s.slice w) with
    | none => exact .nil
    | some d => exact List.pairwise_singleton _ d

end SyntaxTree

namespace Formula

/-- Among diagnostics that go from left to right the first one is the leftmost. -/
lemma head?_eq_some_iff_leftmost {ds : List Diagnostic} {d : Diagnostic}
    (horder : ds.Pairwise (·.span.stop < ·.span.start))
    (hspan : ∀ e ∈ ds, e.span.start ≤ e.span.stop) :
    ds.head? = some d ↔ d ∈ ds ∧ ∀ e ∈ ds, d.span.start ≤ e.span.start := by
  cases ds with
  | nil => simp
  | cons first rest =>
    have hfirst := hspan first List.mem_cons_self
    have hlater : ∀ e ∈ rest, first.span.start < e.span.start := fun e he =>
      Nat.lt_of_le_of_lt hfirst ((List.pairwise_cons.1 horder).1 e he)
    rw [List.head?_cons, Option.some.injEq]
    constructor
    · rintro rfl
      refine ⟨List.mem_cons_self, fun e he => ?_⟩
      rcases List.mem_cons.1 he with rfl | he
      · exact le_refl _
      · exact (hlater e he).le
    · rintro ⟨hd, hleast⟩
      rcases List.mem_cons.1 hd with rfl | hd
      · rfl
      · have h₁ := hlater d hd
        have h₂ := hleast first List.mem_cons_self
        omega

/-- **Diagnostics point at the text they are about, from left to right.** Each lies in the text and
says what is true there; each ends before the next one starts. So what strict reading reports is the
leftmost of them. -/
theorem diagnostics_left_to_right (source : String) :
    (∀ d ∈ diagnostics source,
        d.span.start ≤ d.span.stop ∧ d.span.stop ≤ (chars source).length ∧
          d.Holds (chars source)) ∧
      (diagnostics source).Pairwise (fun d e => d.span.stop < e.span.start) ∧
      ∀ d, parseStrict source = .error d ↔
        d ∈ diagnostics source ∧ ∀ e ∈ diagnostics source, d.span.start ≤ e.span.start := by
  have hcovers := SyntaxTree.covers_ofChars (chars source)
  have hlocated : ∀ d ∈ diagnostics source,
      SyntaxTree.Located (chars source) ⟨0, (chars source).length⟩ d := hcovers.located
  have horder : (diagnostics source).Pairwise (fun d e => d.span.stop < e.span.start) :=
    hcovers.pairwise_diagnostics
  refine ⟨fun d hd => ?_, horder, fun d => ?_⟩
  · obtain ⟨-, hspan, hstop, hholds⟩ := hlocated d hd
    exact ⟨hspan, hstop, hholds⟩
  · rw [parseStrict_eq_error_iff]
    exact head?_eq_some_iff_leftmost horder fun e he => (hlocated e he).start_le_stop

-- operands that are missing next to each other are still told apart
example : diagnostics "+2sin()+" =
    [.missingOperand ⟨0, 0⟩, .unexpectedPrefix ⟨1, 2⟩ "2" .sin, .missingOperand ⟨6, 6⟩,
      .missingOperand ⟨8, 8⟩] := by
  decide +kernel

end Formula

end EscapeTime
