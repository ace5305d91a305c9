import EscapeTime.Formula.Parse
import EscapeTime.Proofs.Formula.InPlace
import EscapeTime.Proofs.Kernel.Discipline

namespace EscapeTime

/-!
# How much is read

A reading goes from span to span. A cut leaves spans inside the one that is cut, apart from each
other and shorter, and it takes at least one character away. That character pays for the looks at
the spans beside it, of which there are two at most. So a text is read with two looks for each
character and one for the whole, and no look-up leaves the text on the way.
-/

/-- The number of operators, calls and leaves. -/
def Expr.nodeCount : Expr → Nat
  | literal _ | symbol _ | raw _ => 1
  | binary _ left right => left.nodeCount + right.nodeCount + 1
  | call _ operand => operand.nodeCount + 1

lemma Expr.nodeCount_eq (e : Expr) : e.nodeCount = 2 * e.operatorCount + e.callCount + 1 := by
  induction e with
  | literal text => rfl
  | symbol s => rfl
  | raw text => rfl
  | binary op left right ihl ihr =>
    simp only [nodeCount, operatorCount, callCount]
    omega
  | call f operand ih =>
    simp only [nodeCount, operatorCount, callCount]
    omega

/-- Every node but the outermost has a slot of its own. -/
lemma Kernel.slotCount_ofExpr_add_one (e : Expr) : (ofExpr e).slotCount + 1 = e.nodeCount := by
  rw [e.nodeCount_eq, slotCount, ofExpr, Block.length_slots_eq]

namespace SyntaxTree

open Formula InPlace

/-! ### The spans that are looked at -/

/-- The spans of a tree, in the order of the work. -/
def spans : SyntaxTree → List Span
  | binary s _ _ left right => s :: (left.spans ++ right.spans)
  | call s _ _ argument => s :: argument.spans
  | group s inner => s :: inner.spans
  | leaf s => [s]

/-- The account has a line for each of them. -/
lemma filter_account (w : List Char) (t : SyntaxTree) :
    (t.account w).filter (·.level == .trace) = t.spans.map (entry w) := by
  induction t with
  | binary s position op left right ihl ihr =>
    simp [account, spans, ihl, ihr, entry, operatorLine]
  | call s position f argument ih =>
    by_cases h : s.start < position <;> simp [account, spans, ih, entry, droppedLine, h]
  | group s inner ih => simp [account, spans, ih, entry]
  | leaf s =>
    cases h : leafDiagnostic? s (s.slice w) <;> simp [account, spans, entry, rawLine, h]

/-- A span is looked at, and then what its cut leaves. -/
lemma spans_cut (w : List Char) (s : Span) :
    (cut w s).spans = s :: ((cut w s).root.parts s).flatMap fun part => (cut w part).spans := by
  cases hop : rootOperator? (s.slice w) with
  | some p =>
    rw [cut_of_operator hop]
    simp [spans, root, Cut.parts]
  | none =>
    cases hf : rootFunc? (s.slice w) with
    | some p =>
      rw [cut_of_name hop hf]
      simp [spans, root, Cut.parts]
    | none =>
      by_cases hhead : (s.slice w).head? = some '('
      · rw [cut_of_open hop hf hhead]
        simp [spans, root, Cut.parts]
      · rw [cut_of_leaf hop hf hhead]
        rfl

section Visits

variable {w : List Char} {s r : Span}

lemma mem_spans_cut_iff :
    r ∈ (cut w s).spans ↔ r = s ∨ ∃ part ∈ (cut w s).root.parts s, r ∈ (cut w part).spans := by
  rw [spans_cut, List.mem_cons, List.mem_flatMap]

/-- What passes from the spans that a cut leaves to the span that is cut holds of every span of the
text. -/
theorem cut_induction {motive : Span → Prop}
    (step : ∀ s : Span, s.start ≤ s.stop → s.stop ≤ w.length →
      (∀ part ∈ (cut w s).root.parts s, motive part) → motive s)
    (hle : s.start ≤ s.stop) (hw : s.stop ≤ w.length) : motive s := by
  induction hn : s.length using Nat.strong_induction_on generalizing s with
  | _ n ih =>
    refine step s hle hw fun part hpart => ?_
    obtain ⟨-, hle', hstop, hshorter⟩ := (covers_cut w s hle hw).part part hpart
    exact ih part.length (hn ▸ hshorter) hle' (hstop.trans hw) rfl

/-- Only spans of the text are looked at. -/
lemma bounds_of_mem_spans (hle : s.start ≤ s.stop) (hw : s.stop ≤ w.length)
    (hr : r ∈ (cut w s).spans) : r.start ≤ r.stop ∧ r.stop ≤ w.length := by
  revert hr
  refine cut_induction (motive := fun s => r ∈ (cut w s).spans → _)
    (fun s hle hw ih hr => ?_) hle hw
  obtain rfl | ⟨part, hpart, hr⟩ := mem_spans_cut_iff.1 hr
  · exact ⟨hle, hw⟩
  · exact ih part hpart hr

/-- What a cut leaves of a span that is looked at is looked at. -/
lemma part_mem_spans (hle : s.start ≤ s.stop) (hw : s.stop ≤ w.length) (hr : r ∈ (cut w s).spans)
    {part : Span} (hpart : part ∈ (cut w r).root.parts r) : part ∈ (cut w s).spans := by
  revert hr
  refine cut_induction (motive := fun s => r ∈ (cut w s).spans → part ∈ (cut w s).spans)
    (fun s hle hw ih hr => ?_) hle hw
  obtain rfl | ⟨q, hq, hr⟩ := mem_spans_cut_iff.1 hr
  · exact mem_spans_cut_iff.2 (.inr ⟨part, hpart, mem_spans_cut_iff.2 (.inl rfl)⟩)
  · exact mem_spans_cut_iff.2 (.inr ⟨q, hq, ih q hq hr⟩)

end Visits

/-! ### How many there are -/

section Count

variable {w : List Char} {s : Span} {t : SyntaxTree}

/-- The spans that a cut leaves are apart from each other. -/
lemma Covers.pairwise_parts (h : Covers w s t) : (t.root.parts s).Pairwise (·.stop < ·.start) := by
  cases h with
  | binary => simp [root, Cut.parts]
  | call => exact List.pairwise_singleton _ _
  | group => exact List.pairwise_singleton _ _
  | leaf => exact .nil

/-- Each span may take two looks for each character and one more. The look at the span that is cut
is paid for by what the cut takes away. -/
lemma Covers.length_flatMap_parts_le (h : Covers w s t) {looks : Span → List Span}
    (hlooks : ∀ part ∈ t.root.parts s, (looks part).length ≤ 2 * part.length + 1) :
    ((t.root.parts s).flatMap looks).length ≤ 2 * s.length := by
  have hpart := h.part
  cases h with
  | @binary _ position op left right hstart hstop =>
    have hleft := hlooks ⟨s.start, position⟩ (by simp [root, Cut.parts])
    have hright := hlooks ⟨position + 1, s.stop⟩ (by simp [root, Cut.parts])
    simp only [Span.length] at hleft hright
    simp only [root, Cut.parts, List.flatMap_cons, List.flatMap_nil, List.append_nil,
      List.length_append, Span.length]
    omega
  | call | group =>
    have hshorter := (hpart _ (List.mem_singleton.2 rfl)).2.2.2
    have hinner := hlooks _ (List.mem_singleton.2 rfl)
    simp only [root, Cut.parts, List.flatMap_singleton]
    omega
  | leaf => exact Nat.zero_le _

lemma length_spans_cut_le (hle : s.start ≤ s.stop) (hw : s.stop ≤ w.length) :
    (cut w s).spans.length ≤ 2 * s.length + 1 := by
  refine cut_induction (motive := fun s => (cut w s).spans.length ≤ 2 * s.length + 1)
    (fun s hle hw ih => ?_) hle hw
  rw [spans_cut, List.length_cons]
  exact Nat.succ_le_succ ((covers_cut w s hle hw).length_flatMap_parts_le ih)

lemma nodeCount_expr_le (w : List Char) (t : SyntaxTree) :
    (t.expr w).nodeCount ≤ t.spans.length := by
  induction t with
  | binary s position op left right ihl ihr =>
    simp only [expr, Expr.nodeCount, spans, List.length_cons, List.length_append]
    omega
  | call s position f argument ih =>
    simp only [expr, Expr.nodeCount, spans, List.length_cons]
    omega
  | group s inner ih => exact Nat.le_succ_of_le ih
  | leaf s =>
    have hleaf : (leafExpr (s.slice w)).nodeCount = 1 := by
      unfold leafExpr
      split
      · rfl
      · split <;> rfl
    exact hleaf.le

end Count

end SyntaxTree

namespace Formula

open SyntaxTree InPlace

/-- The spans that are looked at when a formula's text is read, in the order of the work. -/
def looks (source : String) : List Span := (tree source).spans

/-- **Reading a text stays within it and takes linearly many looks.** Every span that is looked at
is a span of the text. Its cut is found in place with no failing look-up, and the spans that it
leaves are looked at in turn; they lie inside the span, apart from each other, and are shorter. The
account has a line for each look. There are no more than two for each character and one for the
whole, hence no more nodes, and no more slots than two for each character. -/
theorem reading_within_bounds (source : String) :
    (∀ s ∈ looks source, s.start ≤ s.stop ∧ s.stop ≤ (chars source).length ∧
      ∃ c, cutAt (chars source) s = .ok c ∧
        (∀ part ∈ c.parts s, part ∈ looks source ∧ s.start ≤ part.start ∧ part.stop ≤ s.stop ∧
          part.length < s.length) ∧
        (c.parts s).Pairwise (·.stop < ·.start)) ∧
    (looks source).head? = some ⟨0, (chars source).length⟩ ∧
    read (chars source) ⟨0, (chars source).length⟩ = .ok (parse source, diagnostics source) ∧
    ((tree source).account (chars source)).filter (·.level == .trace) =
      (looks source).map (entry (chars source)) ∧
    (looks source).length ≤ 2 * (chars source).length + 1 ∧
    (parse source).nodeCount ≤ 2 * (chars source).length + 1 ∧
    (Kernel.ofExpr (parse source)).slotCount ≤ 2 * (chars source).length := by
  let w := chars source
  have hle : (⟨0, w.length⟩ : Span).start ≤ (⟨0, w.length⟩ : Span).stop := Nat.zero_le _
  have hw : (⟨0, w.length⟩ : Span).stop ≤ w.length := Nat.le_refl _
  have hlooks : (looks source).length ≤ 2 * w.length + 1 := length_spans_cut_le hle hw
  have hnodes : (parse source).nodeCount ≤ 2 * w.length + 1 :=
    (nodeCount_expr_le w (tree source)).trans hlooks
  have hslots : (Kernel.ofExpr (parse source)).slotCount + 1 ≤ 2 * w.length + 1 := by
    rwa [Kernel.slotCount_ofExpr_add_one]
  refine ⟨fun s hs => ?_, ?_, read_eq hle hw, filter_account w (tree source), hlooks, hnodes,
    Nat.le_of_succ_le_succ hslots⟩
  · obtain ⟨hle', hw'⟩ := bounds_of_mem_spans hle hw hs
    have hcovers := covers_cut w s hle' hw'
    refine ⟨hle', hw', (cut w s).root, cutAt_eq hle' hw', fun part hpart => ?_,
      hcovers.pairwise_parts⟩
    obtain ⟨hstart, -, hstop, hshorter⟩ := hcovers.part part hpart
    exact ⟨part_mem_spans hle hw hs hpart, hstart, hstop, hshorter⟩
  · exact congrArg List.head? (spans_cut w ⟨0, w.length⟩)

end Formula

end EscapeTime
