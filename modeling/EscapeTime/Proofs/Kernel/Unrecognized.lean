import EscapeTime.Kernel.Compile
import EscapeTime.Proofs.Formula.Reading

namespace EscapeTime

/-!
# Three accounts of what is not understood

A piece of text that is neither a number nor a symbol is met three times: the reader reports it, the
expression keeps it as a raw leaf, and the code generation passes over it with a warning. The three
go over the formula one by one and agree, leaf by leaf and in order. The reader alone also reports
text that it drops before a function's name. So strict reading fails for just two reasons, and the
warnings of a compilation are known from the diagnostics and the raw leaves.
-/

/-- The text of the raw leaf that is reported. Dropped text is no leaf. -/
def Diagnostic.rawText? : Diagnostic → Option String
  | unrecognizedToken _ text => some text
  | missingOperand _ => some ""
  | unexpectedPrefix _ _ _ => none

namespace SyntaxTree

/-- Somewhere text stands before a function's name and is dropped. -/
def DropsText : SyntaxTree → Prop
  | binary _ _ _ left right => left.DropsText ∨ right.DropsText
  | call s position _ argument => s.start < position ∨ argument.DropsText
  | group _ inner => inner.DropsText
  | leaf _ => False

/-! ### The diagnostics and the raw leaves -/

/-- A leaf is reported exactly if it is raw, and with its text. -/
lemma leaf_cases (s : Span) (text : List Char) :
    (leafDiagnostic? s text = none ∧ (leafExpr text).rawLeaves = []) ∨
      ∃ d, leafDiagnostic? s text = some d ∧ d.rawText? = some (String.ofList text) ∧
        (leafExpr text).rawLeaves = [String.ofList text] := by
  unfold leafDiagnostic? leafExpr
  by_cases hnum : isNumeral text
  · exact .inl (by simp [hnum, Expr.rawLeaves])
  · cases htoken : Symbol.ofToken? (String.ofList text) with
    | some x => exact .inl (by simp [hnum, Expr.rawLeaves])
    | none =>
      -- an empty text is a missing operand, any other an unrecognised token
      cases text with
      | nil => exact .inr ⟨.missingOperand s, by simp [hnum, Diagnostic.rawText?, Expr.rawLeaves]⟩
      | cons c text =>
        exact .inr ⟨.unrecognizedToken s (String.ofList (c :: text)),
          by simp [hnum, Diagnostic.rawText?, Expr.rawLeaves]⟩

/-- The diagnostics on leaves are the raw leaves, in the same order. -/
theorem filterMap_diagnostics (w : List Char) (t : SyntaxTree) :
    (t.diagnostics w).filterMap Diagnostic.rawText? = (t.expr w).rawLeaves := by
  induction t with
  | binary span position op left right ihl ihr =>
    rw [diagnostics, List.filterMap_append, ihl, ihr, expr, Expr.rawLeaves]
  | call span position f argument ih =>
    rw [diagnostics, expr, Expr.rawLeaves, ← ih]
    split
    · rw [List.filterMap_cons_none rfl]
    · rfl
  | group span inner ih => exact ih
  | leaf span =>
    rcases leaf_cases span (span.slice w) with ⟨hd, hraw⟩ | ⟨d, hd, htext, hraw⟩
    · simp [diagnostics, expr, hd, hraw]
    · simp [diagnostics, expr, hd, htext, hraw]

/-- There is nothing to report exactly when no leaf is raw and no text is dropped. -/
theorem diagnostics_eq_nil_iff (w : List Char) (t : SyntaxTree) :
    t.diagnostics w = [] ↔ (t.expr w).rawLeaves = [] ∧ ¬ t.DropsText := by
  induction t with
  | binary span position op left right ihl ihr =>
    simp only [diagnostics, expr, Expr.rawLeaves, DropsText, List.append_eq_nil_iff, ihl, ihr,
      not_or]
    tauto
  | call span position f argument ih =>
    simp only [diagnostics, expr, Expr.rawLeaves, DropsText, not_or]
    split
    · simp_all
    · simp_all
  | group span inner ih => exact ih
  | leaf span =>
    rcases leaf_cases span (span.slice w) with ⟨hd, hraw⟩ | ⟨d, hd, -, hraw⟩
    · simp [diagnostics, expr, DropsText, hd, hraw]
    · simp [diagnostics, expr, DropsText, hd, hraw]

end SyntaxTree

/-! ### Warnings -/

namespace LogLine

lemma atLevel_append (level : LogLevel) (ls ms : List LogLine) :
    atLevel level (ls ++ ms) = atLevel level ls ++ atLevel level ms := by
  simp [atLevel]

lemma atLevel_warn_eq_nil {ls : List LogLine} (h : ∀ l ∈ ls, l.level ≠ .warn) :
    atLevel .warn ls = [] := by
  rw [atLevel, List.filter_eq_nil_iff]
  intro l hl
  have := h l hl
  cases hlevel : l.level <;> simp_all [LogLevel.verbosity]

lemma atLevel_warn_map {α : Type} (message : α → String) (xs : List α) :
    atLevel .warn (xs.map fun x => ⟨.warn, message x⟩) = xs.map fun x => ⟨.warn, message x⟩ := by
  rw [atLevel, List.filter_eq_self]
  simp

end LogLine

/-- No line on how a text is cut is a warning. -/
lemma SyntaxTree.level_ne_warn {w : List Char} {t : SyntaxTree} {l : LogLine}
    (h : l ∈ t.account w) : l.level ≠ .warn := by
  induction t with
  | binary span position op left right ihl ihr =>
    simp only [account, List.mem_cons, List.mem_append] at h
    rcases h with rfl | rfl | h | h
    · simp [entry]
    · simp [operatorLine]
    · exact ihl h
    · exact ihr h
  | call span position f argument ih =>
    simp only [account, List.mem_cons, List.mem_append, List.cons_append] at h
    rcases h with rfl | h | h
    · simp [entry]
    · split at h
      · obtain rfl := List.mem_singleton.1 h
        simp [droppedLine]
      · cases h
    · exact ih h
  | group span inner ih =>
    rcases List.mem_cons.1 h with rfl | h
    · simp [entry]
    · exact ih h
  | leaf span =>
    rcases List.mem_cons.1 h with rfl | h
    · simp [entry]
    · obtain ⟨d, -, rfl⟩ := List.mem_map.1 h
      simp [rawLine]

/-- The code generation passes over the raw leaves, from left to right. -/
theorem Block.skipped_ofExpr (next : Nat) (e : Expr) : (ofExpr next e).skipped = e.rawLeaves := by
  induction e generalizing next with
  | literal text => rfl
  | symbol s => rfl
  | raw text => rfl
  | binary op left right ihl ihr => simp only [ofExpr, Expr.rawLeaves, ihl, ihr]
  | call f operand ih => simp only [ofExpr, Expr.rawLeaves, ih]

namespace Kernel

/-- The warning for a diagnostic. -/
def reportLine (d : Diagnostic) : LogLine := ⟨.warn, d.message⟩

/-- The warning for all raw leaves of a formula together. -/
def summaryLine (source : String) (skipped : List String) : LogLine :=
  ⟨.warn, "kernel for '" ++ source ++ "' skips " ++ toString skipped.length
    ++ " unrecognized leaves: " ++ quotedList skipped⟩

/-- The warning for a raw leaf that is passed over. -/
def skipLine (text : String) : LogLine :=
  ⟨.warn, "skipping unrecognized leaf '" ++ text ++ "': kernel output is undefined"⟩

lemma atLevel_warn_emissionLog (e : Expr) :
    LogLine.atLevel .warn (emissionLog e) = e.rawLeaves.map skipLine := by
  rw [emissionLog, blockLines, LogLine.atLevel_append, LogLine.atLevel_warn_map,
    Block.skipped_ofExpr, LogLine.atLevel_warn_eq_nil (by simp), List.append_nil]
  rfl

lemma atLevel_warn_compatLines (source : String) :
    LogLine.atLevel .warn (compatLines source) =
      (Formula.diagnostics source).map reportLine ++
        if (Formula.parse source).rawLeaves = [] then []
        else [summaryLine source (Formula.parse source).rawLeaves] := by
  rw [compatLines, LogLine.atLevel_append, LogLine.atLevel_warn_map]
  by_cases hraw : (Formula.parse source).rawLeaves = []
  · simp [hraw, reportLine, LogLine.atLevel]
  · simp [hraw, reportLine, summaryLine, LogLine.atLevel]

/-- What is logged before the policy decides holds no warning. -/
lemma atLevel_warn_account (message source : String) (rest : List LogLine) :
    LogLine.atLevel .warn
        (⟨.debug, message⟩ :: (Formula.tree source).account (Formula.chars source) ++ rest) =
      LogLine.atLevel .warn rest := by
  rw [LogLine.atLevel_append, LogLine.atLevel_warn_eq_nil, List.nil_append]
  intro l hl
  rcases List.mem_cons.1 hl with rfl | hl
  · simp
  · exact SyntaxTree.level_ne_warn hl

end Kernel

namespace Formula

/-- **Reader, expression and code generation agree on what is not understood.** The diagnostics on
leaves, the raw leaves and the leaves passed over are the same texts in the same order. So strict
reading yields no raw leaf and fails exactly on a raw leaf or dropped text; strict compilation does
not warn; and compatible compilation warns once for each diagnostic, then once for all raw leaves if
there are any, then once for each raw leaf. -/
theorem unrecognized_accounts_agree (source : String) :
    (diagnostics source).filterMap Diagnostic.rawText? = (parse source).rawLeaves ∧
      (Block.ofExpr 0 (parse source)).skipped = (parse source).rawLeaves ∧
      LogLine.atLevel .warn (Kernel.emissionLog (parse source)) =
        (parse source).rawLeaves.map Kernel.skipLine ∧
      (∀ n, parseStrict source = .ok n → n.rawLeaves = []) ∧
      ((∃ d, parseStrict source = .error d) ↔
        (parse source).rawLeaves ≠ [] ∨ (tree source).DropsText) ∧
      LogLine.atLevel .warn (Kernel.compileLog .strict source) = [] ∧
      LogLine.atLevel .warn (Kernel.compileLog .compat source) =
        (diagnostics source).map Kernel.reportLine ++
          (if (parse source).rawLeaves = [] then []
            else [Kernel.summaryLine source (parse source).rawLeaves]) ++
          (parse source).rawLeaves.map Kernel.skipLine := by
  have hnone : diagnostics source = [] ↔ (parse source).rawLeaves = [] ∧ ¬ (tree source).DropsText :=
    (tree source).diagnostics_eq_nil_iff (chars source)
  have hstrict : ∀ n, parseStrict source = .ok n → n.rawLeaves = [] := by
    intro n hn
    obtain ⟨hd, rfl⟩ := parseStrict_eq_ok_iff.1 hn
    exact (hnone.1 hd).1
  refine ⟨SyntaxTree.filterMap_diagnostics _ _, Block.skipped_ofExpr 0 _,
    Kernel.atLevel_warn_emissionLog _, hstrict, ?_, ?_, ?_⟩
  · have herror : (∃ d, parseStrict source = .error d) ↔ diagnostics source ≠ [] := by
      simp only [parseStrict_eq_error_iff]
      cases diagnostics source <;> simp
    rw [herror, Ne, hnone]
    tauto
  · unfold Kernel.compileLog
    rw [Kernel.atLevel_warn_account]
    cases h : parseStrict source with
    | ok n => simp [Kernel.atLevel_warn_emissionLog, hstrict n h]
    | error d => rfl
  · unfold Kernel.compileLog
    rw [Kernel.atLevel_warn_account, LogLine.atLevel_append, Kernel.atLevel_warn_compatLines,
      Kernel.atLevel_warn_emissionLog]

end Formula

end EscapeTime
