import EscapeTime.Formula.Vocabulary

namespace EscapeTime

/-!
# Spans and diagnostics

A span is a half-open range of positions in a text. A diagnostic says what reading a formula could
not make sense of, and at which span.
-/

/-- The positions from `start` up to, and without, `stop`. -/
structure Span where
  start : Nat
  stop : Nat
  deriving DecidableEq, Repr, Inhabited

namespace Span

/-- A span whose end lies before its start has no positions. -/
def length (s : Span) : Nat := s.stop - s.start

def isEmpty (s : Span) : Bool := s.stop ≤ s.start

/-- The characters of the text at the positions of the span. -/
def slice (w : List Char) (s : Span) : List Char := (w.drop s.start).take s.length

/-- The span moved to the right. -/
def shift (n : Nat) (s : Span) : Span := ⟨s.start + n, s.stop + n⟩

theorem length_slice_le (w : List Char) (s : Span) : (s.slice w).length ≤ s.length := by
  simp only [slice, List.length_take]
  omega

end Span

inductive Diagnostic
  /-- A piece of text that is neither a number nor a symbol. -/
  | unrecognizedToken (span : Span) (text : String)
  /-- Nothing stands where an operand should. -/
  | missingOperand (span : Span)
  /-- Text before a function name, which is dropped. -/
  | unexpectedPrefix (span : Span) (text : String) (func : Func)
  deriving DecidableEq, Repr, Inhabited

namespace Diagnostic

def span : Diagnostic → Span
  | unrecognizedToken s _ => s
  | missingOperand s => s
  | unexpectedPrefix s _ _ => s

def message : Diagnostic → String
  | unrecognizedToken s text =>
    "Unrecognized token '" ++ text ++ "' at position " ++ toString s.start
  | missingOperand s => "Missing operand at position " ++ toString s.start
  | unexpectedPrefix s text func =>
    "Unexpected '" ++ text ++ "' before function '" ++ func.name ++ "' at position "
      ++ toString s.start

end Diagnostic

end EscapeTime
