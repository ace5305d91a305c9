import EscapeTime.Formula.SyntaxTree
import EscapeTime.Text.LowerCase

namespace EscapeTime

/-!
# Reading a formula

A formula may be written with blanks anywhere, in either case, and with the minus sign of
mathematics. Before it is read the blanks are dropped, every minus becomes a hyphen, and the text
goes to lower case. Every text can then be read as an expression; what cannot be made sense of is
reported beside it. Strict reading refuses a text with anything to report.

The work is accounted for line by line. A line has a level; asking for a level gives the lines of
that level and of the more severe ones.
-/

namespace Formula

/-! ### Normal form -/

/-- The mathematical minus sign becomes the hyphen. -/
def plainMinus (c : Char) : Char := if c.toNat == 0x2212 then '-' else c

/-- The text as it is read. -/
def normalize (source : List Char) : List Char :=
  Text.lower ((source.filter (!Text.isBlank ·)).map plainMinus)

/-! ### Expressions -/

/-- The characters of a formula's text that are read. -/
def chars (source : String) : List Char := normalize source.toList

/-- How the formula's text is cut. -/
def tree (source : String) : SyntaxTree := .ofChars (chars source)

/-- The expression that the text stands for. -/
def parse (source : String) : Expr := (tree source).expr (chars source)

/-- What is wrong with the text, from left to right. -/
def diagnostics (source : String) : List Diagnostic := (tree source).diagnostics (chars source)

/-- The expression, or the first thing that is wrong with the text. -/
def parseStrict (source : String) : Except Diagnostic Expr :=
  match diagnostics source with
  | [] => .ok (parse source)
  | d :: _ => .error d

end Formula

/-! ### The account

One line for each span that is looked at, and one for each cut, dropped text and raw leaf. -/

/-- The levels, from the most severe. -/
inductive LogLevel
  | warn
  | debug
  | trace
  deriving DecidableEq, Repr, Inhabited

namespace LogLevel

def name : LogLevel → String
  | warn => "WARN"
  | debug => "DEBUG"
  | trace => "TRACE"

/-- How much is shown when this level is asked for. -/
def verbosity : LogLevel → Nat
  | warn => 1
  | debug => 2
  | trace => 3

end LogLevel

structure LogLine where
  level : LogLevel
  message : String
  deriving DecidableEq, Repr, Inhabited

/-- The lines that are shown when `level` is asked for. -/
def LogLine.atLevel (level : LogLevel) (lines : List LogLine) : List LogLine :=
  lines.filter (·.level.verbosity ≤ level.verbosity)

/-- The span with its field names. -/
def Span.describe (s : Span) : String :=
  "Span \x7b start: " ++ toString s.start ++ ", end: " ++ toString s.stop ++ " \x7d"

namespace SyntaxTree

/-- The line for a span that is looked at. -/
def entry (w : List Char) (s : Span) : LogLine :=
  ⟨.trace, "split " ++ s.describe ++ " '" ++ String.ofList (s.slice w) ++ "'"⟩

def operatorLine (w : List Char) (s : Span) (position : Nat) (op : Operator) : LogLine :=
  ⟨.debug, "split '" ++ String.ofList (s.slice w) ++ "' at " ++ toString position ++ " on '"
    ++ String.singleton op.symbol ++ "'"⟩

def droppedLine (w : List Char) (s : Span) (f : Func) : LogLine :=
  ⟨.debug, "dropping '" ++ String.ofList (s.slice w) ++ "' before '" ++ f.name ++ "'"⟩

def rawLine (w : List Char) (s : Span) : LogLine :=
  ⟨.debug, "raw leaf '" ++ String.ofList (s.slice w) ++ "' at " ++ s.describe⟩

/-- The lines of the tree, in the order of the work. -/
def account (w : List Char) : SyntaxTree → List LogLine
  | binary s position op left right =>
    entry w s :: operatorLine w s position op :: (left.account w ++ right.account w)
  | call s position f argument =>
    entry w s :: (if s.start < position then [droppedLine w (dropped s position) f] else [])
      ++ argument.account w
  | group s inner => entry w s :: inner.account w
  | leaf s =>
    entry w s :: (leafDiagnostic? s (s.slice w)).toList.map fun _ => rawLine w s

end SyntaxTree

end EscapeTime
