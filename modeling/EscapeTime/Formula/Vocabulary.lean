namespace EscapeTime

/-!
# The words of a formula

A formula is built from five binary operators, eleven functions of one argument and four
symbols. Everything that is decided by looking a word up stands here: how operators bind, the
order in which function names are tried, and the names of the primitives that a kernel calls.
-/

/-- The binary operators, in the order in which they are listed. -/
inductive Operator
  | sub
  | add
  | div
  | mul
  | pow
  deriving DecidableEq, Repr, Inhabited

namespace Operator

def all : List Operator := [sub, add, div, mul, pow]

def symbol : Operator → Char
  | sub => '-'
  | add => '+'
  | div => '/'
  | mul => '*'
  | pow => '^'

/-- Operators of a lower precedence are split off first, so they bind more loosely. -/
def precedence : Operator → Nat
  | sub | add => 1
  | div | mul => 2
  | pow => 3

def minPrecedence : Nat := 1

def maxPrecedence : Nat := 3

/-- The precedences from the loosest to the tightest. -/
def precedences : List Nat :=
  List.range' minPrecedence (maxPrecedence + 1 - minPrecedence)

/-- The primitive that a kernel calls for the operator. -/
def primitive : Operator → String
  | sub => "subtract"
  | add => "add"
  | div => "divide"
  | mul => "multiply"
  | pow => "computePower"

/-- The name of the operator in a stored expression. -/
def tag : Operator → String
  | sub => "Sub"
  | add => "Add"
  | div => "Div"
  | mul => "Mul"
  | pow => "Pow"

def ofSymbol? (c : Char) : Option Operator := all.find? (·.symbol == c)

def ofTag? (s : String) : Option Operator := all.find? (·.tag == s)

end Operator

/-- The functions of one argument, in the order in which their names are tried. -/
inductive Func
  | real
  | imag
  | abs
  | arg
  | sin
  | cos
  | sh
  | ch
  | exp
  | ln
  | conj
  deriving DecidableEq, Repr, Inhabited

namespace Func

def all : List Func := [real, imag, abs, arg, sin, cos, sh, ch, exp, ln, conj]

def name : Func → String
  | real => "real"
  | imag => "imag"
  | abs => "abs"
  | arg => "arg"
  | sin => "sin"
  | cos => "cos"
  | sh => "sh"
  | ch => "ch"
  | exp => "exp"
  | ln => "ln"
  | conj => "conj"

/-- The name as it stands in a text. -/
def letters (f : Func) : List Char := f.name.toList

/-- The primitive that a kernel calls for the function. -/
def primitive (f : Func) : String := "compute_" ++ f.name

def ofName? (s : String) : Option Func := all.find? (·.name == s)

end Func

/-- The symbols: the iterate, the parameter, and the imaginary unit with either sign. -/
inductive Symbol
  | iterate
  | parameter
  | imagUnit
  | negImagUnit
  deriving DecidableEq, Repr, Inhabited

namespace Symbol

def all : List Symbol := [iterate, parameter, imagUnit, negImagUnit]

def token : Symbol → String
  | iterate => "z"
  | parameter => "c"
  | imagUnit => "i"
  | negImagUnit => "-i"

/-- The name of the symbol in a stored expression. -/
def tag : Symbol → String
  | iterate => "Iterate"
  | parameter => "Parameter"
  | imagUnit => "ImagUnit"
  | negImagUnit => "NegImagUnit"

def ofToken? (s : String) : Option Symbol := all.find? (·.token == s)

def ofTag? (s : String) : Option Symbol := all.find? (·.tag == s)

end Symbol

end EscapeTime
