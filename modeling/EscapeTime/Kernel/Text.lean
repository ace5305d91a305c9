import EscapeTime.Kernel.Basic

namespace EscapeTime

/-!
# The text of a kernel

A kernel is written as a list of statements over named numbers. The inputs are first marked as
numbers, then each slot is declared, then each instruction becomes an assignment to the real and the
imaginary part of its target, or the call of a primitive, which leaves its result in the output.
-/

/-- The numbers that a statement speaks of. -/
inductive Variable
  | iterateRe
  | iterateIm
  | parameterRe
  | parameterIm
  | outRe
  | outIm
  | slotRe (id : Nat)
  | slotIm (id : Nat)
  deriving DecidableEq, Repr

def Variable.name : Variable → String
  | iterateRe => "z_r"
  | iterateIm => "z_i"
  | parameterRe => "c_r"
  | parameterIm => "c_i"
  | outRe => "outR"
  | outIm => "outI"
  | slotRe id => "__r" ++ toString id
  | slotIm id => "__i" ++ toString id

/-- What is assigned: a variable or a written number. A plus sign marks either as a number. -/
inductive Source
  | named (v : Variable) (plus : Bool)
  | written (number : String) (plus : Bool)
  deriving DecidableEq, Repr

def Source.text : Source → String
  | named v plus => (if plus then "+" else "") ++ v.name
  | written number plus => (if plus then "+" else "") ++ number

inductive Statement
  | assign (target : Variable) (source : Source)
  | declare (target : Variable)
  | call (primitive : String) (arguments : List Variable)
  deriving DecidableEq, Repr

/-- The statement on a line of its own. -/
def Statement.line : Statement → String
  | assign target source => target.name ++ " = " ++ source.text ++ ";\n"
  | declare target => "var " ++ target.name ++ " = 0.0;\n"
  | call f arguments => f ++ "(" ++ ", ".intercalate (arguments.map Variable.name) ++ ");\n"

/-- The real and the imaginary part of a symbol, as they are assigned. -/
def Symbol.sources : Symbol → Source × Source
  | iterate => (.named .iterateRe true, .named .iterateIm true)
  | parameter => (.named .parameterRe true, .named .parameterIm true)
  | imagUnit => (.written "0.0" false, .written "1.0" false)
  | negImagUnit => (.written "0.0" false, .written "-1.0" false)

def Instr.statements : Instr → List Statement
  | literal text =>
    [.assign .outRe (.written text true), .assign .outIm (.written "0" true)]
  | symbol s => [.assign .outRe s.sources.1, .assign .outIm s.sources.2]
  | store slot coerce =>
    [.assign (.slotRe slot) (.named .outRe coerce),
      .assign (.slotIm slot) (.named .outIm coerce)]
  | binary op lhs rhs => [.call op.primitive [.slotRe lhs, .slotIm lhs, .slotRe rhs, .slotIm rhs]]
  | unary f arg => [.call f.primitive [.slotRe arg, .slotIm arg]]

namespace Kernel

/-- The inputs, marked as numbers. -/
def inputStatements : List Statement :=
  [.iterateRe, .iterateIm, .parameterRe, .parameterIm].map fun v => .assign v (.named v true)

def slotStatements (s : Slot) : List Statement := [.declare (.slotRe s.id), .declare (.slotIm s.id)]

def statements (k : Kernel) : List Statement :=
  inputStatements ++ k.slots.flatMap slotStatements ++ k.instructions.flatMap Instr.statements

/-- The kernel's text, one statement a line. -/
def text (k : Kernel) : String := String.join (k.statements.map Statement.line)

end Kernel

end EscapeTime
