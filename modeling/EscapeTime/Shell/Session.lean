import EscapeTime.Formula.Document
import EscapeTime.Formula.Parse
import EscapeTime.Kernel.Compile
import EscapeTime.Shell.Help

namespace EscapeTime.Shell

/-!
# Sessions

A session reads one line at a time. A line is a command, which starts with a colon, or a formula,
whose kernel is shown. What a line does depends on the line and on the policy alone, and the policy
is all that one line passes on to the next.
-/

/-- What is printed, on each of the two channels. -/
structure Output where
  out : String
  err : String
  deriving DecidableEq, Repr

namespace Output

def empty : Output := ⟨"", ""⟩

/-- Text on the channel for results. -/
def say (s : String) : Output := ⟨s, ""⟩

/-- Text on the channel for errors. -/
def complain (s : String) : Output := ⟨"", s⟩

def append (a b : Output) : Output := ⟨a.out ++ b.out, a.err ++ b.err⟩

instance : Append Output := ⟨append⟩

end Output

/-- What follows from a line. -/
inductive Turn
  | stop
  | next (policy : Policy) (output : Output)

/-! ### What the commands show -/

def showKernel (policy : Policy) (expr : String) : Output :=
  match Kernel.compileWith policy expr with
  | .ok k => .say k.text
  | .error e => .complain (e.message ++ "\n")

/-- The expression as a document. -/
def showDocument (expr : String) : Output :=
  .say (String.ofList (Formula.parse expr).toJson.pretty ++ "\n")

def showTree (expr : String) : Output :=
  .say (String.ofList (Formula.parse expr).sexpr ++ "\n")

/-- The text before the first occurrence of a character and the text after it. -/
def splitOnce (c : Char) (cs : List Char) : List Char × Option (List Char) :=
  match cs.dropWhile (· != c) with
  | [] => (cs, none)
  | _ :: rest => (cs.takeWhile (· != c), some rest)

/-- A complex number: its real part, or both parts with a comma between them. -/
def readComplex? (cs : List Char) : Option Complex := do
  match splitOnce ',' cs with
  | (re, some im) => return ⟨← Decimal.readFloat? re, ← Decimal.readFloat? im⟩
  | (re, none) => return .ofReal (← Decimal.readFloat? re)

/-- The value of a formula at a point. -/
def evaluate (policy : Policy) (expr : String) (z c : Complex) : Except Error Complex := do
  let k ← Kernel.compileWith policy expr
  match Evaluator.ofKernel k with
  | .ok e => return e.eval .standard z c
  | .error fault => .error (.kernel fault)

def evalUsage : Output := .say "Usage: :eval <expr> <z> <c>\n"

/-- Evaluates a formula at a point; the last two words are the point. -/
def showValue (policy : Policy) (rest : List Char) : Output :=
  match (Text.words rest).reverse with
  | c :: z :: w :: ws =>
    match readComplex? z, readComplex? c with
    | some z, some c =>
      let expr := " ".intercalate ((w :: ws).reverse.map String.ofList)
      match evaluate policy expr z c with
      | .ok v => .say (v.text ++ "\n")
      | .error e => .complain (e.message ++ "\n")
    | _, _ => .complain "Numbers must look like 1.5 or 1.5,-2\n"
  | _ => evalUsage

/-! ### Lines -/

/-- What a command does, by its word and its argument. -/
def command (policy : Policy) (word : String) (argument : Option (List Char)) : Turn :=
  if word == ":help" || word == ":h" then .next policy (.say (help ++ "\n"))
  else if word == ":quit" || word == ":q" || word == ":exit" then .stop
  else if word == ":strict" then
    .next .strict (.say "Strict mode: unrecognized fragments are errors.\n")
  else if word == ":compat" then
    .next .compat (.say "Compat mode: unrecognized fragments are skipped.\n")
  else if word == ":ast" || word == ":json" || word == ":kernel" || word == ":k" then
    match argument with
    | none => .next policy (.say ("Usage: " ++ word ++ " <expression>\n"))
    | some cs =>
      let expr := String.ofList cs
      if word == ":ast" then .next policy (showTree expr)
      else if word == ":json" then .next policy (showDocument expr)
      else .next policy (showKernel policy expr)
  else if word == ":eval" then
    match argument with
    | none => .next policy evalUsage
    | some cs => .next policy (showValue policy cs)
  else
    .next policy
      (.say ("Unknown command: " ++ word ++ "\nType :help for available commands.\n"))

/-- What a line does. -/
def turn (policy : Policy) (line : String) : Turn :=
  match Text.trim line.toList with
  | [] => .next policy .empty
  | ':' :: rest =>
    let (word, argument) := splitOnce ' ' (':' :: rest)
    command policy (String.ofList word) (argument.map Text.trim)
  | cs => .next policy (showKernel policy (String.ofList cs))

def greeting : Output :=
  .say ("fractalc " ++ version
    ++ " - fractal expression compiler\nType :help for commands, :quit to exit.\n\n")

def farewell : Output := .say "Goodbye!\n"

/-- What the lines print. A session that is not stopped ends with its input. -/
def transcript (policy : Policy) : List String → Output
  | [] => farewell
  | line :: rest =>
    match turn policy line with
    | .stop => .empty
    | .next policy output => output ++ transcript policy rest

/-- The lines of a text; a line end at the end of the text starts no further line. -/
def lines (input : String) : List String :=
  let pieces := (input.toList.splitOnP (· == '\n')).map String.ofList
  if pieces.getLast? == some "" then pieces.dropLast else pieces

/-- A whole session. -/
def session (policy : Policy) (input : String) : Output :=
  greeting ++ transcript policy (lines input)

end EscapeTime.Shell
