import EscapeTime.Config
import EscapeTime.Picture.Ppm
import EscapeTime.Shell.FileTree
import EscapeTime.Shell.Session

namespace EscapeTime.Shell

/-!
# The command line

The arguments choose one action. All but a session of formulas are done in one go. A picture is
computed in full before its file is created; then it is written, which may still fail.
-/

/-- What the program is asked to do. -/
inductive Action
  | session (policy : Policy)
  | help
  | version
  | kernel (policy : Policy) (expr : String)
  | document (expr : String)
  | render (config out : String)
  | unknownOption (flag : String)
  | wrongArguments (flag : String)
  deriving DecidableEq, Repr

structure Outcome where
  exit : UInt32
  output : Output

/-- The option that lets formulas pass that are not understood in full. -/
def compatOption : String := "--compat"

/-- The action that the arguments ask for, where the compatibility option has been taken out. -/
def Action.ofPlain (policy : Policy) : List String → Action
  | [] => .session policy
  | [flag] =>
    if flag == "--help" || flag == "-h" then .help
    else if flag == "--version" || flag == "-v" then .version
    else .unknownOption flag
  | [flag, expr] =>
    if flag == "-e" || flag == "--emit" then .kernel policy expr
    else if flag == "--ast" then .document expr
    else .wrongArguments flag
  | [flag, config, out] => if flag == "--render" then .render config out else .wrongArguments flag
  | flag :: _ => .wrongArguments flag

/-- The action that the arguments ask for. The option counts once, wherever it stands. -/
def Action.ofArgs (args : List String) : Action :=
  if args.contains compatOption then ofPlain .compat (args.erase compatOption)
  else ofPlain .strict args

/-- A refusal to do anything. -/
def refuse (message : String) : Outcome :=
  ⟨1, .complain (message ++ "\nUse --help for usage information.\n")⟩

/-- Why a picture does not come about. -/
inductive Stop
  | failed (e : Error)
  /-- No block of memory can hold the grid. -/
  | crashed

/-- The outcome for what became of a picture. What a crash prints is left out. -/
def report (out : String) : Except Stop Unit → Outcome
  | .ok () => ⟨0, .say ("Wrote " ++ out ++ "\n")⟩
  | .error (.failed e) => ⟨1, .complain ("Render failed: " ++ e.message ++ "\n")⟩
  | .error .crashed => ⟨101, .empty⟩

/-- The picture of a configuration. Its grid is asked for when there is an evaluator to fill it. -/
def picture (c : Config) : Except Stop (Grid Rgb) := do
  let evaluator ← c.evaluator.mapError .failed
  if c.engine.Allocatable then (c.draw evaluator).mapError .failed
  else throw .crashed

section Files

variable {m : Type → Type} [Monad m] {Handle : Type} (files : FileStore m Handle)

/-- The configuration in a file. -/
def loadConfig (path : String) : m (Except Error Config) := do
  match ← files.read path with
  | .error fault => return .error (.file fault)
  | .ok bytes => return Config.ofBytes bytes

/-- Computes a picture from a configuration file, creates its file and writes it. -/
def renderFile (config out : String) : m (Except Stop Unit) := do
  match (← loadConfig files config).mapError .failed >>= picture with
  | .error stop => return .error stop
  | .ok image =>
    match ← files.create out with
    | .error fault => return .error (.failed (.file fault))
    | .ok handle => return (← Ppm.writeWith (files.append handle) image).mapError .failed

/-- Does what is asked; `input` is all that a session reads. -/
def Action.perform (input : String) : Action → m Outcome
  | .session policy => return ⟨0, Shell.session policy input⟩
  | .help => return ⟨0, .say (Shell.help ++ "\n")⟩
  | .version => return ⟨0, .say ("fractalc " ++ Shell.version ++ "\n")⟩
  | .kernel policy expr =>
    match Kernel.compileWith policy expr with
    | .ok k => return ⟨0, .say k.text⟩
    | .error e => return ⟨1, .complain (e.message ++ "\n")⟩
  | .document expr => return ⟨0, showDocument expr⟩
  | .render config out => return report out (← renderFile files config out)
  | .unknownOption flag => return refuse ("Unknown option: " ++ flag)
  | .wrongArguments flag => return refuse ("Unknown option or wrong arguments: " ++ flag)

/-- A whole run of the program. -/
def run (args : List String) (input : String) : m Outcome :=
  (Action.ofArgs args).perform files input

end Files

end EscapeTime.Shell
