import EscapeTime.Error
import EscapeTime.Formula.Parse
import EscapeTime.Kernel.Block
import EscapeTime.Kernel.Text

namespace EscapeTime

/-!
# From a formula to its kernel

A formula with raw leaves can still be compiled, leaving them out; the strict policy refuses it.
The work leaves a log, which says nothing that the formula and the policy do not decide.
-/

/-- What to do with a text that is not understood in full. -/
inductive Policy
  /-- Leave out what is not understood. -/
  | compat
  /-- Refuse it. -/
  | strict
  deriving DecidableEq, Repr, Inhabited

def Policy.name : Policy → String
  | compat => "Compat"
  | strict => "Strict"

namespace Kernel

/-- The kernel of the formula, whatever its text. -/
def compile (source : String) : Kernel := .ofExpr (Formula.parse source)

/-- The kernel of the formula, if the policy admits its text. -/
def compileWith (policy : Policy) (source : String) : Except Error Kernel :=
  match policy with
  | .compat => .ok (compile source)
  | .strict =>
    match Formula.parseStrict source with
    | .ok e => .ok (.ofExpr e)
    | .error d => .error (.parse d)

/-! ### The log -/

/-- Texts in quotes, between square brackets. -/
def quotedList (texts : List String) : String :=
  "[" ++ ", ".intercalate (texts.map fun t => String.ofList (Text.quote t.toList)) ++ "]"

/-- The lines on what a compatible reading had to pass over. -/
def compatLines (source : String) : List LogLine :=
  let skipped := (Formula.parse source).rawLeaves
  (Formula.diagnostics source).map (fun d => ⟨.warn, d.message⟩)
    ++ if skipped.isEmpty then []
      else [⟨.warn, "kernel for '" ++ source ++ "' skips " ++ toString skipped.length
        ++ " unrecognized leaves: " ++ quotedList skipped⟩]

def blockLines (block : Block) : List LogLine :=
  block.skipped.map (fun t =>
      ⟨.warn, "skipping unrecognized leaf '" ++ t ++ "': kernel output is undefined"⟩)
    ++ [⟨.debug, "kernel: " ++ toString block.slots.length ++ " slots, "
      ++ toString block.instructions.length ++ " instructions"⟩]

/-- The lines of the code generation for an expression. -/
def emissionLog (e : Expr) : List LogLine := blockLines (.ofExpr 0 e)

/-- The log of `compileWith`. -/
def compileLog (policy : Policy) (source : String) : List LogLine :=
  ⟨.debug, "compiling '" ++ source ++ "' (" ++ policy.name ++ ")"⟩
    :: (Formula.tree source).account (Formula.chars source)
    ++ match policy with
      | .compat => compatLines source ++ emissionLog (Formula.parse source)
      | .strict =>
        match Formula.parseStrict source with
        | .ok e => emissionLog e
        | .error _ => []

end Kernel

end EscapeTime
