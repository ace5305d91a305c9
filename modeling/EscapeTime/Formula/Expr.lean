import EscapeTime.Formula.Vocabulary
import EscapeTime.Text.Quoted

namespace EscapeTime

/-!
# Expressions

The tree that a formula stands for. A leaf keeps the text it was read from; a raw leaf is a piece of
text that no rule recognises, kept so that the rest of the formula can still be used.
-/

inductive Expr
  | literal (text : String)
  | symbol (symbol : Symbol)
  | raw (text : String)
  | binary (op : Operator) (left right : Expr)
  | call (func : Func) (operand : Expr)
  deriving DecidableEq, Repr, Inhabited

namespace Expr

/-- The texts of the raw leaves, from left to right. -/
def rawLeaves : Expr → List String
  | literal _ => []
  | symbol _ => []
  | raw text => [text]
  | binary _ left right => left.rawLeaves ++ right.rawLeaves
  | call _ operand => operand.rawLeaves

/-- The number of nodes on the longest path down to a leaf. -/
def height : Expr → Nat
  | literal _ | symbol _ | raw _ => 1
  | binary _ left right => max left.height right.height + 1
  | call _ operand => operand.height + 1

/-- The operator or function first, then its operands, in brackets, in front of `rest`; a raw leaf
is quoted. -/
def sexprOnto (rest : List Char) : Expr → List Char
  | literal text => text.toList ++ rest
  | symbol s => s.token.toList ++ rest
  | raw text => Text.quote text.toList ++ rest
  | binary op left right =>
    '(' :: op.symbol :: ' ' :: left.sexprOnto (' ' :: right.sexprOnto (')' :: rest))
  | call f operand => '(' :: f.letters ++ ' ' :: operand.sexprOnto (')' :: rest)

/-- The expression with each operator and function before its operands. -/
def sexpr (e : Expr) : List Char := e.sexprOnto []

end Expr

end EscapeTime
