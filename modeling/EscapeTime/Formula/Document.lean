import EscapeTime.Formula.Expr
import EscapeTime.Json.Decode
import EscapeTime.Json.Printer

namespace EscapeTime

/-!
# Expressions as documents

A node is an object whose field `kind` says what it is, followed by its parts.
-/

/-- The kinds of nodes. -/
inductive NodeKind
  | literal
  | symbol
  | raw
  | binary
  | call
  deriving DecidableEq, Repr

namespace NodeKind

def all : List NodeKind := [literal, symbol, raw, binary, call]

def tag : NodeKind → String
  | literal => "literal"
  | symbol => "symbol"
  | raw => "raw_leaf"
  | binary => "binary_op"
  | call => "unary_func"

def ofTag? (s : String) : Option NodeKind := all.find? (·.tag == s)

/-- The kind that a field names. A node inside another one may also give its number. -/
def ofJson? (nested : Bool) : Json → Option NodeKind
  | .string s => s.bind ofTag?
  | .number n => if nested then (n.natural? Json.Number.significandBound).bind (all[·]?) else none
  | _ => none

end NodeKind

namespace Expr

def toJson : Expr → Json
  | literal text => .record [("kind", .text "literal"), ("text", .text text)]
  | symbol s => .record [("kind", .text "symbol"), ("symbol", .text s.tag)]
  | raw text => .record [("kind", .text "raw_leaf"), ("text", .text text)]
  | binary op left right =>
    .record [("kind", .text "binary_op"), ("op", .text op.tag), ("left", left.toJson),
      ("right", right.toJson)]
  | call f operand =>
    .record [("kind", .text "unary_func"), ("func", .text f.name), ("operand", operand.toJson)]

/-- Reads a node in which at most `room` containers nest. -/
def ofJsonWithin? (nested : Bool) : Nat → Json → Option Expr
  | 0, _ => none
  | room + 1, j => do
    let (kind, body) ← j.variant?
    match ← NodeKind.ofJson? nested kind with
    | .literal =>
      match ← Json.fields? ["text"] body with
      | [text] => return .literal (← Json.required Json.string? text)
      | _ => none
    | .symbol =>
      match ← Json.fields? ["symbol"] body with
      | [s] => return .symbol (← (← Json.required (Json.name? true) s) |> Symbol.ofTag?)
      | _ => none
    | .raw =>
      match ← Json.fields? ["text"] body with
      | [text] => return .raw (← Json.required Json.string? text)
      | _ => none
    | .binary =>
      match ← Json.fields? ["op", "left", "right"] body with
      | [op, left, right] =>
        return .binary (← (← Json.required (Json.name? true) op) |> Operator.ofTag?)
          (← Json.required (ofJsonWithin? true room) left)
          (← Json.required (ofJsonWithin? true room) right)
      | _ => none
    | .call =>
      match ← Json.fields? ["func", "operand"] body with
      | [f, operand] =>
        return .call (← (← Json.required (Json.name? true) f) |> Func.ofName?)
          (← Json.required (ofJsonWithin? true room) operand)
      | _ => none

/-- The expression that a document holds. -/
def ofJson? (j : Json) : Option Expr :=
  if j.sound Json.depthLimit then ofJsonWithin? false Json.depthLimit j else none

/-- The expression that the text of a document holds. -/
def ofText? (s : String) : Option Expr := (Json.parse? s.toList).bind ofJson?

end Expr

end EscapeTime
