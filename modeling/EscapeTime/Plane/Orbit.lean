import EscapeTime.Kernel.Evaluator

namespace EscapeTime

/-!
# Orbits

An orbit applies a kernel again and again, with a fixed parameter. It escapes when an iterate leaves
the disc of a given radius, or is no longer a number.
-/

namespace Evaluator

/-- The first iterates after `z`, as many as asked for. -/
def orbit (p : Primitives) (e : Evaluator) (c : Complex) : Nat → Complex → List Complex
  | 0, _ => []
  | n + 1, z =>
    let z := e.eval p z c
    z :: orbit p e c n z

/-- Whether the iterate has left the disc with the given squared radius. -/
def hasEscaped (limit : Float) (z : Complex) : Bool :=
  let norm := z.normSq
  decide (limit < norm) || norm.isNaN

/-- Goes on from the iterate `z`, the `n`-th, for at most `fuel` steps. Gives the number of the first
iterate whose successor has escaped, and the buffer as the last step leaves it. -/
def escapeFrom (p : Primitives) (e : Evaluator) (c : Complex) (limit : Float) (n : Nat) :
    Nat → Complex → Array Complex → Nat × Array Complex
  | 0, _, buffer => (n, buffer)
  | fuel + 1, z, buffer =>
    let (z, buffer) := e.evalWith p buffer z c
    if hasEscaped limit z then (n, buffer) else escapeFrom p e c limit (n + 1) fuel z buffer

/-- The number of iterates before the orbit from `z` escapes, or the greatest number allowed, and
the buffer after the computation. -/
def escapeWith (p : Primitives) (e : Evaluator) (buffer : Array Complex) (z c : Complex)
    (maxIterations : UInt32) (radius : Float) : UInt32 × Array Complex :=
  let (n, buffer) := escapeFrom p e c (radius * radius) 0 maxIterations.toNat z buffer
  (.ofNat n, buffer)

/-- The number of iterates before the orbit from `z` escapes, or the greatest number allowed. -/
def escapeCount (p : Primitives) (e : Evaluator) (buffer : Array Complex) (z c : Complex)
    (maxIterations : UInt32) (radius : Float) : UInt32 :=
  (e.escapeWith p buffer z c maxIterations radius).1

end Evaluator

end EscapeTime
