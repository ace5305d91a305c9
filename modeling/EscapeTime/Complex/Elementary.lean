import EscapeTime.Complex.Power
import EscapeTime.Formula.Vocabulary

namespace EscapeTime

/-!
# What the operators and functions compute

A kernel names primitives; this module says what they do to complex numbers.
-/

namespace Complex

def sin (a : Complex) : Complex :=
  ⟨Float.sin a.re * Float.cosh a.im, Float.cos a.re * Float.sinh a.im⟩

def cos (a : Complex) : Complex :=
  ⟨Float.cos a.re * Float.cosh a.im, -Float.sin a.re * Float.sinh a.im⟩

def sinh (a : Complex) : Complex :=
  ⟨Float.sinh a.re * Float.cos a.im, Float.cosh a.re * Float.sin a.im⟩

def cosh (a : Complex) : Complex :=
  ⟨Float.cosh a.re * Float.cos a.im, Float.sinh a.re * Float.sin a.im⟩

end Complex

/-- A meaning for every primitive. -/
structure Primitives where
  binary : Operator → Complex → Complex → Complex
  unary : Func → Complex → Complex

namespace Primitives

/-- The meaning of the operators. -/
def applyBinary : Operator → Complex → Complex → Complex
  | .add, a, b => a + b
  | .sub, a, b => a - b
  | .mul, a, b => a * b
  | .div, a, b => a / b
  | .pow, a, b => a.pow b

/-- The meaning of the functions. -/
def applyUnary : Func → Complex → Complex
  | .real, a => .ofReal a.re
  | .imag, a => .ofReal a.im
  | .abs, a => .ofReal a.abs
  | .arg, a => .ofReal a.arg
  | .sin, a => a.sin
  | .cos, a => a.cos
  | .sh, a => a.sinh
  | .ch, a => a.cosh
  | .exp, a => a.exp
  | .ln, a => a.ln
  | .conj, a => a.conj

/-- The meaning in complex arithmetic. -/
def standard : Primitives := ⟨applyBinary, applyUnary⟩

end Primitives

end EscapeTime
