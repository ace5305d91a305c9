import EscapeTime.Decimal.Layout

namespace EscapeTime

/-!
# Complex numbers in double precision

Sums, differences and products are the schoolbook ones, part by part; a quotient divides by the
squared norm of the divisor. Nothing guards against overflow or a zero divisor: infinities and
"not a number" take their course.
-/

structure Complex where
  re : Float
  im : Float
  deriving Inhabited

namespace Complex

def zero : Complex := ⟨0.0, 0.0⟩

def one : Complex := ⟨1.0, 0.0⟩

/-- The imaginary unit. -/
def unit : Complex := ⟨0.0, 1.0⟩

def ofReal (x : Float) : Complex := ⟨x, 0.0⟩

protected def add (a b : Complex) : Complex := ⟨a.re + b.re, a.im + b.im⟩

protected def sub (a b : Complex) : Complex := ⟨a.re - b.re, a.im - b.im⟩

protected def mul (a b : Complex) : Complex :=
  ⟨a.re * b.re - a.im * b.im, a.re * b.im + a.im * b.re⟩

protected def neg (a : Complex) : Complex := ⟨-a.re, -a.im⟩

def conj (a : Complex) : Complex := ⟨a.re, -a.im⟩

/-- The square of the absolute value. -/
def normSq (a : Complex) : Float := a.re * a.re + a.im * a.im

protected def div (a b : Complex) : Complex :=
  let d := b.normSq
  ⟨(a.re * b.re + a.im * b.im) / d, (a.im * b.re - a.re * b.im) / d⟩

instance : Add Complex := ⟨Complex.add⟩
instance : Sub Complex := ⟨Complex.sub⟩
instance : Mul Complex := ⟨Complex.mul⟩
instance : Div Complex := ⟨Complex.div⟩
instance : Neg Complex := ⟨Complex.neg⟩

/-- Equality of the parts as numbers: the two zeros are equal, and "not a number" equals nothing. -/
instance : BEq Complex := ⟨fun a b => a.re == b.re && a.im == b.im⟩

/-- Whether the number is less than zero or is the negative zero. A NaN, which keeps no sign, is
neither. -/
def isNegative (x : Float) : Bool := (Decimal.decode x).1

/-- The two parts, joined by the sign of the second. -/
def text (a : Complex) : String :=
  if isNegative a.im then Decimal.positional a.re ++ "-" ++ Decimal.positional (-a.im) ++ "i"
  else Decimal.positional a.re ++ "+" ++ Decimal.positional a.im ++ "i"

end Complex

end EscapeTime
