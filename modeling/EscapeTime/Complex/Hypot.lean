import EscapeTime.Complex.Basic

namespace EscapeTime

/-!
# The absolute value

The length of a vector is the square root of a sum of squares. The squares of doubles may lie
outside the range of doubles though the root does not, so very large and very small vectors are
first brought to a moderate size by a power of two, which loses nothing. The rounded root `h` is
then improved by one step of Newton's method, `h - (h² - a² - b²) / 2h`. The difference in it is
nearly zero, so it is put together from small terms that hardly round.
-/

namespace Complex

/-- Vectors are scaled by this power of two. -/
def scale : Float := Float.ofNat (Nat.pow 2 600)

/-- Above this bound squares may overflow. -/
def largeBound : Float := Float.ofNat (Nat.pow 2 511)

/-- Below this bound squares may lose digits. -/
def smallBound : Float := 1.0 / Float.ofNat (Nat.pow 2 459)

/-- A coordinate in this ratio to the other one does not change the length. -/
def negligible : Float := 1.0 / Float.ofNat (Nat.pow 2 54)

/-- What the square of `h` exceeds `a² + b²` by, where `b ≤ a` and `h` is close to the root. -/
def excess (h a b : Float) : Float :=
  if h ≤ 2.0 * b then
    let d := h - b
    a * (2.0 * d - a) + (d - 2.0 * (a - b)) * d
  else
    let d := h - a
    2.0 * d * (a - 2.0 * b) + ((4.0 * d - b) * b + d * d)

/-- The root of the sum of squares of numbers `b ≤ a` of moderate size. -/
def rootOfSquares (a b : Float) : Float :=
  let h := (a * a + b * b).sqrt
  h - excess h a b / (2.0 * h)

/-- The length of the vector with the coordinates `b ≤ a`, which are not negative. -/
def lengthOf (a b : Float) : Float :=
  if b ≤ a * negligible then a + b
  else if largeBound < a then rootOfSquares (a / scale) (b / scale) * scale
  else if b < smallBound then rootOfSquares (a * scale) (b * scale) / scale
  else rootOfSquares a b

/-- The length of the vector with the given coordinates. An infinite coordinate makes it infinite,
whatever the other one is. -/
def hypot (x y : Float) : Float :=
  if x.isInf then x.abs
  else if y.isInf then y.abs
  else if x.abs < y.abs then lengthOf y.abs x.abs
  else lengthOf x.abs y.abs

/-- The absolute value. -/
def abs (a : Complex) : Float := hypot a.re a.im

/-- The angle to the positive real axis. -/
def arg (a : Complex) : Float := Float.atan2 a.im a.re

end Complex

end EscapeTime
