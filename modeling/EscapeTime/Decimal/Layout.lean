import EscapeTime.Decimal.Shortest

namespace EscapeTime.Decimal

/-!
# Writing a double

The digits are chosen first, then laid out: in positional notation, or as a number between one and
ten with a power of ten.
-/

/-- What there is to write of a double beside its sign. -/
inductive Magnitude
  | notANumber
  | infinite
  | zero
  | finite (x : Binary)
  deriving DecidableEq, Repr

/-- The sign of a double and the rest of it, from its bits: the sign, eleven bits of exponent and
52 bits of fraction. The sign of "not a number" does not count. -/
def decode (x : Float) : Bool × Magnitude :=
  let bits := x.toBits
  let negative := bits >>> 63 != 0
  let exponent := ((bits >>> 52) &&& 0x7FF).toNat
  let fraction := (bits &&& 0xFFFFFFFFFFFFF).toNat
  if exponent == 0x7FF then
    if fraction == 0 then (negative, .infinite) else (false, .notANumber)
  else if exponent == 0 then
    if fraction == 0 then (negative, .zero)
    else (negative, .finite ⟨fraction, Binary.leastExponent⟩)
  else
    (negative, .finite ⟨Nat.pow 2 (Binary.precision - 1) + fraction,
      Binary.leastExponent + (exponent - 1 : Nat)⟩)

def signText (negative : Bool) : String := if negative then "-" else ""

namespace Digits

def text (d : Digits) : List Char := Nat.toDigits 10 d.digits

/-- The number of digits before the point; zero or less if the number is below one. -/
def pointPosition (d : Digits) : Int := d.text.length + d.exponent

/-- The whole digits and the digits after the point. -/
def split (d : Digits) : List Char × List Char :=
  let p := d.pointPosition
  if 0 ≤ d.exponent then (d.text ++ List.replicate d.exponent.toNat '0', [])
  else if 0 < p then d.text.splitAt p.toNat
  else (['0'], List.replicate (-p).toNat '0' ++ d.text)

/-- The first digit, the others, and the power of ten that puts the point between them. -/
def normal (d : Digits) : List Char × List Char × Int :=
  (d.text.take 1, d.text.drop 1, d.pointPosition - 1)

end Digits

/-- The shortest digits in positional notation, without a point if there is nothing after it. -/
def positional (x : Float) : String :=
  let (negative, magnitude) := decode x
  match magnitude with
  | .notANumber => "NaN"
  | .infinite => signText negative ++ "inf"
  | .zero => signText negative ++ "0"
  | .finite d =>
    let (whole, fraction) := (d.shortest .up).split
    let body := if fraction.isEmpty then whole else whole ++ '.' :: fraction
    signText negative ++ String.ofList body

end EscapeTime.Decimal
