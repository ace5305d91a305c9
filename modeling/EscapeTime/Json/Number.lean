import EscapeTime.Decimal.Layout
import EscapeTime.Decimal.Numeral
import EscapeTime.Json.Basic

namespace EscapeTime.Json

/-!
# Numbers in a document

A number is written with the fewest digits that stand for it. It is read in two roundings: the
leading digits, as many as fit into 64 bits, give a double, which is then multiplied or divided by a
power of ten. A number too great for a double is refused; one too small becomes zero.
-/

namespace Number

/-! ### Reading -/

/-- Neither a fraction nor an exponent. -/
def isInteger (n : Number) : Bool := n.fraction.isEmpty && n.exponent.isNone

/-- The natural number, if it is written as one and is at most `bound`. -/
def natural? (bound : Nat) (n : Number) : Option Nat :=
  if n.isInteger && !n.negative then
    let value := Decimal.spell 0 n.whole
    if value ≤ bound then some value else none
  else none

/-- The greatest significand that is kept. -/
def significandBound : Nat := Nat.pow 2 64 - 1

/-- Takes digits into the significand as long as it stays within the bound. Gives the significand
and the number of digits that were left. -/
def takeDigits (significand : Nat) : List Char → Nat × Nat
  | [] => (significand, 0)
  | d :: rest =>
    let next := 10 * significand + Decimal.digitValue d
    if next ≤ significandBound then takeDigits next rest else (significand, rest.length + 1)

/-- The significand, and the power of ten that belongs to it by the position of the point. -/
def significand (n : Number) : Nat × Int :=
  let (whole, dropped) := takeDigits 0 n.whole
  let (all, left) := takeDigits whole n.fraction
  (all, (dropped : Int) - (n.fraction.length - left : Nat))

/-- The written exponent. -/
def writtenExponent (n : Number) : Int :=
  match n.exponent with
  | none => 0
  | some (negative, digits) =>
    let e : Int := Decimal.spell 0 digits
    if negative then -e else e

/-- The greatest power of ten that is a double. -/
def greatestPower : Int := 308

def powerOfTen (e : Nat) : Float := Float.ofScientific 1 false e

/-- The double times `10 ^ e`, unless it is too great. -/
def scale? (x : Float) (e : Int) : Option Float :=
  if e.natAbs ≤ greatestPower then
    if 0 ≤ e then
      let y := x * powerOfTen e.natAbs
      if y.isInf then none else some y
    else some (x / powerOfTen e.natAbs)
  else if x == 0.0 then some x
  else if 0 ≤ e then none
  else scale? (x / powerOfTen greatestPower.natAbs) (e + greatestPower)
termination_by e.natAbs
decreasing_by
  simp only [greatestPower] at *
  omega

/-- The double that the number is read as. -/
def toFloat? (n : Number) : Option Float :=
  let (digits, e) := n.significand
  (scale? (Float.ofNat digits) (e + n.writtenExponent)).map fun x => if n.negative then -x else x

/-! ### Writing -/

def ofNat (n : Nat) : Number := ⟨false, Nat.toDigits 10 n, [], none⟩

/-- The decimal exponents of the numbers that are written without a power of ten. -/
def isPlain (e : Int) : Bool := -5 ≤ e && e ≤ 15

/-- The digits laid out, with a point in plain notation also where nothing follows it. -/
def ofDigits (negative : Bool) (d : Decimal.Digits) : Number :=
  let (first, others, e) := d.normal
  if isPlain e then
    let (whole, fraction) := d.split
    ⟨negative, whole, if fraction.isEmpty then ['0'] else fraction, none⟩
  else ⟨negative, first, others, some (e < 0, Nat.toDigits 10 e.natAbs)⟩

/-- The number for a double; infinities and "not a number" have none. -/
def ofFloat? (x : Float) : Option Number :=
  match Decimal.decode x with
  | (_, .notANumber) | (_, .infinite) => none
  | (negative, .zero) => some ⟨negative, ['0'], ['0'], none⟩
  | (negative, .finite d) => some (ofDigits negative (d.shortest .toEven))

end Number

/-- The natural number in its digits. -/
def ofNat (n : Nat) : Json := .number (.ofNat n)

/-- The double as a number, or nothing. -/
def ofFloat (x : Float) : Json :=
  match Number.ofFloat? x with
  | some n => .number n
  | none => .null

end EscapeTime.Json
