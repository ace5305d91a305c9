import EscapeTime.Complex.Hypot

namespace EscapeTime

/-!
# Powers

A whole power is computed by repeated squaring, which needs nothing of the multiplication but that
it be given. The exponent is a word of 64 bits. A complex power of a complex number goes through the
exponential and the logarithm, except where the exponent is a whole number of moderate size.
-/

/-- Where repeated squaring stands: the product so far, the power of the base that was reached, and
the binary digits of the exponent that are still to be taken. -/
structure Squaring (α : Type) where
  acc : α
  base : α
  left : UInt64

namespace Squaring

variable {α : Type} (mul : α → α → α)

/-- One round takes the lowest digit. The base is squared in the last round, too. -/
def round (s : Squaring α) : Squaring α :=
  ⟨if s.left &&& 1 = 1 then mul s.acc s.base else s.acc, mul s.base s.base, s.left >>> 1⟩

theorem toNat_left_round (s : Squaring α) : (s.round mul).left.toNat = s.left.toNat / 2 := by
  simp [round, Nat.shiftRight_eq_div_pow]

/-- The product once all digits are taken. -/
def run (s : Squaring α) : α := if s.left = 0 then s.acc else run (s.round mul)
termination_by s.left.toNat
decreasing_by
  rename_i h
  have hpos : s.left.toNat ≠ 0 := fun hzero => h (UInt64.toNat_inj.1 hzero)
  rw [toNat_left_round]
  omega

end Squaring

/-- The power with a whole exponent; a negative one gives the inverse. The size of the least word is
a word without a sign. -/
def wholePower {α : Type} (mul div : α → α → α) (one base : α) (n : Int64) : α :=
  let p := Squaring.run mul ⟨one, base, n.abs.toUInt64⟩
  if n < 0 then div one p else p

namespace Complex

def exp (a : Complex) : Complex :=
  let scale := Float.exp a.re
  ⟨scale * Float.cos a.im, scale * Float.sin a.im⟩

/-- The principal logarithm. -/
def ln (a : Complex) : Complex := ⟨Float.log a.abs, a.arg⟩

/-- The power with a whole exponent, which is taken as a word. -/
def powWhole (a : Complex) (n : Int) : Complex :=
  wholePower Complex.mul Complex.div one a (.ofInt n)

/-- Whole exponents up to this size are taken by repeated squaring. -/
def greatestWholeExponent : Float := 1024.0

/-- The whole number that a double of moderate size is, if it is one. -/
def whole? (x : Float) : Option Int :=
  let size := x.abs
  let n := size.toUInt64
  if size ≤ greatestWholeExponent && n.toFloat == size then
    some (if x < 0.0 then -(n.toNat : Int) else n.toNat)
  else none

/-- The exponent as a whole number, if it is one of moderate size. -/
def wholeExponent? (w : Complex) : Option Int := if w.im == 0.0 then whole? w.re else none

/-- The power with a complex exponent. Apart from the whole exponents of moderate
size, zero has the power zero. -/
def pow (a w : Complex) : Complex :=
  match wholeExponent? w with
  | some n => a.powWhole n
  | none => if a == zero then zero else (w * a.ln).exp

end Complex

end EscapeTime
