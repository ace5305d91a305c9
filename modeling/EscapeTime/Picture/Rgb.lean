import EscapeTime.Error
import EscapeTime.Text.Basic

namespace EscapeTime

/-!
# Colours

A colour is three bytes. Its text is a number sign and six hexadecimal digits; the number sign may
be left out.
-/

structure Rgb where
  r : UInt8
  g : UInt8
  b : UInt8
  deriving DecidableEq, Repr, Inhabited

namespace Rgb

/-- The text without a number sign at its front. -/
def digitsOf : List Char → List Char
  | '#' :: rest => rest
  | cs => cs

/-- Six bytes, and hexadecimal digits only. -/
def isSixDigits (cs : List Char) : Bool :=
  Text.byteCount cs == 6 && cs.all fun c => (Text.hexValue? c).isSome

/-- The byte that the two digits from a place on spell. -/
def channel? (cs : List Char) (place : Nat) : Option UInt8 := do
  let n ← Text.hexNumber? (← Text.slice? cs place (place + 2))
  if n < UInt8.size then return .ofNat n else none

/-- The colour that a text names. -/
def ofText (s : String) : Except Error Rgb :=
  let cs := digitsOf s.toList
  if isSixDigits cs then
    match channel? cs 0, channel? cs 2, channel? cs 4 with
    | some r, some g, some b => .ok ⟨r, g, b⟩
    | _, _, _ => .error (.invalidColor s)
  else .error (.invalidColor s)

/-- The six digits of the colour. -/
def digits (c : Rgb) : List Char :=
  Text.byteDigits c.r ++ Text.byteDigits c.g ++ Text.byteDigits c.b

def text (c : Rgb) : String := String.ofList ('#' :: c.digits)

/-- The share of the way from one byte to another, in 255ths, rounded down. -/
def mixExact (a b intensity : UInt8) : Int :=
  (a.toNat : Int) + ((b.toNat : Int) - a.toNat) * intensity.toNat / 255

/-- The share of the way as a byte. -/
def mixByte (a b intensity : UInt8) : UInt8 := .ofInt (mixExact a b intensity)

/-- The colour between two others. -/
def mix (a b : Rgb) (intensity : UInt8) : Rgb :=
  ⟨mixByte a.r b.r intensity, mixByte a.g b.g intensity, mixByte a.b b.b intensity⟩

end Rgb

end EscapeTime
