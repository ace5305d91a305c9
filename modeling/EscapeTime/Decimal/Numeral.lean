namespace EscapeTime.Decimal

/-!
# Decimal numerals

A numeral has an optional sign, digits with an optional point among them, and an optional power of
ten. At least one digit stands before the exponent mark; the point may come first or last. The
words for infinity and for "not a number" are read in any case.

A numeral denotes the double nearest to its exact value, a tie going to the even mantissa.
-/

/-- An unsigned numeral: the number `digits · 10 ^ exponent`. -/
structure Numeral where
  digits : Nat
  exponent : Int
  deriving DecidableEq, Repr

/-- The value of a decimal digit. -/
def digitValue (c : Char) : Nat := c.toNat - '0'.toNat

/-- The number that a run of digits spells, continuing from `n`. -/
def spell (n : Nat) (digits : List Char) : Nat :=
  digits.foldl (fun acc c => 10 * acc + digitValue c) n

theorem spell_toDigits (n : Nat) : spell 0 (Nat.toDigits 10 n) = n := Nat.ofDigitChars_ten_toDigits

/-- A sign, if there is one: whether it is a minus, and the text after it. -/
def readSign : List Char → Bool × List Char
  | '-' :: rest => (true, rest)
  | '+' :: rest => (false, rest)
  | rest => (false, rest)

/-- The power of ten at the end of a numeral; no text at all is the power zero. -/
def readExponent? : List Char → Option Int
  | [] => some 0
  | mark :: rest =>
    if mark == 'e' || mark == 'E' then
      let (negative, digits) := readSign rest
      if digits.isEmpty || !digits.all Char.isDigit then none
      else
        let n : Int := spell 0 digits
        some (if negative then -n else n)
    else none

/-- The fraction after the whole digits: its digits, and the text after them. -/
def readFraction : List Char → List Char × List Char
  | '.' :: rest => (rest.takeWhile Char.isDigit, rest.dropWhile Char.isDigit)
  | rest => ([], rest)

/-- An unsigned numeral that takes up the whole text. -/
def Numeral.read? (cs : List Char) : Option Numeral :=
  let whole := cs.takeWhile Char.isDigit
  let (fraction, rest) := readFraction (cs.dropWhile Char.isDigit)
  if whole.isEmpty && fraction.isEmpty then none
  else
    (readExponent? rest).map fun e =>
      { digits := spell (spell 0 whole) fraction, exponent := e - fraction.length }

/-- The double nearest to the numeral's value. -/
def Numeral.toFloat (n : Numeral) : Float :=
  Float.ofScientific n.digits (n.exponent < 0) n.exponent.natAbs

/-- An infinity or "not a number", spelled out in any case. -/
def readWord? (cs : List Char) : Option Float :=
  let word := String.ofList (cs.map Char.toLower)
  if word == "inf" || word == "infinity" then some (1.0 / 0.0)
  else if word == "nan" then some (0.0 / 0.0)
  else none

/-- The double that the text denotes, if it is a numeral. -/
def readFloat? (cs : List Char) : Option Float :=
  let (negative, rest) := readSign cs
  let magnitude := (readWord? rest).or ((Numeral.read? rest).map Numeral.toFloat)
  magnitude.map fun x => if negative then -x else x

end EscapeTime.Decimal
