namespace EscapeTime.Decimal

/-!
# The fewest digits that read back

A double stands for all reals that round to it: those within half a gap of it, with the two ends if
its mantissa is even. Its shortest decimal is the point of the coarsest decimal grid that lies among
these reals. Where two neighbouring points do, the nearer one is taken, and a rule is needed only if
both are equally near.

The search runs in exact arithmetic on the double's mantissa and exponent.
-/

/-- The number `digits · 10 ^ exponent`. -/
structure Digits where
  digits : Nat
  exponent : Int
  deriving DecidableEq, Repr

/-- Which of two equally near neighbours is taken. -/
inductive Tie
  | up
  | toEven
  deriving DecidableEq, Repr

/-- The positive number `mantissa · 2 ^ exponent`. -/
structure Binary where
  mantissa : Nat
  exponent : Int
  deriving DecidableEq, Repr

namespace Binary

/-- The number divided by `10 ^ g`, as a numerator and a denominator. -/
def ratio (x : Binary) (g : Int) : Nat × Nat :=
  (x.mantissa * Nat.pow 2 x.exponent.toNat * Nat.pow 10 (-g).toNat,
    Nat.pow 2 (-x.exponent).toNat * Nat.pow 10 g.toNat)

/-- The exponents that can be the number's decimal exponent, descending. By the number of binary
digits it lies between the first and the last. -/
def decimalExponents (x : Binary) : List Int :=
  let size : Int := x.mantissa.log2 + 1 + x.exponent
  let top := (size * 30103).fdiv 100000 + 1
  (List.range 4).map fun (i : Nat) => top - i

/-- The greatest `e` with `10 ^ e` at most the number. -/
def decimalExponent (x : Binary) : Int :=
  let fits (e : Int) : Bool :=
    let (num, den) := x.ratio e
    den ≤ num
  (x.decimalExponents.find? fits).getD 0

/-- The mantissas of doubles have at most this many bits. -/
def precision : Nat := 53

/-- The exponent of the smallest doubles. -/
def leastExponent : Int := -1074

/-- A quarter of the distance to the next smaller double, in quarters of the distance to the next
greater one. The two differ only at a power of two. -/
def lowerQuarters (x : Binary) : Nat :=
  if x.mantissa == Nat.pow 2 (precision - 1) && leastExponent < x.exponent then 1 else 2

/-- The point of the grid of multiples of `10 ^ g` that stands for the double, if there is one. -/
def pick (tie : Tie) (x : Binary) (g : Int) : Option Nat :=
  let quarter : Binary := ⟨1, x.exponent - 2⟩
  let (num, den) := quarter.ratio g
  let value := 4 * x.mantissa * num
  let least := (4 * x.mantissa - x.lowerQuarters) * num
  let greatest := (4 * x.mantissa + 2) * num
  let hit (point : Nat) : Bool :=
    if x.mantissa % 2 == 0 then least ≤ point * den && point * den ≤ greatest
    else least < point * den && point * den < greatest
  let below := value / den
  let above := below + 1
  if hit below && hit above then
    let rest := 2 * (value % den)
    if rest < den then some below
    else if den < rest then some above
    else
      match tie with
      | .up => some above
      | .toEven => some (if below % 2 == 0 then below else above)
  else if hit below then some below
  else if hit above then some above
  else none

/-- The shortest decimal that stands for the double. -/
def shortest (tie : Tie) (x : Binary) : Digits :=
  let top := x.decimalExponent + 1
  let grids := (List.range 20).map fun (i : Nat) => top - i
  (grids.findSome? fun g => (x.pick tie g).map fun d => ⟨d, g⟩).getD ⟨0, 0⟩

end Binary

end EscapeTime.Decimal
