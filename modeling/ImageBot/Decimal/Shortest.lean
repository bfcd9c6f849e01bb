import ImageBot.Decimal.Binary64
/-!
# Shortest decimals

`shortest` finds the decimal with the fewest digits among those that read back as a
given binary64 number, and of these the nearest to it. A decimal reads back when it
lies between the midpoints to the two neighbouring numbers; the midpoints themselves
count when the significand is even.

The search goes through the digit counts from 1 to 17. If some multiple of a power of
ten lies in the interval around the number, then so does one of the two multiples next
to the number, so only these two are tried.
-/
namespace ImageBot.Decimal

/-- A decimal `digits * 10 ^ exponent`. -/
structure Scientific where
  digits : Nat
  exponent : Int
  deriving Repr, DecidableEq

namespace Shortest

/-- `num * 10 ^ k / den`, as a fraction of natural numbers. -/
def shifted (num den : Nat) (k : Int) : Nat × Nat :=
  if 0 ≤ k then (num * Nat.pow 10 k.toNat, den) else (num, den * Nat.pow 10 (-k).toNat)

/-- How many decimal digits a natural number has; zero has none. -/
def width (n : Nat) : Nat := if n = 0 then 0 else (Nat.toDigits 10 n).length

/-- The least `j` from `j` on with `1 ≤ num * 10 ^ j / den`. -/
def leadingZeros (num den : Nat) : (fuel j : Nat) → Nat
  | 0, j => j
  | fuel + 1, j => if den ≤ num * Nat.pow 10 j then j else leadingZeros num den fuel (j + 1)

/-- The decimal exponent of the first digit of `num / den`. -/
def magnitude (num den : Nat) : Int :=
  if den ≤ num then (width (num / den) : Int) - 1 else -(leadingZeros num den 400 1 : Int)

/-- The reals that read back as one number, as numerators over a common denominator. -/
structure Interval where
  low : Nat
  value : Nat
  high : Nat
  den : Nat
  closed : Bool

/-- The interval around `m * 2 ^ q`. Below a power of two the gap is half as wide. -/
def interval (m : Nat) (q : Int) : Interval :=
  let down := if m = 2 ^ 52 ∧ -1074 < q then 1 else 2
  let (low, den) := Binary64.scaled (4 * m - down) (q - 2) 1
  let (value, _) := Binary64.scaled (4 * m) (q - 2) 1
  let (high, _) := Binary64.scaled (4 * m + 2) (q - 2) 1
  ⟨low, value, high, den, m % 2 == 0⟩

/-- Whether `c * 10 ^ k` reads back. -/
def Interval.contains (i : Interval) (c : Nat) (k : Int) : Bool :=
  let (num, den) := shifted c 1 k
  let x := num * i.den
  if i.closed then i.low * den ≤ x && x ≤ i.high * den else i.low * den < x && x < i.high * den

/-- The multiples of `10 ^ k` next to the number, if one reads back: the nearer one,
and the even one of two that are equally near. -/
def Interval.nearest? (i : Interval) (k : Int) : Option Nat :=
  let (num, den) := shifted i.value i.den (-k)
  let below := num / den
  match i.contains below k, i.contains (below + 1) k with
  | true, false => some below
  | false, true => some (below + 1)
  | true, true => some (Binary64.roundDiv num den)
  | false, false => none

/-- Tries grids from coarse to fine. -/
def search (i : Interval) (top : Int) : (fuel count : Nat) → Scientific
  | 0, count => ⟨(i.nearest? (top - count)).getD 0, top - count⟩
  | fuel + 1, count =>
    match i.nearest? (top - count) with
    | some d => ⟨d, top - count⟩
    | none => search i top fuel (count + 1)

end Shortest

/-- The shortest decimal that reads back as `m * 2 ^ q`; zero is `0 * 10 ^ 0`. -/
def shortest (m : Nat) (q : Int) : Scientific :=
  if m = 0 then ⟨0, 0⟩
  else
    let i := Shortest.interval m q
    Shortest.search i (Shortest.magnitude i.value i.den) 17 0

end ImageBot.Decimal
