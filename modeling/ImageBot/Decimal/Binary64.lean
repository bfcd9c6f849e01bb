/-!
# Binary64 numbers

A number is its 64 bits. `value` takes it apart into a sign, a natural significand `m`
and an exponent `q`, so that it denotes `m * 2 ^ q`; everything that must be exact
(floors, decimal grids, shortest digits) is computed on these parts in natural numbers.
`nearest` goes back: it rounds a ratio of natural numbers to the format, a tie going to
the even significand, and the arithmetic is the exact result rounded that way.
-/
namespace ImageBot.Decimal

-- Powers of numbers are those of the core library, whatever else is imported.
attribute [default_instance 20000] instPowNat

/-- A number of the binary64 format, by its bits. -/
structure Binary64 where
  bits : UInt64
  deriving Repr, DecidableEq

namespace Binary64

/-- What a binary64 number denotes. -/
inductive Value
  | nan
  | infinite (negative : Bool)
  /-- The number `m * 2 ^ q`, or its negative. -/
  | finite (negative : Bool) (m : Nat) (q : Int)
  deriving Repr, DecidableEq

/-- What a number denotes. The exponent field 0 marks the subnormal numbers, which lack
the leading bit, and 2047 the special ones. -/
def value (x : Binary64) : Value :=
  let bits : Nat := x.bits.toNat
  let negative := bits / 2 ^ 63 % 2 == 1
  let exponent : Nat := bits / 2 ^ 52 % 2 ^ 11
  let fraction : Nat := bits % 2 ^ 52
  if exponent = 2047 then
    if fraction = 0 then .infinite negative else .nan
  else if exponent = 0 then .finite negative fraction (-1074)
  else .finite negative (2 ^ 52 + fraction) ((exponent : Int) - 1075)

/-- The number with given bits below the sign and a sign. -/
def signed (negative : Bool) (magnitude : Nat) : Binary64 :=
  ⟨((if negative then 2 ^ 63 else 0) + magnitude).toUInt64⟩

/-- Not a number. -/
def nan : Binary64 := signed false (2047 * 2 ^ 52 + 2 ^ 51)

/-- An infinity. -/
def infinity (negative : Bool) : Binary64 := signed negative (2047 * 2 ^ 52)

/-- Zero. -/
def zero : Binary64 := signed false 0

/-- The nearest natural number to `num / den`, a tie going to the even one. -/
def roundDiv (num den : Nat) : Nat :=
  let q := num / den
  let r := num % den
  if 2 * r < den then q
  else if 2 * r = den then q + q % 2
  else q + 1

/-- `num / den` over `2 ^ q`, as a ratio. -/
def unscaled (num den : Nat) (q : Int) : Nat × Nat :=
  if 0 ≤ q then (num, den * Nat.pow 2 q.toNat) else (num * Nat.pow 2 (-q).toNat, den)

/-- `m * 2 ^ q` times a natural number, as a ratio. -/
def scaled (m : Nat) (q : Int) (k : Nat) : Nat × Nat :=
  if 0 ≤ q then (m * Nat.pow 2 q.toNat * k, 1) else (m * k, Nat.pow 2 (-q).toNat)

/-- The exponent at which `num / den` has a significand of 53 bits, but no less than
that of the subnormal numbers. -/
def exponentFor (num den : Nat) : Int :=
  let q := max ((num.log2 : Int) - den.log2 - 53) (-1074)
  let (n, d) := unscaled num den q
  if 2 ^ 53 ≤ n / d then q + 1 else q

/-- The number nearest to `num / den`, or its negative. The bits of consecutive numbers
are consecutive, so a significand that rounds up to `2 ^ 53` needs no care. -/
def nearest (negative : Bool) (num den : Nat) : Binary64 :=
  if num = 0 then signed negative 0
  else
    let q := exponentFor num den
    let (n, d) := unscaled num den q
    let magnitude := (q + 1074).toNat * 2 ^ 52 + roundDiv n d
    if magnitude < 2047 * 2 ^ 52 then signed negative magnitude else infinity negative

/-- The number nearest to a natural number. -/
def ofNat (n : Nat) : Binary64 := nearest false n 1

/-- The number with the other sign. -/
def neg (x : Binary64) : Binary64 := ⟨x.bits ^^^ (2 ^ 63 : Nat).toUInt64⟩

/-- Whether a number is neither infinite nor not-a-number. -/
def isFinite (x : Binary64) : Bool :=
  match x.value with
  | .finite .. => true
  | _ => false

/-- Whether a number is above zero, infinity included. -/
def isPositive (x : Binary64) : Bool :=
  match x.value with
  | .nan => false
  | .infinite negative => !negative
  | .finite negative m _ => !negative && m != 0

/-- The product, rounded once. -/
def mul (x y : Binary64) : Binary64 :=
  match x.value, y.value with
  | .nan, _ => nan
  | _, .nan => nan
  | .infinite s, .infinite t => infinity (s != t)
  | .infinite s, .finite t m _ => if m = 0 then nan else infinity (s != t)
  | .finite s m _, .infinite t => if m = 0 then nan else infinity (s != t)
  | .finite s m p, .finite t n q =>
    let (num, den) := scaled (m * n) (p + q) 1
    nearest (s != t) num den

/-- The quotient, rounded once. -/
def div (x y : Binary64) : Binary64 :=
  match x.value, y.value with
  | .nan, _ => nan
  | _, .nan => nan
  | .infinite _, .infinite _ => nan
  | .infinite s, .finite t _ _ => infinity (s != t)
  | .finite s _ _, .infinite t => signed (s != t) 0
  | .finite s m p, .finite t n q =>
    if n = 0 then if m = 0 then nan else infinity (s != t)
    else
      let (num, den) := scaled m (p - q) 1
      nearest (s != t) num (den * n)

/-- The greatest natural number not above `m * 2 ^ q`. -/
def floor (m : Nat) (q : Int) : Nat :=
  let (num, den) := scaled m q 1
  num / den

end Binary64

end ImageBot.Decimal
