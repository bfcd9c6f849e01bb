import ImageBot.Decimal.Binary64
import ImageBot.Decimal.Integer
/-!
# Floating-point numbers in decimal text

`readFloat?` reads an optional sign, digits with at most one point, and an optional
exponent; a digit must stand before or behind the point. The value is the binary64
number nearest to the text, so a text beyond the range reads as an infinity. The words
for infinity and not-a-number are read in any letter case.
-/
namespace ImageBot.Decimal

/-- The digits at the start of a text, as value and count, and what follows them. -/
def leadingDigits : (value count : Nat) → List Char → Nat × Nat × List Char
  | value, count, [] => (value, count, [])
  | value, count, c :: rest =>
    match digit? c with
    | some d => leadingDigits (value * 10 + d) (count + 1) rest
    | none => (value, count, c :: rest)

/-- The binary64 number nearest to `digits * 10 ^ exponent`. Beyond the range of the
format the power of ten is not computed. -/
def nearestDecimal (negative : Bool) (digits : Nat) (exponent : Int) : Binary64 :=
  if digits = 0 then .signed negative 0
  else
    let place := ((toString digits).length : Int) + exponent
    if 400 < place then .infinity negative
    else if place < -400 then .signed negative 0
    else if 0 ≤ exponent then .nearest negative (digits * Nat.pow 10 exponent.toNat) 1
    else .nearest negative digits (Nat.pow 10 (-exponent).toNat)

/-- An exponent part, which must reach to the end of the text. -/
def exponent? : List Char → Option Int
  | [] => some 0
  | c :: rest =>
    if c ≠ 'e' ∧ c ≠ 'E' then none
    else
      let (negative, digits) := match rest with
        | '-' :: r => (true, r)
        | '+' :: r => (false, r)
        | r => (false, r)
      match leadingDigits 0 0 digits with
      | (_, 0, _) => none
      | (value, _, []) => some (if negative then -(value : Int) else value)
      | _ => none

/-- A number after its sign. -/
def magnitude? (negative : Bool) (s : List Char) : Option Binary64 :=
  let (whole, wholeCount, rest) := leadingDigits 0 0 s
  match rest with
  | '.' :: more =>
    let (digits, count, tail) := leadingDigits whole 0 more
    if wholeCount + count = 0 then none
    else (exponent? tail).map fun e => nearestDecimal negative digits (e - count)
  | tail =>
    if wholeCount = 0 then none
    else (exponent? tail).map fun e => nearestDecimal negative whole e

/-- A special value after its sign. -/
def special? (negative : Bool) (s : List Char) : Option Binary64 :=
  let t := String.ofList (s.map Char.toLower)
  if t = "inf" ∨ t = "infinity" then some (.infinity negative)
  else if t = "nan" then some .nan
  else none

/-- The number that a text denotes. -/
def readFloat? : List Char → Option Binary64
  | '-' :: rest => special? true rest <|> magnitude? true rest
  | '+' :: rest => special? false rest <|> magnitude? false rest
  | s => special? false s <|> magnitude? false s

end ImageBot.Decimal
