import ImageBot.Decimal.Shortest
/-!
# How a floating-point number is written

A `Style` says where positional notation ends, whether a whole number keeps `.0`,
and how special values are spelled. The digits are always the shortest ones.
-/
namespace ImageBot.Decimal

/-- The decisions of one way of writing numbers. -/
structure Style where
  /-- The least and greatest place of the point, relative to the first digit, at which
  a number is still written without an exponent; no bound means no exponent ever. -/
  positional : Option (Int × Int)
  /-- Whether a whole number is followed by `.0`. -/
  pointZero : Bool
  deriving Repr

/-- Plain numbers: positional always, and a whole number has no point. -/
def Style.plain : Style := ⟨none, false⟩

/-- Numbers inside error texts that must not look whole. -/
def Style.withPoint : Style := ⟨none, true⟩

/-- Numbers inside JSON: an exponent below `1e-5` and from `1e16` on. -/
def Style.json : Style := ⟨some (-4, 16), true⟩

private def zeros (n : Nat) : String := String.ofList (List.replicate n '0')

/-- Digits with a point after the first `place` of them; zeros fill what is missing. -/
def fixedPoint (pointZero : Bool) (digits : String) (place : Int) : String :=
  if place ≤ 0 then "0." ++ zeros (-place).toNat ++ digits
  else if digits.length ≤ place.toNat then
    digits ++ zeros (place.toNat - digits.length) ++ (if pointZero then ".0" else "")
  else
    String.ofList (digits.toList.take place.toNat) ++ "." ++
      String.ofList (digits.toList.drop place.toNat)

/-- One digit, the others behind a point, and an exponent with a sign. -/
def exponential (digits : String) (place : Int) : String :=
  let e := place - 1
  let head := String.ofList (digits.toList.take 1)
  let tail := String.ofList (digits.toList.drop 1)
  head ++ (if tail.isEmpty then "" else "." ++ tail) ++ "e" ++ (if e < 0 then "-" else "+") ++
    toString e.natAbs

/-- The number without the zeros at the end of its digits. -/
def stripZeros : (fuel : Nat) → Scientific → Scientific
  | 0, d => d
  | fuel + 1, d =>
    if d.digits ≠ 0 ∧ d.digits % 10 = 0 then stripZeros fuel ⟨d.digits / 10, d.exponent + 1⟩ else d

/-- The text of a number in a style. -/
def Style.write (style : Style) (x : Binary64) : String :=
  match x.value with
  | .nan => "NaN"
  | .infinite negative => if negative then "-inf" else "inf"
  | .finite negative m q =>
    let sign := if negative then "-" else ""
    if m = 0 then sign ++ (if style.pointZero then "0.0" else "0")
    else
      let d := stripZeros 20 (shortest m q)
      let digits := toString d.digits
      let place := (digits.length : Int) + d.exponent
      match style.positional with
      | none => sign ++ fixedPoint style.pointZero digits place
      | some (least, greatest) =>
        if least ≤ place ∧ place ≤ greatest then sign ++ fixedPoint style.pointZero digits place
        else sign ++ exponential digits place

end ImageBot.Decimal
