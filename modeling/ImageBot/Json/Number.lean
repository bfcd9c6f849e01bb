import ImageBot.Json.Cursor
/-!
# Numbers in a document

A number is one or more digits without a superfluous zero, then perhaps a point with
digits, then perhaps an exponent. Its value is an integer where that is exact in 64 bits.
Otherwise the digits that fit in 64 bits are rounded to binary64 and then multiplied or
divided by a power of ten, each step rounding once, so the result can be off by a bit.
-/
namespace ImageBot.Json

open Decimal

namespace Number

/-- The greatest significand. -/
def greatest : Nat := 2 ^ 64 - 1

/-- Puts digits onto a significand as long as they fit; the digits that do not are left. -/
def absorb : (significand : Nat) → List Nat → Nat × List Nat
  | s, [] => (s, [])
  | s, d :: ds => if s * 10 + d ≤ greatest then absorb (s * 10 + d) ds else (s, d :: ds)

/-- The power of ten nearest to `10 ^ k`. -/
def powerOfTen (k : Nat) : Binary64 := .ofNat (Nat.pow 10 k)

/-- Scales a number by a power of ten, in steps of at most `10 ^ 308`; nothing when the
result is out of range. Three steps take every significand to zero. -/
def scale : (fuel : Nat) → Binary64 → Int → Option Binary64
  | 0, x, _ => some x
  | fuel + 1, x, e =>
    if e.natAbs ≤ 308 then
      if 0 ≤ e then
        let y := x.mul (powerOfTen e.natAbs)
        if y.isFinite then some y else none
      else some (x.div (powerOfTen e.natAbs))
    else if x = .zero then some x
    else if 0 ≤ e then none
    else scale fuel (x.div (powerOfTen 308)) (e + 308)

/-- The number `significand * 10 ^ e` with a sign. -/
def fromParts (negative : Bool) (significand : Nat) (e : Int) : Option Binary64 :=
  (scale 8 (.ofNat significand) e).map fun x => if negative then x.neg else x

/-- The value of an exponent, or how many of its digits it takes to pass `2 ^ 31 - 1`. -/
def exponentValue : (value count : Nat) → List Nat → Except Nat Nat
  | value, _, [] => .ok value
  | value, count, d :: ds =>
    if value * 10 + d ≤ 2 ^ 31 - 1 then exponentValue (value * 10 + d) (count + 1) ds
    else .error (count + 1)

/-- An integer, unless it is out of range or a negative zero. -/
def ofInteger (negative : Bool) (significand : Nat) : Number :=
  if !negative then .int significand
  else if 1 ≤ significand ∧ significand ≤ 2 ^ 63 then .int (-(significand : Int))
  else .float (Binary64.ofNat significand).neg

/-- The digits of a number as written, and where its exponent digits start. -/
structure Parts where
  negative : Bool
  whole : List Nat
  fraction : List Nat
  hasFraction : Bool
  exponent : Option (Bool × Nat × List Nat)
  stop : Nat

/-- The value of a number. -/
def Parts.value (p : Parts) : Reading Number :=
  let (significand, left) := absorb 0 p.whole
  let outOfRange : Fault := ⟨.numberOutOfRange, p.stop⟩
  let float (s : Nat) (e : Int) : Reading Number :=
    match fromParts p.negative s e with
    | some x => .ok (.float x)
    | none => .error outOfRange
  if !p.hasFraction && p.exponent.isNone && left.isEmpty then .ok (ofInteger p.negative significand)
  else
    let (significand, unused) := absorb significand p.fraction
    let shift : Int := (left.length : Int) - ((p.fraction.length : Int) - unused.length)
    match p.exponent with
    | none => float significand shift
    | some (down, start, ds) =>
      match exponentValue 0 0 ds with
      | .ok e => float significand (if down then shift - e else shift + e)
      | .error count =>
        if significand ≠ 0 ∧ !down then .error ⟨.numberOutOfRange, start + count⟩
        else .ok (.float (.signed p.negative 0))

/-- The whole part. -/
def scanWhole (c : Cursor) : Except Flaw (List Nat × Cursor) :=
  match c.rest with
  | [] => .error ⟨c.here .endInValue, c.here .invalidNumber⟩
  | b :: rest =>
    if b = 0x30 then
      let next : Cursor := ⟨c.offset + 1, rest⟩
      if rest.head?.any isDigit then .error (Cursor.flaw (next.ahead .invalidNumber))
      else .ok ([0], next)
    else if isDigit b then .ok c.digits
    else .error (Cursor.flaw ⟨.invalidNumber, c.offset + 1⟩)

/-- The digits behind a point, if there is one. -/
def scanFraction (c : Cursor) : Except Flaw (Bool × List Nat × Cursor) :=
  match c.rest with
  | [] => .ok (false, [], c)
  | b :: rest =>
    if b = 0x2E then
      let next : Cursor := ⟨c.offset + 1, rest⟩
      match next.digits with
      | ([], _) =>
        if rest.isEmpty then .error ⟨next.ahead .endInValue, next.ahead .invalidNumber⟩
        else .error (Cursor.flaw (next.ahead .invalidNumber))
      | (ds, after) => .ok (true, ds, after)
    else .ok (false, [], c)

/-- The exponent, if there is one: whether it is negative, where its digits start, and
the digits. -/
def scanExponent (c : Cursor) : Except Flaw (Option (Bool × Nat × List Nat) × Cursor) :=
  match c.rest with
  | [] => .ok (none, c)
  | b :: rest =>
    if b = 0x65 ∨ b = 0x45 then
      let (down, next) : Bool × Cursor := match rest with
        | 0x2B :: r => (false, ⟨c.offset + 2, r⟩)
        | 0x2D :: r => (true, ⟨c.offset + 2, r⟩)
        | r => (false, ⟨c.offset + 1, r⟩)
      match next.digits with
      | ([], _) =>
        if next.rest.isEmpty then .error ⟨next.here .endInValue, next.here .invalidNumber⟩
        else .error (Cursor.flaw ⟨.invalidNumber, next.offset + 1⟩)
      | (ds, after) => .ok (some (down, next.offset, ds), after)
    else .ok (none, c)

/-- The number at the cursor, which is at a digit or a minus sign. -/
def scan (c : Cursor) : Except Flaw (Reading Number × Cursor) := do
  let (negative, c) : Bool × Cursor := match c.rest with
    | 0x2D :: rest => (true, ⟨c.offset + 1, rest⟩)
    | _ => (false, c)
  let (whole, c) ← scanWhole c
  let (hasFraction, fraction, c) ← scanFraction c
  let (exponent, c) ← scanExponent c
  let parts : Parts := ⟨negative, whole, fraction, hasFraction, exponent, c.offset⟩
  return (parts.value, c)

end Number

end ImageBot.Json
