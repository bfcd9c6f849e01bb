import ImageBot.Decimal.Notation
import ImageBot.Decimal.Reading
import ImageBot.Text.Hex
import ImageBot.Text.Shown
import ImageBot.Yaml.Node
/-!
# What scalars mean

A plain scalar may be a word for nothing or for a truth value, an integer in one of four
bases, a floating-point number, or else a text. A whole number with a leading zero is a
text, too, but it is a number where a floating-point number is asked for. A tag can ask
for one of these meanings, or for none of them.
-/
namespace ImageBot.Yaml

open Decimal Text

/-- Why a value is not what was wanted. -/
inductive Mismatch
  | type (found expected : String)
  | value (found expected : String)
  | duplicate (field : String)
  deriving Repr, DecidableEq

/-- A mismatch in words. -/
def Mismatch.message : Mismatch → String
  | type found expected => s!"invalid type: {found}, expected {expected}"
  | value found expected => s!"invalid value: {found}, expected {expected}"
  | duplicate field => s!"duplicate field `{field}`"

/-- Tags that ask for a meaning. -/
inductive CoreTag
  | bool
  | int
  | float
  | null
  deriving Repr, DecidableEq

/-- The text of a tag. -/
def CoreTag.text : CoreTag → String
  | bool => "tag:yaml.org,2002:bool"
  | int => "tag:yaml.org,2002:int"
  | float => "tag:yaml.org,2002:float"
  | null => "tag:yaml.org,2002:null"

/-- The meaning that a tag asks for. -/
def CoreTag.ofText? (tag : String) : Option CoreTag := [bool, int, float, null].find? (·.text == tag)

/-- Whether a text is a word for nothing. -/
def isNull (s : String) : Bool := s == "null" || s == "Null" || s == "NULL" || s == "~"

/-- The truth value of a text. -/
def bool? (s : String) : Option Bool :=
  if s = "true" ∨ s = "True" ∨ s = "TRUE" then some true
  else if s = "false" ∨ s = "False" ∨ s = "FALSE" then some false
  else none

/-- The value of a digit in a base up to 16. -/
def digitIn? (base : Nat) (c : Char) : Option Nat :=
  if 0x80 ≤ c.toNat then none
  else (hexValue? c.toNat.toUInt8).bind fun d => if d < base then some d else none

/-- Reads digits onto a value. -/
def digitsFrom? (base : Nat) : (value : Nat) → List Char → Option Nat
  | value, [] => some value
  | value, c :: rest =>
    match digitIn? base c with
    | some d => digitsFrom? base (value * base + d) rest
    | none => none

/-- The number of digits in a base; there must be one at least. -/
def digits? (base : Nat) (s : List Char) : Option Nat := if s.isEmpty then none else digitsFrom? base 0 s

/-- Whether a text is a whole number with a leading zero, with or without a sign. -/
def hasLeadingZero (s : List Char) : Bool :=
  let s := match s with
    | c :: rest => if c == '-' || c == '+' then rest else s
    | [] => []
  match s with
  | '0' :: c :: rest => (c :: rest).all fun d => (digitIn? 10 d).isSome
  | _ => false

/-- The number of a text without a sign, which may tell its base. -/
def magnitude? (s : List Char) : Option Nat :=
  match s with
  | '0' :: 'x' :: rest => digits? 16 rest
  | '0' :: 'o' :: rest => digits? 8 rest
  | '0' :: 'b' :: rest => digits? 2 rest
  | _ => digits? 10 s

/-- The natural number of a text with or without a plus sign. -/
def natural? (s : List Char) : Option Nat :=
  if hasLeadingZero s then none
  else match s with
    | '+' :: rest => magnitude? rest
    | _ => magnitude? s

/-- The magnitude of the number of a text with a minus sign. -/
def negative? (s : List Char) : Option Nat :=
  if hasLeadingZero s then none
  else match s with
    | '-' :: rest => magnitude? rest
    | _ => none

/-- An integer in words, if it has at most 128 bits. Beyond 64 bits this is told, too. -/
def integerText? (s : List Char) : Option String :=
  match natural? s, negative? s with
  | some n, _ =>
    if n < 2 ^ 64 then some s!"integer `{n}`"
    else if n < 2 ^ 128 then some s!"integer `{n}` as u128"
    else none
  | none, some n =>
    if n ≤ 2 ^ 63 then some s!"integer `{-(n : Int)}`"
    else if n ≤ 2 ^ 127 then some s!"integer `{-(n : Int)}` as i128"
    else none
  | none, none => none

/-- The floating-point number of a text, which is a word or within the range of the format. -/
def float? (s : String) : Option Binary64 :=
  let signless := if s.startsWith "+" then (s.drop 1).toString else s
  if s.startsWith "++" ∨ s.startsWith "+-" then none
  else if signless = ".inf" ∨ signless = ".Inf" ∨ signless = ".INF" then some (.infinity false)
  else if s = "-.inf" ∨ s = "-.Inf" ∨ s = "-.INF" then some (.infinity true)
  else if s = ".nan" ∨ s = ".NaN" ∨ s = ".NAN" then some .nan
  else match readFloat? signless.toList with
    | some x => if x.isFinite then some x else none
    | none => none

namespace Scalar

/-- Whether a scalar can be read as what a tag asks for: it is plain, or it is a literal
block with this tag. -/
def admits (s : Scalar) (tag : CoreTag) : Bool :=
  s.style == .plain || (s.style == .literal && s.tag == some tag.text)

/-- The truth value of a scalar. -/
def bool? (s : Scalar) : Option Bool := if s.admits .bool then Yaml.bool? s.text else none

/-- The natural number of at most 64 bits of a scalar. -/
def natural? (s : Scalar) : Option Nat :=
  if s.admits .int then (Yaml.natural? s.text.toList).filter (· < 2 ^ 64) else none

/-- The floating-point number of a scalar. -/
def float? (s : Scalar) : Option Binary64 := if s.admits .float then Yaml.float? s.text else none

/-- Whether a plain scalar says that there is nothing. -/
def saysNothing (s : Scalar) : Bool := s.text.isEmpty || isNull s.text

/-- A text in words. -/
def textInWords (s : Scalar) : String := s!"string {shown s.text}"

/-- A floating-point number in words. -/
def floatInWords (x : Binary64) : String := s!"floating point `{Style.withPoint.write x}`"

/-- A plain scalar in words, by its meaning. -/
def plainInWords (s : Scalar) : String :=
  if s.saysNothing then "unit value"
  else match Yaml.bool? s.text with
    | some b => s!"boolean `{b}`"
    | none =>
      match integerText? s.text.toList with
      | some text => text
      | none =>
        match if hasLeadingZero s.text.toList then none else Yaml.float? s.text with
        | some x => floatInWords x
        | none => s.textInWords

/-- What is wrong with a scalar where something else was expected. A scalar without the
meaning that its tag asks for is wrong for this reason. -/
def mismatch (s : Scalar) (expected : String) : Mismatch :=
  let without (meaning : String) : Mismatch := .value s.textInWords meaning
  match s.tag with
  | none => .type (if s.style == .plain then s.plainInWords else s.textInWords) expected
  | some tag =>
    match CoreTag.ofText? tag with
    | some .bool =>
      match Yaml.bool? s.text with
      | some b => .type s!"boolean `{b}`" expected
      | none => without "a boolean"
    | some .int =>
      match integerText? s.text.toList with
      | some text => .type text expected
      | none => without "an integer"
    | some .float =>
      match Yaml.float? s.text with
      | some x => .type (floatInWords x) expected
      | none => without "a float"
    | some .null => if isNull s.text then .type "unit value" expected else without "null"
    | none =>
      if tag.startsWith "!" && s.style == .plain then .type s.plainInWords expected
      else .type s.textInWords expected

end Scalar

end ImageBot.Yaml
