import ImageBot.Decimal.Notation
import ImageBot.Json.Value
import ImageBot.Text.Hex
/-!
# JSON text

Values are written without blanks, members in the order they have. In strings only the
quotation mark, the backslash and the control characters below U+0020 are escaped.
-/
namespace ImageBot.Json

open Decimal

/-- A character inside a string. -/
def escapeChar (c : Char) : List Char :=
  if c = '"' then ['\\', '"']
  else if c = '\\' then ['\\', '\\']
  else if 0x20 ≤ c.toNat then [c]
  else match c.toNat with
    | 8 => ['\\', 'b']
    | 9 => ['\\', 't']
    | 10 => ['\\', 'n']
    | 12 => ['\\', 'f']
    | 13 => ['\\', 'r']
    | n => ['\\', 'u', '0', '0', Text.hexLower (n / 16), Text.hexLower (n % 16)]

/-- A string in quotation marks. -/
def quote (s : String) : String :=
  String.ofList ('"' :: (s.toList.flatMap escapeChar ++ ['"']))

/-- The text of a number. Numbers that JSON cannot write are `null`. -/
def Number.write : Number → String
  | .int n => toString n
  | .float x => if x.isFinite then Style.json.write x else "null"

namespace Value

mutual
/-- The text of a value. -/
def write : Value → String
  | .null => "null"
  | .bool b => if b then "true" else "false"
  | .number n => n.write
  | .string s => quote s
  | .array items => "[" ++ writeItems true items ++ "]"
  | .object members => "\x7b" ++ writeMembers true members ++ "\x7d"
/-- The items of an array, with a comma before each one but the first. -/
def writeItems : (first : Bool) → List Value → String
  | _, [] => ""
  | first, v :: rest => (if first then "" else ",") ++ write v ++ writeItems false rest
/-- The members of an object, with a comma before each one but the first. -/
def writeMembers : (first : Bool) → List (String × Value) → String
  | _, [] => ""
  | first, (name, v) :: rest =>
    (if first then "" else ",") ++ quote name ++ ":" ++ write v ++ writeMembers false rest
end

end Value

end ImageBot.Json
