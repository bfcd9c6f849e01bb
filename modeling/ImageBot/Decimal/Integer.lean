/-!
# Integers in decimal text

Reading is strict: ASCII digits only, no blanks, and at most one sign where a sign is
allowed. `Integer.read` goes through the digits once and stops at the first character
that is no digit or that carries the value past its bounds, whichever comes first.
-/
namespace ImageBot.Decimal

/-- The value of an ASCII digit. -/
def digit? (c : Char) : Option Nat :=
  if '0' ≤ c ∧ c ≤ '9' then some (c.toNat - '0'.toNat) else none

/-- Why a text is not an integer of the wanted range. -/
inductive IntegerFault
  | empty
  | invalidDigit
  | tooLarge
  | tooSmall
  deriving Repr, DecidableEq

/-- The wording of a fault. -/
def IntegerFault.message : IntegerFault → String
  | .empty => "cannot parse integer from empty string"
  | .invalidDigit => "invalid digit found in string"
  | .tooLarge => "number too large to fit in target type"
  | .tooSmall => "number too small to fit in target type"

/-- Reads digits onto a value that may not pass `limit`. -/
def readDigits (limit : Nat) (overflow : IntegerFault) :
    (value : Nat) → List Char → Except IntegerFault Nat
  | value, [] => .ok value
  | value, c :: rest =>
    match digit? c with
    | none => .error .invalidDigit
    | some d =>
      if value * 10 + d ≤ limit then readDigits limit overflow (value * 10 + d) rest
      else .error overflow

/-- A natural number up to `limit`, with an optional plus sign. -/
def readNat (limit : Nat) (s : List Char) : Except IntegerFault Nat :=
  match s with
  | [] => .error .empty
  | '+' :: digits => if digits.isEmpty then .error .invalidDigit else readDigits limit .tooLarge 0 digits
  | digits => readDigits limit .tooLarge 0 digits

/-- An integer of the two's complement range with `bits` bits, with an optional sign. -/
def readInt (bits : Nat) (s : List Char) : Except IntegerFault Int :=
  match s with
  | [] => .error .empty
  | '-' :: digits =>
    if digits.isEmpty then .error .invalidDigit
    else (readDigits (Nat.pow 2 (bits - 1)) .tooSmall 0 digits).map fun n => -(n : Int)
  | '+' :: digits =>
    if digits.isEmpty then .error .invalidDigit
    else (readDigits (Nat.pow 2 (bits - 1) - 1) .tooLarge 0 digits).map fun n => (n : Int)
  | digits => (readDigits (Nat.pow 2 (bits - 1) - 1) .tooLarge 0 digits).map fun n => (n : Int)

end ImageBot.Decimal
