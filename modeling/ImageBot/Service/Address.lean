import ImageBot.Decimal.Integer
import ImageBot.Text.Hex
/-!
# Addresses to listen on

An address is four octets in decimal, or eight groups of 16 bits in hexadecimal of which
one run of zeros may be left out and the last two may be written as octets. Nothing else
may stand around it, and an octet has no leading zero.
-/
namespace ImageBot.Service

open Decimal Text

/-- An address of a network interface. -/
inductive IpAddress
  | v4 (octets : List Nat)
  | v6 (groups : List Nat)
  deriving Repr, DecidableEq

namespace IpAddress

/-- What was read at the start of a text, and the rest of the text. -/
abbrev Reader (α : Type) := List Char → Option (α × List Char)

/-- The value of a hexadecimal digit. -/
def hexDigit? (c : Char) : Option Nat :=
  if c.toNat < 0x80 then hexValue? c.toNat.toUInt8 else none

/-- Reads an octet. -/
def octet : Reader Nat := fun s =>
  let digits := s.takeWhile fun c => (digit? c).isSome
  let n := digits.foldl (fun n c => n * 10 + (digit? c).getD 0) 0
  if digits.isEmpty || 3 < digits.length || 255 < n then none
  else if digits.head? = some '0' ∧ 1 < digits.length then none
  else some (n, s.drop digits.length)

/-- Reads a given character. -/
def sign (c : Char) : Reader Unit
  | a :: rest => if a = c then some ((), rest) else none
  | [] => none

/-- Reads octets with points in front of them. -/
def pointedOctets : (n : Nat) → Reader (List Nat)
  | 0, s => some ([], s)
  | n + 1, s => do
    let (_, s) ← sign '.' s
    let (o, s) ← octet s
    let (os, s) ← pointedOctets n s
    return (o :: os, s)

/-- Reads four octets. -/
def octets : Reader (List Nat) := fun s => do
  let (o, s) ← octet s
  let (os, s) ← pointedOctets 3 s
  return (o :: os, s)

/-- Reads a group. -/
def group : Reader Nat := fun s =>
  let digits := s.takeWhile fun c => (hexDigit? c).isSome
  if digits.isEmpty || 4 < digits.length then none
  else some (digits.foldl (fun n c => n * 16 + (hexDigit? c).getD 0) 0, s.drop digits.length)

/-- The groups of octets. -/
def groupsOfOctets : List Nat → List Nat
  | a :: b :: rest => (a * 256 + b) :: groupsOfOctets rest
  | _ => []

/-- Reads up to `n` groups with colons between them, and tells whether they end in octets.
What does not fit is left. -/
def groups : (n : Nat) → (first : Bool) → List Char → List Nat × Bool × List Char
  | 0, _, s => ([], false, s)
  | n + 1, first, s =>
    let start := if first then some s else (sign ':' s).map (·.2)
    match if 0 < n then start.bind octets else none with
    | some (os, rest) => (groupsOfOctets os, true, rest)
    | none =>
      match start.bind group with
      | none => ([], false, s)
      | some (g, rest) =>
        let (gs, ended, rest) := groups n false rest
        (g :: gs, ended, rest)

/-- Reads eight groups. -/
def eightGroups : Reader (List Nat) := fun s =>
  let (head, ended, rest) := groups 8 true s
  if head.length = 8 then some (head, rest)
  else if ended then none
  else match rest with
    | ':' :: ':' :: rest =>
      let (tail, _, rest) := groups (7 - head.length) true rest
      some (head ++ List.replicate (8 - head.length - tail.length) 0 ++ tail, rest)
    | _ => none

/-- The address of a text. -/
def ofText? (text : String) : Option IpAddress :=
  match octets text.toList with
  | some (os, rest) => if rest.isEmpty then some (v4 os) else none
  | none =>
    match eightGroups text.toList with
    | some (gs, []) => some (v6 gs)
    | _ => none

end IpAddress

end ImageBot.Service
