import ImageBot.Decimal.Binary64
/-!
# Lengths of time

A duration is a whole number of nanoseconds. A number of seconds in floating point is
rounded to the nearest nanosecond, a tie going to the even one; negative numbers,
not-a-number and everything from `2 ^ 64` seconds on have no duration.
-/
namespace ImageBot

open Decimal

/-- A length of time in nanoseconds. -/
structure Duration where
  nanos : Nat
  deriving Repr, DecidableEq

namespace Duration

/-- Whole seconds. -/
def seconds (n : Nat) : Duration := ⟨n * 1000000000⟩

/-- The whole seconds of a duration. -/
def secs (d : Duration) : Nat := d.nanos / 1000000000

/-- The nanoseconds beyond the whole seconds. -/
def subsecond (d : Duration) : Nat := d.nanos % 1000000000

/-- The duration of a number of seconds. -/
def ofSeconds? (x : Binary64) : Option Duration :=
  match x.value with
  | .nan => none
  | .infinite _ => none
  | .finite negative m q =>
    if negative ∧ m ≠ 0 then none
    else if 2 ^ 64 ≤ Binary64.floor m q then none
    else
      let (num, den) := Binary64.scaled m q 1000000000
      some ⟨Binary64.roundDiv num den⟩

/-- The usable timeout nearest to a setting: its own duration up to `most`, and
`otherwise` where the setting has no duration or an empty one. -/
def bounded (setting : Binary64) (otherwise most : Duration) : Duration :=
  match ofSeconds? setting with
  | none => otherwise
  | some d => if d.nanos = 0 then otherwise else if d.nanos ≤ most.nanos then d else most

/-- The digits of `part`, a number of units of which `10 ^ places` make a whole, without
zeros at the end. -/
def fraction (part places : Nat) : String :=
  let digits := toString part
  let padded := List.replicate (places - digits.length) '0' ++ digits.toList
  let kept := (padded.reverse.dropWhile (· == '0')).reverse
  if kept.isEmpty then "" else "." ++ String.ofList kept

/-- The text of a duration in the largest unit that leaves a whole part. -/
def text (d : Duration) : String :=
  if 0 < d.secs then toString d.secs ++ fraction d.subsecond 9 ++ "s"
  else if 1000000 ≤ d.nanos then
    toString (d.nanos / 1000000) ++ fraction (d.nanos % 1000000) 6 ++ "ms"
  else if 1000 ≤ d.nanos then
    toString (d.nanos / 1000) ++ fraction (d.nanos % 1000) 3 ++ "µs"
  else toString d.nanos ++ "ns"

end Duration

end ImageBot
