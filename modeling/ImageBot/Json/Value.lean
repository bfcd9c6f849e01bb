import ImageBot.Decimal.Binary64
/-!
# JSON values

An object keeps its members in order, and a name may occur more than once. Integers
are kept exact from `-2 ^ 63` to `2 ^ 64 - 1`; every other number is a binary64 number.
-/
namespace ImageBot.Json

open Decimal

/-- A JSON number. -/
inductive Number
  | int (n : Int)
  | float (x : Binary64)
  deriving Repr, DecidableEq

/-- A JSON value. -/
inductive Value
  | null
  | bool (b : Bool)
  | number (n : Number)
  | string (s : String)
  | array (items : List Value)
  | object (members : List (String × Value))
  deriving Repr, Inhabited

namespace Value

/-- Puts a member where its name belongs in a list in increasing order of names. A name
that is there already gets the new value. -/
def insertMember {α : Type} (name : String) (a : α) : List (String × α) → List (String × α)
  | [] => [(name, a)]
  | (other, b) :: rest =>
    if name < other then (name, a) :: (other, b) :: rest
    else if name = other then (name, a) :: rest
    else (other, b) :: insertMember name a rest

/-- Members in increasing order of names; of equal names the last one counts. -/
def sortMembers {α : Type} (members : List (String × α)) : List (String × α) :=
  members.foldl (fun sorted m => insertMember m.1 m.2 sorted) []

mutual
/-- The value with the members of every object in increasing order of names. -/
def sorted : Value → Value
  | .array items => .array (sortedItems items)
  | .object members => .object (sortMembers (sortedMembers members))
  | v => v
/-- The items of an array, each with sorted objects. -/
def sortedItems : List Value → List Value
  | [] => []
  | v :: rest => sorted v :: sortedItems rest
/-- The members of an object, each with sorted objects inside. -/
def sortedMembers : List (String × Value) → List (String × Value)
  | [] => []
  | (name, v) :: rest => (name, sorted v) :: sortedMembers rest
end

end Value

end ImageBot.Json
