import ImageBot.Json.Fault
import ImageBot.Json.Value
/-!
# A document as a located tree

A `Node` is a document, or a part of one, with the offsets that errors about it refer
to. Reading a value and passing over it are two different things: passing over checks
less (a number may be out of range, a string may hold half a surrogate pair), and
sometimes names another cause. So a leaf that is only fit to be passed over holds the
fault of reading it, and where the document breaks off a `Flaw` holds the faults of both.

When a decoder turns a container down for a reason that has no place of its own, the
place is where the container would be left: each element, key and end has that offset.
-/
namespace ImageBot.Json

/-- What was read, or why it cannot be. -/
abbrev Reading (α : Type) := Except Fault α

/-- The end of a document that breaks off: the fault of one who reads the value there,
and of one who passes over it. -/
structure Flaw where
  reading : Fault
  skipping : Fault
  deriving Repr, DecidableEq

/-- What it is to leave an array after one of its items: the offset reached, and a
fault unless the closing bracket was there. -/
structure Leave where
  offset : Nat
  fault : Option Fault
  deriving Repr, DecidableEq

mutual
/-- A value. `stop` is the offset after it, `start` that of its bracket. -/
inductive Node
  | null (stop : Nat)
  | bool (b : Bool) (stop : Nat)
  | number (n : Reading Number) (stop : Nat)
  | string (s : Reading String) (stop : Nat)
  | array (start : Nat) (items : Items)
  | object (start : Nat) (members : Members)
  | broken (flaw : Flaw)
/-- The items of an array up to its end, which is the bracket or a flaw. -/
inductive Items
  | closed (stop : Nat)
  | broken (flaw : Flaw)
  | item (value : Node) (leave : Leave) (rest : Items)
/-- The members of an object up to its end. `mark` is where the object is left after
the key alone, `leave` where it is left after the member. The document may break off
between a key and its colon. -/
inductive Members
  | closed (stop : Nat)
  | broken (flaw : Flaw)
  | keyOnly (key : Reading String) (mark : Nat) (flaw : Flaw)
  | member (key : Reading String) (mark : Nat) (value : Node) (leave : Nat) (rest : Members)
end

/-- The flaw that ends an array, if the bracket does not. -/
def Items.flaw? : Items → Option Flaw
  | .closed _ => none
  | .broken f => some f
  | .item _ _ rest => rest.flaw?

/-- The flaw that ends an object, if the brace does not. -/
def Members.flaw? : Members → Option Flaw
  | .closed _ => none
  | .broken f => some f
  | .keyOnly _ _ f => some f
  | .member _ _ _ _ rest => rest.flaw?

/-- The flaw that a value runs into. A flaw of an element is also that of its container. -/
def Node.flaw? : Node → Option Flaw
  | .array _ items => items.flaw?
  | .object _ members => members.flaw?
  | .broken f => some f
  | _ => none

/-- How many elements in words. -/
def elements (n : Nat) : String := if n = 1 then "1 element" else s!"{n} elements"

mutual
/-- A value as a tree without places. An array of which the end is not read is refused
for its length. -/
def Node.ofValue : Value → Node
  | .null => .null 0
  | .bool b => .bool b 0
  | .number n => .number (.ok n) 0
  | .string s => .string (.ok s) 0
  | .array items => .array 0 (Items.ofValues items.length 1 items)
  | .object members => .object 0 (Members.ofValues members)
/-- The items of an array of a given length, numbered. -/
def Items.ofValues (length : Nat) : (number : Nat) → List Value → Items
  | _, [] => .closed 0
  | number, v :: rest =>
    let fault : Fault := ⟨.shape s!"invalid length {length}, expected {elements number} in sequence", 0⟩
    .item (Node.ofValue v) ⟨0, if rest.isEmpty then none else some fault⟩
      (Items.ofValues length (number + 1) rest)
/-- The members of an object. -/
def Members.ofValues : List (String × Value) → Members
  | [] => .closed 0
  | (name, v) :: rest => .member (.ok name) 0 (Node.ofValue v) 0 (Members.ofValues rest)
end

end ImageBot.Json
