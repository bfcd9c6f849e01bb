import ImageBot.Decimal.Notation
import ImageBot.Json.Parser
import ImageBot.Text.Shown
/-!
# Decoding into typed values

A `Decoder` turns a node into a value of some type or into a `Problem`. It reads as far
as it needs to: what it passes over may be unfit for reading, and what comes first in the
document is told first. Its first argument is how many containers may still be opened.

A `Record` is decoded from an object, in any order of members, or from an array of its
fields in their order. Unknown members are passed over, and repeated known ones are
refused. A problem that has no place of its own gets the place where the container that
holds it is left.
-/
namespace ImageBot.Json

open Decimal

/-- A step from a value to a part of it. -/
inductive Step
  | member (name : String)
  | item (index : Nat)
  deriving Repr, DecidableEq

/-- Why a value is not of the wanted shape, where in the document that showed, and to
which part of the value it applies. -/
structure Problem where
  cause : Cause
  offset : Option Nat
  path : List Step
  deriving Repr, DecidableEq

namespace Problem

/-- The problem of one who reads a place with a fault. -/
def ofFault (f : Fault) : Problem := ⟨f.cause, some f.offset, []⟩

/-- A mismatch of shapes at a place. -/
def mismatch (text : String) (offset : Nat) : Problem := ⟨.shape text, some offset, []⟩

/-- The problem with a place, if it had none. -/
def placed (p : Problem) (offset : Nat) : Problem := { p with offset := p.offset <|> some offset }

/-- The problem of a part as a problem of the whole. -/
def within (p : Problem) (step : Step) : Problem := { p with path := step :: p.path }

/-- The problem as it is reported for a document. -/
def error (p : Problem) (document : List UInt8) : Error :=
  ⟨p.cause, p.offset.map (Place.ofOffset document)⟩

/-- The path of a problem in words; nothing for the whole value. -/
def pathText (p : Problem) : Option String :=
  let step (before : String) : Step → String
    | .member name => if before.isEmpty then name else before ++ "." ++ name
    | .item index => before ++ "[" ++ toString index ++ "]"
  if p.path.isEmpty then none else some (p.path.foldl step "")

end Problem

/-- A way to read a node. -/
abbrev Decoder (α : Type) := (depth : Nat) → Node → Except Problem α

/-- What was read, with its fault as a problem. -/
def Reading.get {α : Type} : Reading α → Except Problem α
  | .ok a => .ok a
  | .error f => .error (.ofFault f)

/-- The fault of what was read, or else one that comes later. -/
def Reading.faultOr {α : Type} (later : Fault) : Reading α → Fault
  | .ok _ => later
  | .error f => f

/-- A number as a mismatch names it. -/
def Number.describe : Number → String
  | .int n => s!"integer `{n}`"
  | .float x => s!"floating point `{Style.json.write x}`"

/-- The depth left inside a container. The outermost 127 containers can be read. -/
def enter (depth start : Nat) : Except Problem Nat :=
  if depth ≤ 1 then .error ⟨.tooDeep, some (start + 1), []⟩ else .ok (depth - 1)

/-- The mismatch of a node with what was expected. -/
def unexpected (expected : String) : Node → Problem
  | .null stop => .mismatch s!"invalid type: null, expected {expected}" stop
  | .bool b stop => .mismatch s!"invalid type: boolean `{b}`, expected {expected}" stop
  | .number (.ok n) stop => .mismatch s!"invalid type: {n.describe}, expected {expected}" stop
  | .number (.error f) _ => .ofFault f
  | .string (.ok s) stop => .mismatch s!"invalid type: string {Text.shown s}, expected {expected}" stop
  | .string (.error f) _ => .ofFault f
  | .array start _ => .mismatch s!"invalid type: sequence, expected {expected}" start
  | .object start _ => .mismatch s!"invalid type: map, expected {expected}" start
  | .broken f => .ofFault f.reading

namespace Decoder

/-- Reads a string. -/
def string : Decoder String := fun _ node =>
  match node with
  | .string s _ => s.get
  | other => .error (unexpected "a string" other)

/-- Reads a number as binary64. -/
def float : Decoder Binary64 := fun _ node =>
  match node with
  | .number n _ => n.get.map fun
    | .int n => .nearest (n < 0) n.natAbs 1
    | .float x => x
  | other => .error (unexpected "f64" other)

/-- Reads an integer between bounds. -/
def integer (title : String) (least greatest : Int) : Decoder Int := fun _ node =>
  match node with
  | .number (.ok (.int n)) stop =>
    if least ≤ n ∧ n ≤ greatest then .ok n
    else .error (.mismatch s!"invalid value: integer `{n}`, expected {title}" stop)
  | other => .error (unexpected title other)

/-- Reads a signed integer of 64 bits. -/
def int64 : Decoder Int := integer "i64" (-(2 ^ 63)) (2 ^ 63 - 1)

/-- Reads a natural number of 32 bits. -/
def nat32 : Decoder Nat := fun depth node =>
  (integer "u32" 0 (2 ^ 32 - 1) depth node).map Int.toNat

/-- Reads something or `null`. -/
def optional {α : Type} (read : Decoder α) : Decoder (Option α) := fun depth node =>
  match node with
  | .null _ => .ok none
  | other => (read depth other).map some

/-- Reads something, and takes `null` for a given value. -/
def orElse {α : Type} (default : α) (read : Decoder α) : Decoder α := fun depth node =>
  (optional read depth node).map fun a => a.getD default

/-- Reads the items of an array. -/
def items {α : Type} (read : Decoder α) (depth : Nat) : (index : Nat) → Items → Except Problem (List α)
  | _, .closed _ => .ok []
  | _, .broken f => .error (.ofFault f.reading)
  | index, .item v leave rest =>
    match read depth v with
    | .error p => .error ((p.placed leave.offset).within (.item index))
    | .ok a => (items read depth (index + 1) rest).map (a :: ·)

/-- Reads an array of like items. -/
def list {α : Type} (read : Decoder α) : Decoder (List α) := fun depth node =>
  match node with
  | .array start xs => do items read (← enter depth start) 0 xs
  | other => .error (unexpected "a sequence" other)

end Decoder

mutual
/-- Reads any value. -/
def Node.toValue (depth : Nat) : Node → Except Problem Value
  | .null _ => .ok .null
  | .bool b _ => .ok (.bool b)
  | .number n _ => n.get.map .number
  | .string s _ => s.get.map .string
  | .array start items =>
    match enter depth start with
    | .error p => .error p
    | .ok inner => (items.toValues inner).map .array
  | .object start members =>
    match enter depth start with
    | .error p => .error p
    | .ok inner => (members.toValues inner).map .object
  | .broken f => .error (.ofFault f.reading)
/-- Reads any items. -/
def Items.toValues (depth : Nat) : Items → Except Problem (List Value)
  | .closed _ => .ok []
  | .broken f => .error (.ofFault f.reading)
  | .item v _ rest =>
    match v.toValue depth with
    | .error p => .error p
    | .ok a => (rest.toValues depth).map (a :: ·)
/-- Reads any members. -/
def Members.toValues (depth : Nat) : Members → Except Problem (List (String × Value))
  | .closed _ => .ok []
  | .broken f => .error (.ofFault f.reading)
  | .keyOnly key _ f => .error (.ofFault (key.faultOr f.reading))
  | .member key _ v _ rest =>
    match key with
    | .error f => .error (.ofFault f)
    | .ok name =>
      match v.toValue depth with
      | .error p => .error p
      | .ok a => (rest.toValues depth).map ((name, a) :: ·)
end

/-- A field of a record: its name, how reading it changes the record, and whether an
object or an array of fields must have it. -/
structure Field (σ : Type) where
  name : String
  read : (depth : Nat) → Node → σ → Except Problem σ
  inObject : Bool
  inArray : Bool

/-- A field that keeps the value of the empty record when it is absent or `null`. -/
def Field.defaulted {σ α : Type} (name : String) (default : α) (read : Decoder α)
    (put : α → σ → σ) : Field σ :=
  ⟨name, fun depth node s => (Decoder.orElse default read depth node).map (put · s), false, false⟩

/-- A field that must be there. -/
def Field.required {σ α : Type} (name : String) (read : Decoder α) (put : α → σ → σ) : Field σ :=
  ⟨name, fun depth node s => (read depth node).map (put · s), true, true⟩

/-- A record: what a message calls it, its empty value, and its fields in order. -/
structure Record (σ : Type) where
  title : String
  empty : σ
  fields : List (Field σ)

namespace Record

variable {σ : Type}

/-- The field of a name. -/
def field? (r : Record σ) (name : String) : Option (Field σ) :=
  r.fields.find? fun f => f.name == name

/-- Reads members onto a record; `seen` are the names of the fields read so far. -/
def ofMembers (r : Record σ) (depth : Nat) : (seen : List String) → σ → Members → Except Problem σ
  | seen, s, .closed stop =>
    match r.fields.find? fun f => f.inObject && !seen.contains f.name with
    | some f => .error (.mismatch s!"missing field `{f.name}`" stop)
    | none => .ok s
  | _, _, .broken f => .error (.ofFault f.reading)
  | seen, _, .keyOnly key mark f =>
    match key with
    | .error f => .error (.ofFault f)
    | .ok name =>
      if seen.contains name then .error (.mismatch s!"duplicate field `{name}`" mark)
      else .error (.ofFault f.reading)
  | seen, s, .member key mark v leave rest =>
    match key with
    | .error f => .error (.ofFault f)
    | .ok name =>
      match r.field? name with
      | none =>
        match v.flaw? with
        | some f => .error ((Problem.ofFault f.skipping).within (.member name))
        | none => ofMembers r depth seen s rest
      | some f =>
        if seen.contains name then .error (.mismatch s!"duplicate field `{name}`" mark)
        else match f.read depth v s with
          | .error p => .error ((p.placed leave).within (.member name))
          | .ok s => ofMembers r depth (name :: seen) s rest

/-- Reads items onto a record, one for each field that is left; `index` counts the items
read. The fault is that of leaving the array behind the last item read. -/
def ofItems (r : Record σ) (depth : Nat) :
    (index : Nat) → (left : List (Field σ)) → (fault : Option Fault) → σ → Items → Except Problem σ
  | _, [], some f, _, _ => .error (.ofFault f)
  | _, [], none, s, _ => .ok s
  | index, f :: left, _, s, .closed stop =>
    match (f :: left).findIdx? (·.inArray) with
    | some k =>
      .error (.mismatch s!"invalid length {index + k}, expected {r.title} with {elements r.fields.length}" stop)
    | none => .ok s
  | _, _ :: _, _, _, .broken f => .error (.ofFault f.reading)
  | index, f :: left, _, s, .item v leave rest =>
    match f.read depth v s with
    | .error p => .error ((p.placed leave.offset).within (.item index))
    | .ok s => ofItems r depth (index + 1) left leave.fault s rest

/-- Reads a record. -/
def decode (r : Record σ) : Decoder σ := fun depth node =>
  match node with
  | .object start members => do r.ofMembers (← enter depth start) [] r.empty members
  | .array start items => do r.ofItems (← enter depth start) 0 r.fields none r.empty items
  | other => .error (unexpected r.title other)

/-- Reads a record from a value that stands in no document. -/
def ofValue (r : Record σ) (v : Value) : Except Problem σ :=
  match r.decode 128 (Node.ofValue v) with
  | .error p => .error { p with offset := none }
  | .ok s => .ok s

end Record

/-- Decodes the value a document starts with, whatever follows it. -/
def decodeFirst {α : Type} (read : Decoder α) (document : List UInt8) : Except Problem α :=
  read 128 (Document.parse document).root

/-- Decodes a document that holds one value and nothing else. -/
def decode {α : Type} (read : Decoder α) (document : List UInt8) : Except Error α :=
  let parsed := Document.parse document
  match read 128 parsed.root with
  | .error p => .error (p.error document)
  | .ok a =>
    match parsed.trailing with
    | some f => .error ((Problem.ofFault f).error document)
    | none => .ok a

end ImageBot.Json
