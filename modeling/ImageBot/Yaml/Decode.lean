import ImageBot.Yaml.Atom
import ImageBot.Yaml.Grammar
/-!
# Decoding into typed values

A `Decoder` turns a node into a value of some type or into a `Problem`. A mismatch is told
with its place and with the keys that lead to it. Where it has no place of its own it gets
the place of the mapping that holds it, and the keys that lead there. An alias is decoded
as what it stands for.

A `Record` is decoded from a mapping in any order of its keys. What is not told keeps its
value in the empty record; unknown keys are passed over, repeated known ones are refused.
-/
namespace ImageBot.Yaml

open Decimal

/-- A step from a mapping to one of its values. A key that is no scalar has no name. -/
inductive Step
  | entry (key : String)
  | nameless
  deriving Repr, DecidableEq

/-- Why a document cannot be decoded. -/
inductive Cause
  | fault (fault : Fault)
  | mismatch (mismatch : Mismatch)
  deriving Repr, DecidableEq

/-- A cause with the place of a mismatch and the steps to it. -/
structure Problem where
  cause : Cause
  place : Option Mark
  path : List Step
  deriving Repr, DecidableEq

namespace Problem

/-- The problem of one who reads a place with a fault. -/
def ofFault (f : Fault) : Problem := ⟨.fault f, none, []⟩

/-- A mismatch that has no place yet. -/
def unplaced (m : Mismatch) : Problem := ⟨.mismatch m, none, []⟩

/-- A mismatch at a place. -/
def mismatch (m : Mismatch) (place : Mark) : Problem := ⟨.mismatch m, some place, []⟩

/-- The problem with a place, if it had none. -/
def placed (p : Problem) (place : Mark) : Problem := { p with place := p.place <|> some place }

/-- The problem of a part as a problem of the whole. A step to something without a place
is not told. -/
def within (p : Problem) (step : Step) : Problem :=
  if p.place.isSome then { p with path := step :: p.path } else p

/-- The steps to a problem in words; nothing for the whole document. -/
def pathText (p : Problem) : Option String :=
  let name : Step → String
    | .entry key => key
    | .nameless => "?"
  if p.path.isEmpty then none else some (String.intercalate "." (p.path.map name))

/-- The text of a problem. -/
def message (p : Problem) : String :=
  match p.cause with
  | .fault f => f.message
  | .mismatch m =>
    (match p.pathText with
      | some path => path ++ ": "
      | none => "") ++ m.message ++
    (match p.place with
      | some mark => if mark.isOrigin then "" else " at " ++ mark.text
      | none => "")

end Problem

/-- Why a text is refused. -/
inductive Error
  | problem (p : Problem)
  | severalDocuments
  deriving Repr, DecidableEq

/-- The text of a refusal. -/
def Error.message : Error → String
  | problem p => p.message
  | severalDocuments => "deserializing from YAML containing more than one document is not supported"

/-- A way to read a node. -/
abbrev Decoder (α : Type) := Anchors → Node → Except Problem α

/-- Where a node is. A broken one is nowhere. -/
def Node.mark : Node → Mark
  | .scalar m _ _ => m
  | .alias m _ => m
  | .sequence m _ _ => m
  | .mapping m _ _ => m
  | .broken _ => .start

/-- The problem of a node where something else was expected. -/
def unexpected (expected : String) : Node → Problem
  | .scalar m _ s => .mismatch (s.mismatch expected) m
  | .sequence m _ _ => .mismatch (.type "sequence" expected) m
  | .mapping m _ _ => .mismatch (.type "map" expected) m
  | .alias m _ => .ofFault ⟨"unknown anchor", m, none⟩
  | .broken f => .ofFault f

namespace Decoder

/-- Reads a scalar of a meaning. -/
def scalar {α : Type} (expected : String) (meaning : Scalar → Option α) : Decoder α :=
  fun anchors node =>
    match node.resolve anchors with
    | .scalar m a s =>
      match meaning s with
      | some value => .ok value
      | none => .error (unexpected expected (.scalar m a s))
    | other => .error (unexpected expected other)

/-- Reads a text. Every scalar is one. -/
def string : Decoder String := scalar "a string" fun s => some s.text

/-- Reads a truth value. -/
def bool : Decoder Bool := scalar "a boolean" Scalar.bool?

/-- Reads a floating-point number. -/
def float : Decoder Binary64 := scalar "f64" Scalar.float?

/-- Reads a natural number below a limit. -/
def natural (title : String) (limit : Nat) : Decoder Nat := fun anchors node =>
  match scalar title Scalar.natural? anchors node with
  | .error p => .error p
  | .ok n =>
    if n < limit then .ok n
    else .error (.mismatch (.value s!"integer `{n}`" title) (node.resolve anchors).mark)

/-- Reads something, unless a plain scalar says that there is nothing. -/
def optional {α : Type} (read : Decoder α) : Decoder (Option α) := fun anchors node =>
  let node := node.resolve anchors
  let something := (read anchors node).map some
  match node with
  | .scalar _ _ s =>
    if s.style != .plain then something
    else match s.tag with
      | none => if s.saysNothing then .ok none else something
      | some tag =>
        if tag ≠ CoreTag.null.text then something
        else if isNull s.text then .ok none
        else .error (.unplaced (.value s.textInWords "null"))
  | _ => something

end Decoder

/-- A field of a record: its name, and how reading it changes the record. -/
structure Field (σ : Type) where
  name : String
  read : Anchors → Node → σ → Except Problem σ

/-- A field that is read by a decoder. -/
def Field.of {σ α : Type} (name : String) (read : Decoder α) (put : α → σ → σ) : Field σ :=
  ⟨name, fun anchors node s => (read anchors node).map (put · s)⟩

/-- A record: what a message calls it, its empty value, and its fields. -/
structure Record (σ : Type) where
  title : String
  empty : σ
  fields : List (Field σ)

namespace Record

variable {σ : Type}

/-- The field of a name. -/
def field? (r : Record σ) (name : String) : Option (Field σ) :=
  r.fields.find? fun f => f.name == name

/-- The name of a key, which must be a scalar. -/
def keyName (anchors : Anchors) (key : Node) : Except Problem String :=
  match key.resolve anchors with
  | .scalar _ _ s => .ok s.text
  | other => .error (unexpected "field identifier" other)

/-- The step to the value of a key. -/
def stepOf : Node → Step
  | .scalar _ _ s => .entry s.text
  | _ => .nameless

/-- Reads entries onto a record; `seen` are the names of the fields read so far. -/
def ofEntries (r : Record σ) (anchors : Anchors) :
    (seen : List String) → σ → Entries → Except Problem σ
  | _, s, .closed => .ok s
  | _, _, .broken f => .error (.ofFault f)
  | seen, s, .entry key value rest =>
    match keyName anchors key with
    | .error p => .error p
    | .ok name =>
      match r.field? name with
      | none =>
        match value.fault? with
        | some f => .error (.ofFault f)
        | none => ofEntries r anchors seen s rest
      | some f =>
        if seen.contains name then .error (.unplaced (.duplicate name))
        else match f.read anchors value s with
          | .error p => .error (p.within (stepOf key))
          | .ok s => ofEntries r anchors (name :: seen) s rest

/-- Reads a record. Nothing at all is an empty mapping. -/
def decode (r : Record σ) : Decoder σ := fun anchors node =>
  match node.resolve anchors with
  | .mapping m _ entries =>
    match r.ofEntries anchors [] r.empty entries with
    | .error p => .error (p.placed m)
    | .ok s => .ok s
  | .scalar m a s =>
    if s.style == .plain && s.text.isEmpty then .ok r.empty
    else .error (unexpected ("struct " ++ r.title) (.scalar m a s))
  | other => .error (unexpected ("struct " ++ r.title) other)

/-- Decodes a text of a single document. An empty text is an empty record. -/
def ofText (r : Record σ) (text : List Char) : Except Error σ :=
  let document := Document.ofText text
  let read : Except Problem σ := match document.root with
    | none => .ok r.empty
    | some root => r.decode (root.anchors []) root
  match read, document.fault with
  | .error p, _ => .error (.problem p)
  | .ok _, some f => .error (.problem (.ofFault f))
  | .ok s, none => if document.more then .error .severalDocuments else .ok s

end Record

end ImageBot.Yaml
