import ImageBot.Json.Number
import ImageBot.Json.Str
/-!
# Reading a document

The parser makes a located tree of any bytes. It does not stop at what only a reader of
the place would refuse; it stops where the document cannot be passed over any more, and
the tree ends in that flaw. `fuel` bounds the number of values, items and members begun,
and the length of the document is always enough of it.
-/
namespace ImageBot.Json

/-- How an array is left behind an item. -/
def leaveArray (c : Cursor) : Leave :=
  let c := c.skipBlanks
  match c.rest with
  | [] => ⟨c.offset, some (c.ahead .endInArray)⟩
  | 0x5D :: _ => ⟨c.offset + 1, none⟩
  | 0x2C :: rest =>
    let next := Cursor.skipBlanks ⟨c.offset + 1, rest⟩
    match next.rest with
    | 0x5D :: _ => ⟨next.offset, some (next.ahead .trailingComma)⟩
    | _ => ⟨next.offset, some (next.ahead .trailingCharacters)⟩
  | _ => ⟨c.offset, some (c.ahead .trailingCharacters)⟩

/-- The offset at which an object is left behind a key or a member. -/
def leaveObject (c : Cursor) : Nat :=
  let c := c.skipBlanks
  match c.rest with
  | 0x7D :: _ => c.offset + 1
  | _ => c.offset

/-- The leaf that a scan gives. -/
def leaf {α : Type} (make : Reading α → Nat → Node) :
    Except Flaw (Reading α × Cursor) → Node × Except Flaw Cursor
  | .ok (a, after) => (make a after.offset, .ok after)
  | .error f => (.broken f, .error f)

/-- The leaf of a word of which the first letter is read. -/
def wordLeaf (make : Nat → Node) (offset : Nat) (letters rest : List UInt8) :
    Node × Except Flaw Cursor :=
  match Cursor.word offset letters rest with
  | .ok after => (make after.offset, .ok after)
  | .error f => (.broken f, .error f)

/-- A tree that ends at once. -/
def brokenNode (f : Flaw) : Node × Except Flaw Cursor := (.broken f, .error f)
/-- An array that ends at once. -/
def brokenItems (f : Flaw) : Items × Except Flaw Cursor := (.broken f, .error f)
/-- An object that ends at once. -/
def brokenMembers (f : Flaw) : Members × Except Flaw Cursor := (.broken f, .error f)

mutual
/-- The value at a cursor, and the cursor behind it unless the document breaks off. -/
def parseNode : (fuel : Nat) → Cursor → Node × Except Flaw Cursor
  | 0, c => brokenNode (Cursor.flaw (c.ahead .endInValue))
  | fuel + 1, c =>
    let c := c.skipBlanks
    match c.rest with
    | [] => brokenNode (Cursor.flaw (c.ahead .endInValue))
    | b :: rest =>
      if b = 0x6E then wordLeaf .null (c.offset + 1) [0x75, 0x6C, 0x6C] rest
      else if b = 0x74 then wordLeaf (.bool true) (c.offset + 1) [0x72, 0x75, 0x65] rest
      else if b = 0x66 then wordLeaf (.bool false) (c.offset + 1) [0x61, 0x6C, 0x73, 0x65] rest
      else if b = 0x2D ∨ isDigit b then leaf .number (Number.scan c)
      else if b = 0x22 then leaf .string (Str.scan ⟨c.offset + 1, rest⟩)
      else if b = 0x5B then
        let (items, after) := parseItems fuel true ⟨c.offset + 1, rest⟩
        (.array c.offset items, after)
      else if b = 0x7B then
        let (members, after) := parseMembers fuel true ⟨c.offset + 1, rest⟩
        (.object c.offset members, after)
      else brokenNode (Cursor.flaw (c.ahead .expectedValue))
/-- The items of an array from a cursor behind its bracket or behind an item. -/
def parseItems : (fuel : Nat) → (first : Bool) → Cursor → Items × Except Flaw Cursor
  | 0, _, c => brokenItems (Cursor.flaw (c.ahead .endInArray))
  | fuel + 1, first, c =>
    let c := c.skipBlanks
    match c.rest with
    | [] => brokenItems (Cursor.flaw (c.ahead .endInArray))
    | 0x5D :: rest => (.closed (c.offset + 1), .ok ⟨c.offset + 1, rest⟩)
    | b :: rest =>
      if first then parseItem fuel c
      else if b = 0x2C then
        let next := Cursor.skipBlanks ⟨c.offset + 1, rest⟩
        match next.rest with
        | [] => brokenItems (Cursor.flaw (next.ahead .endInValue))
        | 0x5D :: _ => brokenItems ⟨next.ahead .trailingComma, next.ahead .expectedValue⟩
        | _ => parseItem fuel next
      else brokenItems (Cursor.flaw (c.ahead .expectedCommaOrBracket))
/-- An item at a cursor, and those behind it. -/
def parseItem : (fuel : Nat) → Cursor → Items × Except Flaw Cursor
  | 0, c => brokenItems (Cursor.flaw (c.ahead .endInArray))
  | fuel + 1, c =>
    match parseNode fuel c with
    | (v, .error f) => (.item v ⟨f.reading.offset, none⟩ (.broken f), .error f)
    | (v, .ok after) =>
      let (rest, last) := parseItems fuel false after
      (.item v (leaveArray after) rest, last)
/-- The members of an object from a cursor behind its brace or behind a member. -/
def parseMembers : (fuel : Nat) → (first : Bool) → Cursor → Members × Except Flaw Cursor
  | 0, _, c => brokenMembers (Cursor.flaw (c.ahead .endInObject))
  | fuel + 1, first, c =>
    let c := c.skipBlanks
    match c.rest with
    | [] => brokenMembers (Cursor.flaw (c.ahead .endInObject))
    | 0x7D :: rest => (.closed (c.offset + 1), .ok ⟨c.offset + 1, rest⟩)
    | b :: rest =>
      if first then
        if b = 0x22 then parseMember fuel ⟨c.offset + 1, rest⟩
        else brokenMembers (Cursor.flaw (c.ahead .keyNotString))
      else if b = 0x2C then
        let next := Cursor.skipBlanks ⟨c.offset + 1, rest⟩
        match next.rest with
        | [] => brokenMembers ⟨next.ahead .endInValue, next.ahead .endInObject⟩
        | 0x7D :: _ => brokenMembers ⟨next.ahead .trailingComma, next.ahead .keyNotString⟩
        | 0x22 :: more => parseMember fuel ⟨next.offset + 1, more⟩
        | _ => brokenMembers (Cursor.flaw (next.ahead .keyNotString))
      else brokenMembers (Cursor.flaw (c.ahead .expectedCommaOrBrace))
/-- A member from a cursor behind the opening quotation mark of its key, and those behind it. -/
def parseMember : (fuel : Nat) → Cursor → Members × Except Flaw Cursor
  | 0, c => brokenMembers (Cursor.flaw (c.ahead .endInObject))
  | fuel + 1, c =>
    match Str.scan c with
    | .error f => brokenMembers f
    | .ok (key, after) =>
      let mark := leaveObject after
      let colon := after.skipBlanks
      match colon.rest with
      | [] =>
        let f := Cursor.flaw (colon.ahead .endInObject)
        (.keyOnly key mark f, .error f)
      | 0x3A :: rest =>
        match parseNode fuel ⟨colon.offset + 1, rest⟩ with
        | (v, .error f) => (.member key mark v f.reading.offset (.broken f), .error f)
        | (v, .ok after) =>
          let (members, last) := parseMembers fuel false after
          (.member key mark v (leaveObject after) members, last)
      | _ =>
        let f := Cursor.flaw (colon.ahead .expectedColon)
        (.keyOnly key mark f, .error f)
end

/-- A document: its bytes, its tree, and what is wrong behind its value. -/
structure Document where
  bytes : List UInt8
  root : Node
  trailing : Option Fault

/-- Reads a document. -/
def Document.parse (bytes : List UInt8) : Document :=
  match parseNode (3 * bytes.length + 1) ⟨0, bytes⟩ with
  | (root, .error _) => ⟨bytes, root, none⟩
  | (root, .ok after) =>
    let c := after.skipBlanks
    ⟨bytes, root, if c.rest.isEmpty then none else some (c.ahead .trailingCharacters)⟩

end ImageBot.Json
