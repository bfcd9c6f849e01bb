import ImageBot.Json.Tree
/-!
# A cursor over a document

A cursor is the rest of a document and the offset at which it starts. A fault found by
taking a byte lies at the cursor; one found by looking at the next byte lies behind that
byte, or at the end of the document.
-/
namespace ImageBot.Json

/-- The rest of a document and its offset. -/
structure Cursor where
  offset : Nat
  rest : List UInt8
  deriving Repr, DecidableEq

/-- A blank between the tokens of a document. -/
def isBlank (b : UInt8) : Bool := b == 0x20 || b == 0x0A || b == 0x09 || b == 0x0D

/-- An ASCII digit. -/
def isDigit (b : UInt8) : Bool := 0x30 ≤ b && b ≤ 0x39

namespace Cursor

/-- A fault found by taking a byte. -/
def here (c : Cursor) (cause : Cause) : Fault := ⟨cause, c.offset⟩

/-- A fault found by looking at the next byte. -/
def ahead (c : Cursor) (cause : Cause) : Fault :=
  ⟨cause, if c.rest.isEmpty then c.offset else c.offset + 1⟩

/-- A flaw that is the same for who reads and who passes over. -/
def flaw (f : Fault) : Flaw := ⟨f, f⟩

/-- Moves over the blanks that start the rest. -/
def skipBlanksFrom (offset : Nat) : List UInt8 → Cursor
  | [] => ⟨offset, []⟩
  | b :: rest => if isBlank b then skipBlanksFrom (offset + 1) rest else ⟨offset, b :: rest⟩

/-- The cursor behind the blanks. -/
def skipBlanks (c : Cursor) : Cursor := skipBlanksFrom c.offset c.rest

/-- The digits that start the rest, and the cursor behind them. -/
def digitsFrom (offset : Nat) : List UInt8 → List Nat × Cursor
  | [] => ([], ⟨offset, []⟩)
  | b :: rest =>
    if isDigit b then
      let (ds, c) := digitsFrom (offset + 1) rest
      ((b.toNat - 48) :: ds, c)
    else ([], ⟨offset, b :: rest⟩)

/-- The digits at the cursor, and the cursor behind them. -/
def digits (c : Cursor) : List Nat × Cursor := digitsFrom c.offset c.rest

/-- Moves over the rest of a word. -/
def word (offset : Nat) : (letters : List UInt8) → List UInt8 → Except Flaw Cursor
  | [], rest => .ok ⟨offset, rest⟩
  | _ :: _, [] => .error (flaw ⟨.endInValue, offset⟩)
  | a :: letters, b :: rest =>
    if a = b then word (offset + 1) letters rest else .error (flaw ⟨.expectedIdent, offset + 1⟩)

end Cursor

end ImageBot.Json
