/-!
# What is wrong with a JSON document

A fault has a cause and a byte offset into the document. When it is reported, the
offset becomes a line and a column, both counted from the start of the document: lines
from 1, and columns as the number of bytes of the line before the offset. A mismatch
with the wanted shape of a value may be known before its place is, so such an error can
be without one.
-/
namespace ImageBot.Json

/-- Why a document is refused. -/
inductive Cause
  | endInArray
  | endInObject
  | endInString
  | endInValue
  | expectedColon
  | expectedCommaOrBracket
  | expectedCommaOrBrace
  | expectedIdent
  | expectedValue
  | invalidEscape
  | invalidNumber
  | numberOutOfRange
  | invalidCharacter
  | controlCharacter
  | keyNotString
  | loneSurrogate
  | trailingComma
  | trailingCharacters
  | unfinishedSurrogate
  | tooDeep
  /-- The document is well formed, but not of the wanted shape. -/
  | shape (text : String)
  deriving Repr, DecidableEq

namespace Cause

/-- The wording of a cause. -/
def message : Cause → String
  | endInArray => "EOF while parsing a list"
  | endInObject => "EOF while parsing an object"
  | endInString => "EOF while parsing a string"
  | endInValue => "EOF while parsing a value"
  | expectedColon => "expected `:`"
  | expectedCommaOrBracket => "expected `,` or `]`"
  | expectedCommaOrBrace => "expected `,` or `\x7d`"
  | expectedIdent => "expected ident"
  | expectedValue => "expected value"
  | invalidEscape => "invalid escape"
  | invalidNumber => "invalid number"
  | numberOutOfRange => "number out of range"
  | invalidCharacter => "invalid unicode code point"
  | controlCharacter => "control character (\\u0000-\\u001F) found while parsing a string"
  | keyNotString => "key must be a string"
  | loneSurrogate => "lone leading surrogate in hex escape"
  | trailingComma => "trailing comma"
  | trailingCharacters => "trailing characters"
  | unfinishedSurrogate => "unexpected end of hex escape"
  | tooDeep => "recursion limit exceeded"
  | shape text => text

/-- Whether the document is well formed up to the fault. -/
def isShape : Cause → Bool
  | shape _ => true
  | _ => false

end Cause

/-- A cause and the byte offset at which it was found. -/
structure Fault where
  cause : Cause
  offset : Nat
  deriving Repr, DecidableEq

/-- A place in a document, as a reader counts it. -/
structure Place where
  line : Nat
  column : Nat
  deriving Repr, DecidableEq

/-- The place after reading bytes from a given place on. -/
def Place.after : Place → List UInt8 → Place
  | p, [] => p
  | p, b :: rest => Place.after (if b = 0x0A then ⟨p.line + 1, 0⟩ else ⟨p.line, p.column + 1⟩) rest

/-- The place of a byte offset. -/
def Place.ofOffset (document : List UInt8) (offset : Nat) : Place :=
  Place.after ⟨1, 0⟩ (document.take offset)

/-- A refusal as it is reported. -/
structure Error where
  cause : Cause
  place : Option Place
  deriving Repr, DecidableEq

/-- The text of a refusal. -/
def Error.message (e : Error) : String :=
  match e.place with
  | none => e.cause.message
  | some p => s!"{e.cause.message} at line {p.line} column {p.column}"

end ImageBot.Json
