import ImageBot.Url.Basic
/-!
# Form encoding of queries

A query of name and value pairs is written as `name=value` texts with `&` between them.
Letters, digits and `*-._` stand for themselves, a space is a plus sign, and every other
byte is percent-encoded.
-/
namespace ImageBot

namespace Url

open Text

namespace Form

/-- Whether a byte stands for itself. -/
def isPlain (b : UInt8) : Bool :=
  (0x30 ≤ b && b ≤ 0x39) || (0x41 ≤ b && b ≤ 0x5A) || (0x61 ≤ b && b ≤ 0x7A) ||
    b == 0x2A || b == 0x2D || b == 0x2E || b == 0x5F

/-- A byte in form encoding. -/
def encodeByte (b : UInt8) : List Char :=
  if isPlain b then [Char.ofNat b.toNat] else if b == 0x20 then ['+'] else escapeByte b

/-- A text in form encoding. -/
def encodeText (s : String) : List Char := (Utf8.bytes s).flatMap encodeByte

/-- A pair in form encoding. -/
def encodePair (p : String × String) : List Char := encodeText p.1 ++ '=' :: encodeText p.2

/-- Pairs behind a query that is there already. -/
def append (query : List Char) : List (String × String) → List Char
  | [] => query
  | p :: rest =>
    append (if query.isEmpty then encodePair p else query ++ '&' :: encodePair p) rest

end Form

/-- The URL with pairs added to its query. No pairs leave it as it is. -/
def withPairs (u : Url) (pairs : List (String × String)) : Url :=
  if pairs.isEmpty then u
  else { u with query := some (String.ofList (Form.append (u.query.getD "").toList pairs)) }

end Url

end ImageBot
