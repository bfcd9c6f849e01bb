import ImageBot.Text.Hex
import ImageBot.Text.Utf8
/-!
# Percent-encoding

A character that may not stand for itself is written as its UTF-8 bytes, each as `%` and
two hexadecimal digits. Which ASCII characters those are depends on the part of the URL;
control characters and everything beyond ASCII always are.
-/
namespace ImageBot.Url

open Text

/-- A set of ASCII characters, by code. -/
abbrev CharSet := Nat → Bool

/-- Control characters. -/
def controlSet : CharSet := fun n => n < 0x20 || n == 0x7F

/-- Adds the characters of a text to a set. -/
def CharSet.with (set : CharSet) (more : String) : CharSet :=
  fun n => set n || more.toList.any fun c => c.toNat == n

/-- What is encoded in a fragment. -/
def fragmentSet : CharSet := controlSet.with " \"<>`"

/-- What is encoded in a path. -/
def pathSet : CharSet := fragmentSet.with "#?\x7b\x7d"

/-- What is encoded in a path segment that is given as plain text. -/
def segmentSet : CharSet := pathSet.with "/%"

/-- What is encoded in such a segment of a URL in which the backslash separates, too. -/
def specialSegmentSet : CharSet := segmentSet.with "\\"

/-- What is encoded in a user name or password. -/
def userinfoSet : CharSet := pathSet.with "/:;=@[\\]^|"

/-- What is encoded in a query. -/
def querySet : CharSet := controlSet.with " \"#<>"

/-- What is encoded in a query of a URL with a special scheme. -/
def specialQuerySet : CharSet := querySet.with "'"

/-- A byte as `%` and two digits. -/
def escapeByte (b : UInt8) : List Char := ['%', hexUpper (b.toNat / 16), hexUpper (b.toNat % 16)]

/-- A character, encoded if it is in a set or beyond ASCII. -/
def encodeChar (set : CharSet) (c : Char) : List Char :=
  if c.toNat < 0x80 && !set c.toNat then [c] else (Utf8.encodeChar c).flatMap escapeByte

/-- A text with the characters of a set encoded. -/
def encode (set : CharSet) (s : List Char) : List Char := s.flatMap (encodeChar set)

/-- The bytes that an encoded text stands for. A `%` without two digits stands for itself. -/
def decodeBytes : List UInt8 → List UInt8
  | 0x25 :: a :: b :: rest =>
    match hexValue? a, hexValue? b with
    | some x, some y => (x * 16 + y).toUInt8 :: decodeBytes rest
    | _, _ => 0x25 :: decodeBytes (a :: b :: rest)
  | a :: rest => a :: decodeBytes rest
  | [] => []
termination_by l => l.length

end ImageBot.Url
