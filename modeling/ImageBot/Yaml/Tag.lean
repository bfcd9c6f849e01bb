import ImageBot.Text.Utf8
import ImageBot.Yaml.Scalar
/-!
# Anchors, tags and directives in a text

A tag is written as a whole between angle brackets, or as a handle and a suffix. A handle
is an exclamation mark, alone or closed by a second one behind a word; what looks like a
handle but is not closed belongs to the suffix of the handle `!`. An escaped NUL ends the
text of a tag, whatever follows it.
-/
namespace ImageBot.Yaml

/-- The octet of an escape like `%20` at the start of a text. -/
def octet? : List Char → Option Nat
  | '%' :: a :: b :: _ => Quoted.hexCode? 2 0 [a, b]
  | _ => none

namespace Anchor

/-- What may follow an anchor or alias directly. -/
def endsName (c : Char) : Bool :=
  c == '?' || c == ':' || c == ',' || c == ']' || c == '\x7d' || c == '%' || c == '@' || c.toNat == 0x60

/-- Reads the name behind the sign of an anchor or an alias. -/
def scan (isAlias : Bool) (c : Cursor) : Except Fault (Token × Cursor) :=
  let (name, after) := (c.skip 1).take isWordChar
  let what := if isAlias then "while scanning an alias" else "while scanning an anchor"
  if name.isEmpty || !(blankNext after.rest || after.rest.head?.any endsName) then
    .error ⟨"did not find expected alphabetic or numeric character", after.mark, some (what, c.mark)⟩
  else
    let text := String.ofList name
    .ok (⟨if isAlias then .alias text else .anchor text, c.mark, after.mark⟩, after)

end Anchor

namespace Tag

/-- Where a tag stands: in the content, or in a directive that gives a handle a meaning. -/
structure Place where
  directive : Bool
  start : Mark

/-- The fault of a tag while its characters are read. -/
def Place.parsing (p : Place) (problem : String) (m : Mark) : Fault :=
  ⟨problem, m,
    some (if p.directive then "while parsing a %TAG directive" else "while parsing a tag", p.start)⟩

/-- Whether a character may stand in a tag; a few more may between angle brackets. -/
def isUriChar (whole : Bool) (c : Char) : Bool :=
  isWordChar c || ";/?:@&=+$.%!~*'()".toList.contains c || (whole && ",[]".toList.contains c)

/-- How many octets the character has that a first octet opens. -/
def octetCount (octet : Nat) : Nat :=
  if octet < 0x80 then 1
  else if octet / 0x20 = 6 then 2
  else if octet / 0x10 = 14 then 3
  else if octet / 0x08 = 30 then 4
  else 0

/-- Reads the escapes of the octets behind the first one of a character. -/
def laterOctets (p : Place) : (n : Nat) → Cursor → Except Fault (List UInt8 × Cursor)
  | 0, c => .ok ([], c)
  | n + 1, c =>
    match octet? c.rest with
    | none => .error (p.parsing "did not find URI escaped octet" c.mark)
    | some o =>
      if o / 0x40 ≠ 2 then .error (p.parsing "found an incorrect trailing UTF-8 octet" c.mark)
      else match laterOctets p n (c.skip 3) with
        | .error f => .error f
        | .ok (octets, after) => .ok (o.toUInt8 :: octets, after)

/-- Reads the escapes of one character. -/
def escaped (p : Place) (c : Cursor) : Except Fault (List Char × Cursor) :=
  match octet? c.rest with
  | none => .error (p.parsing "did not find URI escaped octet" c.mark)
  | some o =>
    match octetCount o with
    | 0 => .error (p.parsing "found an incorrect leading UTF-8 octet" c.mark)
    | n + 1 =>
      match laterOctets p n (c.skip 3) with
      | .error f => .error f
      | .ok (octets, after) => .ok (Text.Utf8.decodeLossy (o.toUInt8 :: octets), after)

/-- Reads characters of a tag. -/
def uriChars (p : Place) (whole : Bool) : (fuel : Nat) → Cursor → Except Fault (List Char × Cursor)
  | 0, c => .ok ([], c)
  | fuel + 1, c =>
    match c.rest with
    | [] => .ok ([], c)
    | a :: _ =>
      if !isUriChar whole a then .ok ([], c)
      else do
        let (text, next) ← if a == '%' then escaped p c else .ok ([a], c.skip 1)
        let (later, after) ← uriChars p whole fuel next
        return (text ++ later, after)

/-- Reads a suffix behind a handle. There must be something in one of them. What an escaped
NUL cuts off is read, but does not count. -/
def suffix (p : Place) (whole : Bool) (handle : List Char) (c : Cursor) :
    Except Fault (List Char × Cursor) := do
  let (text, after) ← uriChars p whole (c.rest.length + 1) c
  if handle.isEmpty && after.mark == c.mark then
    throw (p.parsing "did not find expected tag URI" after.mark)
  return ((handle.drop 1 ++ text).takeWhile fun d => d.toNat != 0, after)

/-- Reads what looks like a handle. -/
def handle (p : Place) (c : Cursor) : Except Fault (List Char × Cursor) :=
  if !nextIs c.rest '!' then
    .error ⟨"did not find expected '!'", c.mark, some
      (if p.directive then "while scanning a tag directive" else "while scanning a tag", p.start)⟩
  else
    let (name, after) := (c.skip 1).take isWordChar
    if nextIs after.rest '!' then .ok ('!' :: name ++ ['!'], after.skip 1)
    else if p.directive && !name.isEmpty then
      .error ⟨"did not find expected '!'", after.mark, some ("while parsing a tag directive", p.start)⟩
    else .ok ('!' :: name, after)

/-- The handle and the suffix of a tag. -/
def parts (p : Place) (c : Cursor) : Except Fault (List Char × List Char × Cursor) := do
  if nextIs (c.rest.drop 1) '<' then
    let (text, after) ← suffix p true [] (c.skip 2)
    if !nextIs after.rest '>' then
      throw ⟨"did not find the expected '>'", after.mark, some ("while scanning a tag", p.start)⟩
    return ([], text, after.skip 1)
  let (h, after) ← handle p c
  if 1 < h.length && h.getLast? == some '!' then
    let (text, after) ← suffix p false [] after
    return (h, text, after)
  let (text, after) ← suffix p false h after
  return if text.isEmpty then ([], ['!'], after) else (['!'], text, after)

/-- Reads a tag. In a flow collection a comma may follow it directly. -/
def scan (flow : Bool) (c : Cursor) : Except Fault (Token × Cursor) := do
  let (h, text, after) ← parts ⟨false, c.mark⟩ c
  if !(flow && nextIs after.rest ',') && !blankNext after.rest then
    throw ⟨"did not find expected whitespace or line break", after.mark,
      some ("while scanning a tag", c.mark)⟩
  return (⟨.tag (String.ofList h) (String.ofList text), c.mark, after.mark⟩, after)

end Tag

namespace Directive

/-- The fault of a version. -/
def versionFault (start : Mark) (problem : String) (m : Mark) : Fault :=
  ⟨problem, m, some ("while scanning a %YAML directive", start)⟩

/-- Whether a character is an ASCII digit. -/
def isDigit (c : Char) : Bool := '0' ≤ c && c ≤ '9'

/-- Reads a number of nine digits at most. -/
def number (start : Mark) (c : Cursor) : Except Fault (Nat × Cursor) :=
  let (digits, after) := c.take isDigit
  if digits.isEmpty then .error (versionFault start "did not find expected version number" c.mark)
  else if 9 < digits.length then
    .error (versionFault start "found extremely long version number" (c.skip 9).mark)
  else .ok (digits.foldl (fun n d => n * 10 + (d.toNat - 48)) 0, after)

/-- Reads a version. -/
def version (start : Mark) (c : Cursor) : Except Fault (TokenKind × Cursor) := do
  let (major, c) ← number start (c.pass isBlank)
  if !nextIs c.rest '.' then
    throw (versionFault start "did not find expected digit or '.' character" c.mark)
  let (minor, c) ← number start (c.skip 1)
  return (.version major minor, c)

/-- Reads a handle and what it stands for. -/
def tagScope (start : Mark) (c : Cursor) : Except Fault (TokenKind × Cursor) := do
  let p : Tag.Place := ⟨true, start⟩
  let fault (problem : String) (m : Mark) : Fault :=
    ⟨problem, m, some ("while scanning a %TAG directive", start)⟩
  let (handle, c) ← Tag.handle p (c.pass isBlank)
  if !c.rest.head?.any isBlank then throw (fault "did not find expected whitespace" c.mark)
  let (stem, c) ← Tag.suffix p true [] (c.pass isBlank)
  if !blankNext c.rest then
    throw (fault "did not find expected whitespace or line break" c.mark)
  return (.tagScope (String.ofList handle) (String.ofList stem), c)

/-- Reads a directive with the rest of its line. -/
def scan (c : Cursor) : Except Fault (Token × Cursor) := do
  let start := c.mark
  let fault (problem : String) (m : Mark) : Fault :=
    ⟨problem, m, some ("while scanning a directive", start)⟩
  let (name, c) := (c.skip 1).take isWordChar
  if name.isEmpty then throw (fault "could not find expected directive name" c.mark)
  if !blankNext c.rest then
    throw (fault "found unexpected non-alphabetical character" c.mark)
  let (kind, c) ←
    if name == "YAML".toList then version start c
    else if name == "TAG".toList then tagScope start c
    else throw (fault "found unknown directive name" c.mark)
  let stop := c.mark
  let c := c.passComment
  if !breakNext c.rest then throw (fault "did not find expected comment or line break" c.mark)
  return (⟨kind, start, stop⟩, c.takeBreak.2)

end Directive

end ImageBot.Yaml
