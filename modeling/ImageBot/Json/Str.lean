import ImageBot.Json.Cursor
import ImageBot.Text.Hex
import ImageBot.Text.Utf8
/-!
# Strings in a document

A string ends at the first quotation mark that is not escaped. Who passes over a string
only wants its escapes to be of a known form and no control character in it; who reads it
also wants surrogates to come in pairs, and its bytes to be UTF-8. The first wrong escape
is told before a wrong byte, since bytes are looked at when the string is complete. Its
place is then counted back from the end of the string in bytes of what was read, of which
an escape has fewer than it has in the document.
-/
namespace ImageBot.Json

open Text

namespace Str

/-- Four hexadecimal digits at a cursor. -/
def hex4 (c : Cursor) : Reading (Nat × Cursor) :=
  match c.rest with
  | a₀ :: a₁ :: a₂ :: a₃ :: rest =>
    match hexValue? a₀, hexValue? a₁, hexValue? a₂, hexValue? a₃ with
    | some d₀, some d₁, some d₂, some d₃ =>
      .ok (((d₀ * 16 + d₁) * 16 + d₂) * 16 + d₃, ⟨c.offset + 4, rest⟩)
    | _, _, _, _ => .error ⟨.invalidEscape, c.offset + 4⟩
  | short => .error ⟨.endInString, c.offset + short.length⟩

/-- The second half of a surrogate pair, of which the first half is `high`. -/
def lowHalf (high : Nat) (c : Cursor) : Reading (Char × Cursor) :=
  match c.rest with
  | [] => .error (c.here .endInString)
  | 0x5C :: [] => .error ⟨.endInString, c.offset + 1⟩
  | 0x5C :: 0x75 :: rest =>
    match hex4 ⟨c.offset + 2, rest⟩ with
    | .error f => .error f
    | .ok (low, after) =>
      if 0xDC00 ≤ low ∧ low ≤ 0xDFFF then
        .ok (Char.ofNat (0x10000 + (high - 0xD800) * 0x400 + (low - 0xDC00)), after)
      else .error (after.here .loneSurrogate)
  | 0x5C :: _ :: _ => .error ⟨.unfinishedSurrogate, c.offset + 2⟩
  | _ :: _ => .error ⟨.unfinishedSurrogate, c.offset + 1⟩

/-- The character that a letter stands for after a backslash. -/
def simpleEscape? (b : UInt8) : Option Char :=
  if b = 0x22 then some '"'
  else if b = 0x5C then some '\\'
  else if b = 0x2F then some '/'
  else if b = 0x62 then some (Char.ofNat 8)
  else if b = 0x66 then some (Char.ofNat 12)
  else if b = 0x6E then some '\n'
  else if b = 0x72 then some '\r'
  else if b = 0x74 then some '\t'
  else none

/-- The escape behind a backslash. A half of a surrogate pair that has no other half is a
fault for who reads it; who passes over it goes on behind the half. -/
def escape (c : Cursor) : Except Flaw (Reading Char × Cursor) :=
  match c.rest with
  | [] => .error (Cursor.flaw (c.here .endInString))
  | b :: rest =>
    match simpleEscape? b with
    | some ch => .ok (.ok ch, ⟨c.offset + 1, rest⟩)
    | none =>
      if b = 0x75 then
        match hex4 ⟨c.offset + 1, rest⟩ with
        | .error f => .error (Cursor.flaw f)
        | .ok (n, after) =>
          if n < 0xD800 ∨ 0xDFFF < n then .ok (.ok (Char.ofNat n), after)
          else if 0xDC00 ≤ n then .ok (.error (after.here .loneSurrogate), after)
          else match lowHalf n after with
            | .ok (ch, afterBoth) => .ok (.ok ch, afterBoth)
            | .error f => .ok (.error f, after)
      else .error (Cursor.flaw ⟨.invalidEscape, c.offset + 1⟩)

/-- How many bytes of a string were read so far, and what is wrong with them: the first wrong
escape, and how many bytes were read before the first wrong byte. -/
structure Slips where
  inEscape : Option Fault
  size : Nat
  badByte : Option Nat
  deriving Repr, DecidableEq

/-- Nothing read yet. -/
def Slips.start : Slips := ⟨none, 0, none⟩

/-- With some more bytes. -/
def Slips.grow (s : Slips) (n : Nat) : Slips := { s with size := s.size + n }

/-- What is wrong with a string that ends in front of an offset. -/
def Slips.fault? (s : Slips) (stop : Nat) : Option Fault :=
  s.inEscape <|> s.badByte.map fun good => ⟨.invalidCharacter, stop - s.size + good⟩

/-- The flaw at which a string breaks off. -/
def Slips.flaw (s : Slips) (reading skipping : Fault) : Flaw :=
  ⟨s.inEscape.getD reading, skipping⟩

/-- The string at a cursor behind its opening quotation mark. The characters read so far
are in reverse. -/
def scanFrom : (fuel : Nat) → (read : List Char) → Slips → Cursor →
    Except Flaw (Reading String × Cursor)
  | 0, _, slips, c => .error (slips.flaw (c.here .endInString) (c.here .endInString))
  | fuel + 1, read, slips, c =>
    match c.rest with
    | [] => .error (slips.flaw (c.here .endInString) (c.here .endInString))
    | b :: rest =>
      let next : Cursor := ⟨c.offset + 1, rest⟩
      if b = 0x22 then
        match slips.fault? next.offset with
        | some f => .ok (.error f, next)
        | none => .ok (.ok (String.ofList read.reverse), next)
      else if b = 0x5C then
        match escape next with
        | .error f => .error (slips.flaw f.reading f.skipping)
        | .ok (.ok ch, after) => scanFrom fuel (ch :: read) (slips.grow ch.utf8Size) after
        | .ok (.error f, after) =>
          scanFrom fuel read { slips with inEscape := slips.inEscape <|> some f } after
      else if b < 0x20 then
        .error (slips.flaw (next.here .controlCharacter) (c.here .controlCharacter))
      else
        match Utf8.step b rest with
        | (some ch, k) =>
          scanFrom fuel (ch :: read) (slips.grow (1 + k)) ⟨c.offset + 1 + k, rest.drop k⟩
        | (none, k) =>
          let marked := { slips with badByte := slips.badByte <|> some slips.size }
          scanFrom fuel read (marked.grow (1 + k)) ⟨c.offset + 1 + k, rest.drop k⟩

/-- The string behind an opening quotation mark. -/
def scan (c : Cursor) : Except Flaw (Reading String × Cursor) :=
  scanFrom (c.rest.length + 1) [] .start c

end Str

end ImageBot.Json
