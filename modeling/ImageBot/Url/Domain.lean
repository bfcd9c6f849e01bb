import ImageBot.Text.Utf8
import ImageBot.Unicode.Composed
import ImageBot.Unicode.Direction
import ImageBot.Unicode.Hostname
import ImageBot.Unicode.Joining
import ImageBot.Url.Fault
import ImageBot.Url.Percent
import ImageBot.Url.Punycode
/-!
# Domain names

The host of a URL with a special scheme is a domain name. Its percent-encoding is undone,
its characters are mapped to those of host names, and it is put into composed form. Every
label beyond ASCII is written in Punycode behind `xn--`. A label that has this form already
must be the Punycode of a text that the mapping would leave as it is. No label starts with a
mark or has a joiner without meaning, and where one is written from right to left all must be
clear in their direction.
-/
namespace ImageBot.Url

open Text

/-- ASCII characters that no domain name has. -/
def domainSet : CharSet := CharSet.with (fun n => n ≤ 0x20 || n == 0x7F) "%#/:<>?@[\\]^|"

/-- Whether a text goes beyond ASCII. -/
def beyondAscii (s : List Char) : Bool := s.any fun c => 0x80 ≤ c.toNat

/-- A domain name with every character mapped, not yet composed. -/
def mapCodes : List Char → Option (List Nat)
  | [] => some []
  | c :: rest =>
    match Unicode.mapHostCode c.toNat, mapCodes rest with
    | some codes, some tail => some (codes ++ tail)
    | _, _ => none

/-- A domain name with every character mapped, in composed form. -/
def mapDomain (s : List Char) : Option (List Char) :=
  match mapCodes s with
  | none => none
  | some codes =>
    let mapped := (Unicode.composed codes).map Char.ofNat
    if mapped.any fun c => c.toNat < 0x80 && domainSet c.toNat then none else some mapped

/-- The pieces of a text between its separators. -/
def splitOn (separator : Char) : List Char → List (List Char)
  | [] => [[]]
  | c :: rest =>
    if c = separator then [] :: splitOn separator rest
    else match splitOn separator rest with
      | [] => [[c]]
      | piece :: pieces => (c :: piece) :: pieces

/-- The greatest number of characters in a label beyond ASCII. -/
def longestLabel : Nat := 1000

/-- The greatest number of characters in the Punycode of a label. -/
def longestCode : Nat := 2000

/-- The text of a label of which `code` stands behind `xn--`. -/
def decodeLabel (code : List Char) : Option (List Char) :=
  if beyondAscii code || longestCode < code.length then none
  else match Punycode.decode code with
    | none => none
    | some text => if beyondAscii text && mapDomain text == some text then some text else none

/-- Whether a text that is not written in ASCII may be a label. -/
def isLabel (text : List Char) : Bool :=
  let codes := text.map Char.toNat
  text.length ≤ longestLabel && !codes.head?.any Unicode.isMark && Unicode.joinersFit [] codes

/-- A label: its text, and how it is written in ASCII. -/
structure Label where
  text : List Char
  ascii : List Char
  deriving Repr, DecidableEq

/-- A mapped label, unless it is refused. -/
def Label.ofMapped (label : List Char) : Option Label :=
  match label with
  | 'x' :: 'n' :: '-' :: '-' :: code =>
    match decodeLabel code with
    | none => none
    | some text => if isLabel text then some ⟨text, label⟩ else none
  | _ =>
    if !beyondAscii label then some ⟨label, label⟩
    else if isLabel label then some ⟨label, ['x', 'n', '-', '-'] ++ Punycode.encode label⟩
    else none

/-- Whether the direction of labels is clear, where it is a question at all. -/
def areClear (labels : List Label) : Bool :=
  !(labels.any fun l => l.text.any fun c => Unicode.isRightToLeft c.toNat) ||
    labels.all fun l => Unicode.Direction.isClear (l.text.map fun c => Unicode.direction c.toNat)

/-- A domain name in ASCII. -/
def domainToAscii (name : List Char) : Except Fault (List Char) :=
  match Utf8.decode (decodeBytes (Utf8.encode name)) with
  | .error _ => .error .internationalName
  | .ok decoded =>
    match mapDomain decoded with
    | none => .error .internationalName
    | some mapped =>
      match (splitOn '.' mapped).mapM Label.ofMapped with
      | none => .error .internationalName
      | some labels =>
        if areClear labels then .ok (List.intercalate ['.'] (labels.map (·.ascii)))
        else .error .internationalName

end ImageBot.Url
