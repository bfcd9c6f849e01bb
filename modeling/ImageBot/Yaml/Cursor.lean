/-!
# A cursor over a YAML text

A mark counts the bytes from the start of the text, and lines and columns in characters, all
from zero. Line ends are those of YAML, a carriage return with a line feed being one of them.
-/
namespace ImageBot.Yaml

/-- A place in a text. -/
structure Mark where
  /-- The number of bytes before it. -/
  index : Nat
  line : Nat
  column : Nat
  deriving Repr, DecidableEq

/-- The start of a text. -/
def Mark.start : Mark := ⟨0, 0, 0⟩

/-- Whether a mark is on the first character of the first line. Such marks are not told. -/
def Mark.isOrigin (m : Mark) : Bool := m.line == 0 && m.column == 0

/-- A mark in words. -/
def Mark.text (m : Mark) : String := s!"line {m.line + 1} column {m.column + 1}"

/-- What keeps a text from being read: the problem, what was being read, and where. -/
structure Fault where
  problem : String
  place : Mark
  context : Option (String × Mark)
  deriving Repr, DecidableEq

/-- The text of a fault. The place of what was being read is told if it is another one. -/
def Fault.message (f : Fault) : String :=
  let at_ (m : Mark) : String := if m.isOrigin then "" else " at " ++ m.text
  f.problem ++ at_ f.place ++ (match f.context with
    | none => ""
    | some (text, mark) =>
      ", " ++ text ++
        (if mark.line = f.place.line ∧ mark.column = f.place.column then "" else at_ mark))

/-- A rest of a text and where it starts. -/
structure Cursor where
  mark : Mark
  rest : List Char
  deriving Repr, DecidableEq

/-- A space or a tab. -/
def isBlank (c : Char) : Bool := c == ' ' || c == '\t'

/-- A line end. -/
def isBreak (c : Char) : Bool :=
  let n := c.toNat
  n == 0x0A || n == 0x0D || n == 0x85 || n == 0x2028 || n == 0x2029

/-- A letter, digit, underscore or hyphen. -/
def isWordChar (c : Char) : Bool :=
  ('0' ≤ c && c ≤ '9') || ('A' ≤ c && c ≤ 'Z') || ('a' ≤ c && c ≤ 'z') || c == '_' || c == '-'

/-- Whether nothing or a blank or line end comes next. -/
def blankNext : List Char → Bool
  | [] => true
  | c :: _ => isBlank c || isBreak c

/-- Whether nothing or a line end comes next. -/
def breakNext : List Char → Bool
  | [] => true
  | c :: _ => isBreak c

/-- Whether a character comes next. -/
def nextIs (s : List Char) (c : Char) : Bool := s.head? == some c

/-- The mark behind one more character of a line. -/
def Mark.next (m : Mark) (c : Char) : Mark := ⟨m.index + c.utf8Size, m.line, m.column + 1⟩

/-- The mark behind a line end of some bytes. -/
def Mark.newLine (m : Mark) (width : Nat) : Mark := ⟨m.index + width, m.line + 1, 0⟩

/-- The number of bytes of a text. -/
def byteCount (s : List Char) : Nat := s.foldl (fun n c => n + c.utf8Size) 0

/-- The text of a line end: a line feed, unless it is a separator of its own. -/
def breakText (c : Char) : List Char :=
  if c.toNat = 0x2028 ∨ c.toNat = 0x2029 then [c] else ['\n']

/-- Whether a document marker of a given sign starts a line here. -/
def markerNext (sign : Char) (m : Mark) (s : List Char) : Bool :=
  m.column == 0 && match s with
    | a :: b :: c :: rest => a == sign && b == sign && c == sign && blankNext rest
    | _ => false

namespace Cursor

/-- Moves over characters of a line. -/
def skip (c : Cursor) (n : Nat) : Cursor :=
  ⟨⟨c.mark.index + byteCount (c.rest.take n), c.mark.line, c.mark.column + n⟩, c.rest.drop n⟩

/-- Moves over a line end and tells its text; elsewhere it stays. -/
def takeBreak (c : Cursor) : List Char × Cursor :=
  match c.rest with
  | '\r' :: '\n' :: rest => (['\n'], ⟨c.mark.newLine 2, rest⟩)
  | b :: rest => if isBreak b then (breakText b, ⟨c.mark.newLine b.utf8Size, rest⟩) else ([], c)
  | [] => ([], c)

/-- The characters up to the first one that is not wanted. -/
def takeFrom (wanted : Char → Bool) : Mark → List Char → List Char × Cursor
  | m, [] => ([], ⟨m, []⟩)
  | m, c :: rest =>
    if wanted c then
      let (taken, after) := takeFrom wanted (m.next c) rest
      (c :: taken, after)
    else ([], ⟨m, c :: rest⟩)

/-- The characters at the cursor up to the first one that is not wanted. -/
def take (c : Cursor) (wanted : Char → Bool) : List Char × Cursor := takeFrom wanted c.mark c.rest

/-- The cursor behind the characters that are wanted. -/
def pass (c : Cursor) (wanted : Char → Bool) : Cursor := (c.take wanted).2

/-- The cursor behind blanks and a comment. -/
def passComment (c : Cursor) : Cursor :=
  let c := c.pass isBlank
  if nextIs c.rest '#' then c.pass fun b => !isBreak b else c

end Cursor

end ImageBot.Yaml
