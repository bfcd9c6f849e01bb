import ImageBot.Text.Hex
import ImageBot.Yaml.Token
/-!
# Scalars in a text

A scalar may go on over several lines. A line end between two words of it is a space,
and further ones stand for themselves; only a literal block keeps all of them.
-/
namespace ImageBot.Yaml

/-- What stands between two words of a scalar: blanks, or line ends with the text of the
first one and of the others. -/
structure Gap where
  blanks : List Char
  first : Option (List Char)
  others : List Char
  deriving Repr, DecidableEq

namespace Gap

/-- Nothing. -/
def none : Gap := ⟨[], .none, []⟩

/-- What a gap means. -/
def text (g : Gap) : List Char :=
  match g.first with
  | .none => g.blanks
  | some b => if b = ['\n'] then if g.others.isEmpty then [' '] else g.others else b ++ g.others

/-- A gap with one more blank, which does not count on a new line. -/
def blank (g : Gap) (c : Char) : Gap :=
  if g.first.isSome then g else { g with blanks := g.blanks ++ [c] }

/-- A gap with one more line end. -/
def newLine (g : Gap) (text : List Char) : Gap :=
  match g.first with
  | .none => ⟨[], some text, g.others⟩
  | some _ => { g with others := g.others ++ text }

/-- Reads a gap on. A tab where a line of a plain scalar is indented is a fault. -/
def scan (tab? : Mark → Option Fault) : Mark → Gap → List Char → Except Fault (Gap × Cursor)
  | m, g, [] => .ok (g, ⟨m, []⟩)
  | m, g, '\r' :: '\n' :: rest => scan tab? (m.newLine 2) (g.newLine ['\n']) rest
  | m, g, c :: rest =>
    if isBlank c then
      match if c == '\t' && g.first.isSome then tab? m else .none with
      | some f => .error f
      | .none => scan tab? (m.next c) (g.blank c) rest
    else if isBreak c then scan tab? (m.newLine c.utf8Size) (g.newLine (breakText c)) rest
    else .ok (g, ⟨m, c :: rest⟩)

end Gap

/-- A scalar token with what follows it, and whether a line end was passed. -/
structure Scanned where
  token : Token
  after : Cursor
  newLine : Bool

namespace Plain

/-- The characters that end a plain scalar inside a flow collection. -/
def endsInFlow (c : Char) : Bool := c == ',' || c == '[' || c == ']' || c == '\x7b' || c == '\x7d'

/-- Reads one word. -/
def word (flow : Bool) (start : Mark) : Mark → List Char → Except Fault (List Char × Cursor)
  | m, [] => .ok ([], ⟨m, []⟩)
  | m, c :: rest =>
    if isBlank c || isBreak c then .ok ([], ⟨m, c :: rest⟩)
    else if flow && c == ':' && rest.head?.any (fun d => d == '?' || endsInFlow d) then
      .error ⟨"found unexpected ':'", m, some ("while scanning a plain scalar", start)⟩
    else if (c == ':' && blankNext rest) || (flow && endsInFlow c) then .ok ([], ⟨m, c :: rest⟩)
    else match word flow start (m.next c) rest with
      | .error f => .error f
      | .ok (w, after) => .ok (c :: w, after)

/-- Reads words and the gaps between them; `read` is what was read so far. -/
def words (flow : Bool) (indent : Int) (start : Mark) :
    (fuel : Nat) → (read : List Char) → (stop : Mark) → Gap → Cursor → Except Fault Scanned
  | fuel, read, stop, gap, c =>
    let finished : Scanned :=
      ⟨⟨.scalar (String.ofList read) .plain, start, stop⟩, c, gap.first.isSome⟩
    match fuel with
    | 0 => .ok finished
    | fuel + 1 =>
      if markerNext '-' c.mark c.rest || markerNext '.' c.mark c.rest || nextIs c.rest '#' then
        .ok finished
      else do
        let (w, after) ← word flow start c.mark c.rest
        if w.isEmpty then return finished
        let read := read ++ gap.text ++ w
        let tab? (m : Mark) : Option Fault :=
          if (m.column : Int) < indent then
            some ⟨"found a tab character that violates indentation", m,
              some ("while scanning a plain scalar", start)⟩
          else none
        let (gap, next) ← Gap.scan tab? after.mark .none after.rest
        if gap == .none || (!flow && (next.mark.column : Int) < indent) then
          return ⟨⟨.scalar (String.ofList read) .plain, start, after.mark⟩, next, gap.first.isSome⟩
        words flow indent start fuel read after.mark gap next

/-- Reads a plain scalar. Its lines are indented by `indent` at least. -/
def scan (flow : Bool) (indent : Int) (c : Cursor) : Except Fault Scanned :=
  words flow indent c.mark (c.rest.length + 1) [] c.mark .none c

end Plain

namespace Quoted

/-- The character of a simple escape. -/
def simpleEscape? (c : Char) : Option Char :=
  match c with
  | '0' => some (Char.ofNat 0)
  | 'a' => some (Char.ofNat 7)
  | 'b' => some (Char.ofNat 8)
  | 't' => some '\t'
  | '\t' => some '\t'
  | 'n' => some '\n'
  | 'v' => some (Char.ofNat 0x0B)
  | 'f' => some (Char.ofNat 0x0C)
  | 'r' => some '\r'
  | 'e' => some (Char.ofNat 0x1B)
  | ' ' => some ' '
  | '"' => some '"'
  | '/' => some '/'
  | '\\' => some '\\'
  | 'N' => some (Char.ofNat 0x85)
  | '_' => some (Char.ofNat 0xA0)
  | 'L' => some (Char.ofNat 0x2028)
  | 'P' => some (Char.ofNat 0x2029)
  | _ => none

/-- How many hexadecimal digits an escape has. -/
def codeLength? (c : Char) : Option Nat :=
  match c with
  | 'x' => some 2
  | 'u' => some 4
  | 'U' => some 8
  | _ => none

/-- The value of a hexadecimal digit. -/
def hexDigit? (c : Char) : Option Nat :=
  if c.toNat < 0x80 then Text.hexValue? c.toNat.toUInt8 else none

/-- The value of hexadecimal digits. -/
def hexCode? : (n value : Nat) → List Char → Option Nat
  | 0, value, _ => some value
  | _ + 1, _, [] => none
  | n + 1, value, c :: rest =>
    match hexDigit? c with
    | some d => hexCode? n (value * 16 + d) rest
    | none => none

/-- Reads the escape at a backslash: its character and how long it is. -/
def escape (start m : Mark) (s : List Char) : Except Fault (Char × Nat) :=
  let fault (problem : String) (m : Mark) : Fault :=
    ⟨problem, m, some ("while parsing a quoted scalar", start)⟩
  match s with
  | a :: c :: rest =>
    match simpleEscape? c, codeLength? c with
    | some value, _ => .ok (value, 2)
    | none, some n =>
      let digits := (m.next a).next c
      match hexCode? n 0 rest with
      | none => .error (fault "did not find expected hexadecimal number" digits)
      | some code =>
        if (0xD800 ≤ code ∧ code ≤ 0xDFFF) ∨ 0x10FFFF < code then
          .error (fault "found invalid Unicode character escape code" digits)
        else .ok (Char.ofNat code, n + 2)
    | none, none => .error (fault "found unknown escape character" m)
  | _ => .error (fault "found unknown escape character" m)

/-- Reads one word, and whether an escaped line end is behind it. -/
def word (single : Bool) (start : Mark) :
    (fuel : Nat) → Cursor → Except Fault (List Char × Bool × Cursor)
  | 0, c => .ok ([], false, c)
  | fuel + 1, c =>
    let quote := if single then '\'' else '"'
    match c.rest with
    | [] => .ok ([], false, c)
    | a :: rest =>
      if isBlank a || isBreak a then .ok ([], false, c)
      else if single && a == '\'' && nextIs rest '\'' then do
        let (w, b, after) ← word single start fuel (c.skip 2)
        return ('\'' :: w, b, after)
      else if a == quote then .ok ([], false, c)
      else if !single && a == '\\' then
        if rest.head?.any isBreak then .ok ([], true, (c.skip 1).takeBreak.2)
        else do
          let (value, width) ← escape start c.mark c.rest
          let (w, b, after) ← word single start fuel (c.skip width)
          return (value :: w, b, after)
      else do
        let (w, b, after) ← word single start fuel (c.skip 1)
        return (a :: w, b, after)

/-- Reads words and gaps up to the closing quotation mark. -/
def words (single : Bool) (start : Mark) :
    (fuel : Nat) → (read : List Char) → Cursor → Except Fault (List Char × Cursor)
  | 0, read, c => .ok (read, c)
  | fuel + 1, read, c =>
    let fault (problem : String) : Fault :=
      ⟨problem, c.mark, some ("while scanning a quoted scalar", start)⟩
    if markerNext '-' c.mark c.rest || markerNext '.' c.mark c.rest then
      .error (fault "found unexpected document indicator")
    else if c.rest.isEmpty then .error (fault "found unexpected end of stream")
    else do
      let (w, escapedBreak, after) ← word single start (c.rest.length + 1) c
      let read := read ++ w
      if nextIs after.rest (if single then '\'' else '"') then return (read, after.skip 1)
      let gap : Gap := if escapedBreak then ⟨[], some [], []⟩ else .none
      let (gap, next) ← Gap.scan (fun _ => none) after.mark gap after.rest
      words single start fuel (read ++ gap.text) next

/-- Reads a quoted scalar. -/
def scan (single : Bool) (c : Cursor) : Except Fault Scanned := do
  let (text, after) ← words single c.mark (c.rest.length + 1) [] (c.skip 1)
  let style := if single then Style.singleQuoted else Style.doubleQuoted
  return ⟨⟨.scalar (String.ofList text) style, c.mark, after.mark⟩, after, false⟩

end Quoted

namespace Block

/-- What happens to the line ends behind a block. -/
inductive Chomping
  | clip
  | strip
  | keep
  deriving Repr, DecidableEq

/-- The sign of a chomping, if one comes next. -/
def chomping? (s : List Char) : Option Chomping :=
  match s.head? with
  | some '+' => some .keep
  | some '-' => some .strip
  | _ => none

/-- The fault of a block. -/
def fault (start : Mark) (problem : String) (place : Mark) : Fault :=
  ⟨problem, place, some ("while scanning a block scalar", start)⟩

/-- The number of columns told for a block, if a digit comes next. -/
def increment? (start : Mark) (c : Cursor) : Except Fault (Option Nat) :=
  match c.rest.head? with
  | some d =>
    if d == '0' then .error (fault start "found an indentation indicator equal to 0" c.mark)
    else if '1' ≤ d && d ≤ '9' then .ok (some (d.toNat - 48))
    else .ok none
  | none => .ok none

/-- The signs behind the one that opens a block, in either order. -/
def header (start : Mark) (c : Cursor) : Except Fault (Chomping × Option Nat × Cursor) := do
  match chomping? c.rest with
  | some chomping =>
    let c := c.skip 1
    match ← increment? start c with
    | some n => return (chomping, some n, c.skip 1)
    | none => return (chomping, none, c)
  | none =>
    match ← increment? start c with
    | none => return (.clip, none, c)
    | some n =>
      let c := c.skip 1
      match chomping? c.rest with
      | some chomping => return (chomping, some n, c.skip 1)
      | none => return (.clip, some n, c)

/-- Line ends before a line of a block, and the widest indentation seen. -/
structure Breaks where
  text : List Char
  widest : Nat
  stop : Mark
  after : Cursor

/-- Reads empty lines; `indent` is that of the block, if it is known. -/
def breaks (start : Mark) (indent : Option Nat) :
    (fuel : Nat) → Breaks → Except Fault Breaks
  | 0, b => .ok b
  | fuel + 1, b =>
    let inIndent (column : Nat) : Bool := match indent with
      | none => true
      | some n => column < n
    let spaces := (b.after.rest.takeWhile (· == ' ')).length
    let width := match indent with
      | none => spaces
      | some n => min spaces (n - b.after.mark.column)
    let c := b.after.skip width
    let widest := max b.widest c.mark.column
    if inIndent c.mark.column && nextIs c.rest '\t' then
      .error (fault start "found a tab character where an indentation space is expected" c.mark)
    else if breakNext c.rest && !c.rest.isEmpty then
      let (text, next) := c.takeBreak
      breaks start indent fuel ⟨b.text ++ text, widest, next.mark, next⟩
    else .ok { b with widest := widest, after := c }

/-- The state of reading a block: the text so far, the line end behind the last line, the
empty lines behind it, and whether the last line started with a blank. -/
structure Lines where
  read : List Char
  lead : List Char
  trail : List Char
  indented : Bool
  stop : Mark
  after : Cursor

/-- Reads the lines of a block. -/
def lines (literal : Bool) (start : Mark) (indent : Nat) : (fuel : Nat) → Lines → Except Fault Lines
  | 0, l => .ok l
  | fuel + 1, l =>
    if l.after.mark.column ≠ indent ∨ l.after.rest.isEmpty then .ok l
    else do
      let blankFirst := l.after.rest.head?.any isBlank
      let join :=
        if !literal && l.lead == ['\n'] && !l.indented && !blankFirst then
          if l.trail.isEmpty then [' '] else l.trail
        else l.lead ++ l.trail
      let (line, after) := l.after.take fun c => !isBreak c
      let (lead, next) := after.takeBreak
      let b ← breaks start (some indent) (next.rest.length + 1) ⟨[], 0, next.mark, next⟩
      lines literal start indent fuel ⟨l.read ++ join ++ line, lead, b.text, blankFirst, b.stop, b.after⟩

/-- Reads a block scalar inside a collection of some indentation. -/
def scan (literal : Bool) (outer : Int) (c : Cursor) : Except Fault Scanned := do
  let start := c.mark
  let (chomping, increment, c) ← header start (c.skip 1)
  let c := c.passComment
  if !breakNext c.rest then
    throw (fault start "did not find expected comment or line break" c.mark)
  let c := c.takeBreak.2
  let told := increment.map fun n => if 0 ≤ outer then outer.toNat + n else n
  let b ← breaks start told (c.rest.length + 1) ⟨[], 0, c.mark, c⟩
  let indent := told.getD (max b.widest (max (outer + 1).toNat 1))
  let l ← lines literal start indent (c.rest.length + 1) ⟨[], [], b.text, false, b.stop, b.after⟩
  let tail := match chomping with
    | .strip => []
    | .clip => l.lead
    | .keep => l.lead ++ l.trail
  let style := if literal then Style.literal else Style.folded
  return ⟨⟨.scalar (String.ofList (l.read ++ tail)) style, start, l.stop⟩, l.after, true⟩

end Block

end ImageBot.Yaml
