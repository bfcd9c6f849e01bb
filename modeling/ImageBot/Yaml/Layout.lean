import ImageBot.Yaml.Tag
/-!
# From text to tokens

Block collections are recognised by their layout. A token may turn out to be a key only
when the colon behind it is met; until then it is remembered as a possible key, and the
tokens that open a pair, and perhaps a mapping, are put in front of it afterwards. One
possible key is remembered for each flow collection that is open, and one for the block
around them.

A text that cannot be read to its end still has tokens: those that no later character
could have changed when the fault was found. A text is looked through for characters that
may not stand in it in stretches, each of them when its first character is needed.
-/
namespace ImageBot.Yaml

/-- A token that is a key if a colon follows. It is required to be one where nothing else
could stand. -/
structure PossibleKey where
  required : Bool
  /-- How many tokens are in front of it. -/
  number : Nat
  mark : Mark
  deriving Repr, DecidableEq

/-- The state of reading tokens. -/
structure Layout where
  cursor : Cursor
  /-- The possible key of each level, the innermost first. -/
  keys : List (Option PossibleKey)
  /-- The column of the innermost block collection; `-1` outside all of them. -/
  indent : Int
  /-- The columns of the block collections around it. -/
  outer : List Int
  /-- Whether a key may start at the next token. -/
  keyAllowed : Bool
  /-- The tokens so far, the last one first. -/
  tokens : List Token
  count : Nat
  /-- How many tokens no later character can change. -/
  settled : Nat

/-- The tokens of a text, and why there are no more of them, unless they are all. -/
structure Tokens where
  list : List Token
  fault : Option Fault
  deriving Repr

namespace Layout

/-- The start of a text. -/
def start (text : List Char) : Layout :=
  { cursor := ⟨.start, text⟩, keys := [none], indent := -1, outer := [], keyAllowed := true,
    tokens := [⟨.streamStart, .start, .start⟩], count := 1, settled := 0 }

/-- Whether a flow collection is open. -/
def inFlow (l : Layout) : Bool := 1 < l.keys.length

/-- With one more token. -/
def push (l : Layout) (t : Token) : Layout :=
  { l with tokens := t :: l.tokens, count := l.count + 1 }

/-- With one more token in front of which there are `number` others. -/
def pushAt (l : Layout) (number : Nat) (t : Token) : Layout :=
  let later := l.count - number
  { l with tokens := l.tokens.take later ++ t :: l.tokens.drop later, count := l.count + 1 }

/-- With a token without width at the cursor. -/
def pushHere (l : Layout) (kind : TokenKind) : Layout := l.push ⟨kind, l.cursor.mark, l.cursor.mark⟩

/-- With the next `n` characters as a token. -/
def pushWide (l : Layout) (kind : TokenKind) (n : Nat) : Layout :=
  let after := l.cursor.skip n
  { l.push ⟨kind, l.cursor.mark, after.mark⟩ with cursor := after }

/-- The fault of a key that is none. -/
def lostKey (k : PossibleKey) (m : Mark) : Fault :=
  ⟨"could not find expected ':'", m, some ("while scanning a simple key", k.mark)⟩

/-- A possible key, unless the cursor has left its line or is too far from it. -/
def keepKey (m : Mark) (k : PossibleKey) : Except Fault (Option PossibleKey) :=
  if k.mark.line < m.line ∨ k.mark.index + 1024 < m.index then
    if k.required then .error (lostKey k m) else .ok none
  else .ok (some k)

/-- Keeps the possible keys of the levels from the outermost one on. -/
def keepKeys (m : Mark) : List (Option PossibleKey) → Except Fault (List (Option PossibleKey))
  | [] => .ok []
  | key :: outer => do
    let outer ← keepKeys m outer
    match key with
    | none => return none :: outer
    | some k => return (← keepKey m k) :: outer

/-- Forgets possible keys that cannot be keys any more. -/
def forgetOldKeys (l : Layout) : Except Fault Layout := do
  return { l with keys := ← keepKeys l.cursor.mark l.keys }

/-- Forgets the possible key of the innermost level. -/
def forgetKey (l : Layout) : Except Fault Layout :=
  match l.keys with
  | some k :: outer =>
    if k.required then .error (lostKey k l.cursor.mark) else .ok { l with keys := none :: outer }
  | _ => .ok l

/-- Remembers the next token as a possible key, if a key may start here. -/
def rememberKey (l : Layout) : Except Fault Layout :=
  if !l.keyAllowed then .ok l
  else do
    let required := !l.inFlow && l.indent == (l.cursor.mark.column : Int)
    let l ← l.forgetKey
    return { l with keys := some ⟨required, l.count, l.cursor.mark⟩ :: l.keys.drop 1 }

/-- Opens a block collection at a column, unless one is open there. Its token goes in
front of the token of a given number. -/
def openBlock (l : Layout) (kind : TokenKind) (number : Nat) (m : Mark) : Layout :=
  if l.inFlow || (m.column : Int) ≤ l.indent then l
  else { l.pushAt number ⟨kind, m, m⟩ with indent := m.column, outer := l.indent :: l.outer }

/-- Closes the block collections that are further in than a column, with the columns of
those around the innermost one at hand. -/
def closeFrom (column : Int) : (outer : List Int) → Layout → Layout
  | [], l => l
  | i :: outer, l =>
    if column < l.indent then
      closeFrom column outer { l.pushHere .blockEnd with indent := i, outer := outer }
    else l

/-- Closes the block collections that are further in than a column. -/
def closeBlocks (l : Layout) (column : Int) : Layout :=
  if l.inFlow then l else closeFrom column l.outer l

/-- Moves over blanks, comments and line ends. A tab is a blank where no key can start.
Behind a line end of a block a key can start. -/
def passBlank : (fuel : Nat) → Layout → Layout
  | 0, l => l
  | fuel + 1, l =>
    let c := l.cursor
    let c := if c.mark.column == 0 && nextIs c.rest (Char.ofNat 0xFEFF) then c.skip 1 else c
    let c := c.pass fun a => a == ' ' || ((l.inFlow || !l.keyAllowed) && a == '\t')
    let c := if nextIs c.rest '#' then c.pass fun a => !isBreak a else c
    if c.rest.head?.any isBreak then
      passBlank fuel { l with cursor := c.takeBreak.2, keyAllowed := l.keyAllowed || !l.inFlow }
    else { l with cursor := c }

/-- Reads the end of the text, which counts as the start of a line. -/
def endOfText (l : Layout) : Except Fault Layout := do
  let m := l.cursor.mark
  let m := if m.column = 0 then m else ⟨m.index, m.line + 1, 0⟩
  let l := { l with cursor := ⟨m, []⟩ }
  let l ← (l.closeBlocks (-1)).forgetKey
  return { l with keyAllowed := false }.pushHere .streamEnd

/-- Closes everything in front of a directive or a document marker. -/
def outermost (l : Layout) : Except Fault Layout := do
  let l ← (l.closeBlocks (-1)).forgetKey
  return { l with keyAllowed := false }

/-- Opens a flow collection. -/
def openFlow (l : Layout) (kind : TokenKind) : Except Fault Layout := do
  let l ← l.rememberKey
  return { l with keys := none :: l.keys, keyAllowed := true }.pushWide kind 1

/-- Closes a flow collection, if one is open. -/
def closeFlow (l : Layout) (kind : TokenKind) : Except Fault Layout := do
  let l ← l.forgetKey
  let keys := if l.inFlow then l.keys.drop 1 else l.keys
  return { l with keys := keys, keyAllowed := false }.pushWide kind 1

/-- The fault of a sign at the cursor that cannot stand there. -/
def misplaced (l : Layout) (what : String) : Fault :=
  ⟨what ++ " are not allowed in this context", l.cursor.mark, none⟩

/-- Reads the sign of an item of a block sequence. -/
def entry (l : Layout) : Except Fault Layout := do
  if !l.inFlow && !l.keyAllowed then throw (l.misplaced "block sequence entries")
  let l ← (l.openBlock .blockSequenceStart l.count l.cursor.mark).forgetKey
  return { l with keyAllowed := true }.pushWide .blockEntry 1

/-- Reads the sign of a key. -/
def keySign (l : Layout) : Except Fault Layout := do
  if !l.inFlow && !l.keyAllowed then throw (l.misplaced "mapping keys")
  let l ← (l.openBlock .blockMappingStart l.count l.cursor.mark).forgetKey
  return { l with keyAllowed := !l.inFlow }.pushWide .key 1

/-- Reads the colon of a value. What was a possible key is one. -/
def valueSign (l : Layout) : Except Fault Layout :=
  match l.keys with
  | some k :: outer =>
    let l := l.pushAt k.number ⟨.key, k.mark, k.mark⟩
    let l := l.openBlock .blockMappingStart k.number k.mark
    .ok ({ l with keys := none :: outer, keyAllowed := false }.pushWide .value 1)
  | _ =>
    if !l.inFlow && !l.keyAllowed then .error (l.misplaced "mapping values")
    else
      let l := l.openBlock .blockMappingStart l.count l.cursor.mark
      .ok ({ l with keyAllowed := !l.inFlow }.pushWide .value 1)

/-- Takes in a token that may be a key or start one. -/
def content (l : Layout) (read : Cursor → Except Fault (Token × Cursor)) : Except Fault Layout := do
  let l ← l.rememberKey
  let (t, after) ← read l.cursor
  return { l.push t with cursor := after, keyAllowed := false }

/-- Takes in a scalar that may be a key. -/
def scalar (l : Layout) (scanned : Cursor → Except Fault Scanned) : Except Fault Layout := do
  let l ← l.rememberKey
  let s ← scanned l.cursor
  return { l.push s.token with cursor := s.after, keyAllowed := s.newLine }

/-- Takes in a block scalar, which is no key. -/
def blockScalar (l : Layout) (literal : Bool) : Except Fault Layout := do
  let l ← l.forgetKey
  let s ← Block.scan literal l.indent l.cursor
  return { l.push s.token with cursor := s.after, keyAllowed := true }

/-- Whether a plain scalar may start with a character, with the rest of the text behind it. -/
def startsPlain (flow : Bool) (a : Char) (rest : List Char) : Bool :=
  if a == '-' then !rest.head?.any isBlank
  else if a == '?' || a == ':' then !flow && !blankNext rest
  else !(isBlank a || ",[]\x7b\x7d#&*!|>'\"%@".toList.contains a || a.toNat == 0x60)

/-- Takes in the next token, of which the first character is `a`. -/
def token (l : Layout) (a : Char) (rest : List Char) : Except Fault Layout :=
  let c := l.cursor
  if c.mark.column = 0 ∧ a = '%' then do
    let l ← l.outermost
    let (t, after) ← Directive.scan l.cursor
    return { l.push t with cursor := after }
  else if markerNext '-' c.mark c.rest then do return (← l.outermost).pushWide .documentStart 3
  else if markerNext '.' c.mark c.rest then do return (← l.outermost).pushWide .documentEnd 3
  else if a = '[' then l.openFlow .flowSequenceStart
  else if a = '\x7b' then l.openFlow .flowMappingStart
  else if a = ']' then l.closeFlow .flowSequenceEnd
  else if a = '\x7d' then l.closeFlow .flowMappingEnd
  else if a = ',' then do
    return { (← l.forgetKey) with keyAllowed := true }.pushWide .flowEntry 1
  else if a = '-' ∧ blankNext rest then l.entry
  else if a = '?' ∧ (l.inFlow ∨ blankNext rest) then l.keySign
  else if a = ':' ∧ (l.inFlow ∨ blankNext rest) then l.valueSign
  else if a = '*' then l.content (Anchor.scan true)
  else if a = '&' then l.content (Anchor.scan false)
  else if a = '!' then l.content (Tag.scan l.inFlow)
  else if a = '|' ∧ !l.inFlow then l.blockScalar true
  else if a = '>' ∧ !l.inFlow then l.blockScalar false
  else if a = '\'' then l.scalar (Quoted.scan true)
  else if a = '"' then l.scalar (Quoted.scan false)
  else if startsPlain l.inFlow a rest then l.scalar (Plain.scan l.inFlow (l.indent + 1))
  else
    .error ⟨"found character that cannot start any token", c.mark,
      some ("while scanning for the next token", c.mark)⟩

/-- Takes in one more token. -/
def next (l : Layout) : Except Fault Layout := do
  let l ← (passBlank (l.cursor.rest.length + 1) l).forgetOldKeys
  let l := l.closeBlocks l.cursor.mark.column
  match l.cursor.rest with
  | [] => l.endOfText
  | a :: rest => l.token a rest

/-- The tokens in front of all possible keys. -/
def certain (l : Layout) : Nat :=
  l.keys.foldl (fun n key => match key with
    | some k => min n k.number
    | none => n) l.count

/-- The first tokens. -/
def settledTokens (l : Layout) : List Token := l.tokens.reverse.take l.settled

/-- Whether the end of the text was read. -/
def atEnd (l : Layout) : Bool := l.tokens.head?.any fun t => t.kind == .streamEnd

/-- The place where a text stops being readable, and what is wrong there. -/
structure Barrier where
  index : Nat
  fault : Fault

/-- Takes in one more token in front of a barrier. The next four characters are needed to
tell which token it is, and the one behind it to tell where it ends. -/
def nextBefore (b : Barrier) (l : Layout) : Except Fault Layout :=
  if b.index < (passBlank (l.cursor.rest.length + 1) l).cursor.mark.index + 4 then .error b.fault
  else match l.next with
    | .error f => .error (if b.index ≤ f.place.index then b.fault else f)
    | .ok l => if b.index ≤ l.cursor.mark.index then .error b.fault else .ok l

/-- Takes in tokens up to the end of the text, or to a barrier in it. -/
def run (barrier : Option Barrier) : (fuel : Nat) → Layout → Tokens
  | 0, l => ⟨l.settledTokens, none⟩
  | fuel + 1, l =>
    match if l.settled < l.count then l.forgetOldKeys else .ok l with
    | .error f => ⟨l.settledTokens, some f⟩
    | .ok l =>
      let l := { l with settled := l.certain }
      if l.atEnd then ⟨l.settledTokens, none⟩
      else match barrier.elim l.next (nextBefore · l) with
        | .error f => ⟨l.settledTokens, some f⟩
        | .ok l => run barrier fuel l

end Layout

/-- Whether a character may stand in a text. -/
def isAllowed (c : Char) : Bool :=
  let n := c.toNat
  n == 0x09 || n == 0x0A || n == 0x0D || (0x20 ≤ n && n ≤ 0x7E) || n == 0x85 ||
    (0xA0 ≤ n && n ≤ 0xFFFD) || 0x10000 ≤ n

/-- The number of bytes of a stretch. A character that would not fit opens the next one. -/
def stretchSize : Nat := 16384

/-- The first character that may not stand in a text: where its stretch starts and where it
is itself, both counted in bytes. `start` is that of the stretch at `offset`. -/
def forbidden? (start offset : Nat) : List Char → Option (Nat × Nat)
  | [] => none
  | c :: rest =>
    let stop := offset + c.utf8Size
    let start := if start + stretchSize < stop then offset else start
    if isAllowed c then forbidden? start stop rest else some (start, offset)

/-- The fault of a text with a character that may not stand in it. -/
def forbiddenCharacter (offset : Nat) : Fault :=
  ⟨"control characters are not allowed" ++
      (if offset = 0 then "" else s!" at position {offset}"), .start, none⟩

/-- The tokens of a text. -/
def Tokens.ofText (text : List Char) : Tokens :=
  let run (barrier : Option Layout.Barrier) : Tokens :=
    Layout.run barrier (2 * text.length + 2) (Layout.start text)
  match forbidden? 0 0 text with
  | none => run none
  | some (start, offset) =>
    let fault := forbiddenCharacter offset
    if start = 0 then ⟨[], some fault⟩ else run (some ⟨start, fault⟩)

end ImageBot.Yaml
