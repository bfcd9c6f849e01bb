import ImageBot.Yaml.Layout
import ImageBot.Yaml.Node
/-!
# From tokens to a tree

Each production takes tokens from a state and gives what it read, together with the state
behind it or the fault that stopped it. A value may be left out where its place is clear;
an empty scalar stands for it there.
-/
namespace ImageBot.Yaml

/-- What is left to read: tokens, the fault behind them, the names of the anchors met so
far with their numbers, and what handles of tags stand for. -/
structure Feed where
  tokens : List Token
  fault : Fault
  names : List (String × Nat)
  scopes : List (String × String)

/-- What was read, and how it goes on. -/
abbrev Parsed (α : Type) := α × Except Fault Feed

/-- The fault of a text of which all tokens were taken. -/
def exhausted : Fault := ⟨"unexpected end of tokens", .start, none⟩

/-- What handles stand for if no directive tells. -/
def defaultScopes : List (String × String) := [("!", "!"), ("!!", "tag:yaml.org,2002:")]

namespace Feed

/-- The next token. -/
def peek (s : Feed) : Except Fault Token :=
  match s.tokens with
  | t :: _ => .ok t
  | [] => .error s.fault

/-- The feed behind the next token. -/
def skip (s : Feed) : Feed := { s with tokens := s.tokens.drop 1 }

/-- The number for an anchor of a name, which counts as the last one of this name. -/
def name (s : Feed) (anchor : String) : Nat × Feed :=
  let n := s.names.length
  (n, { s with names := (anchor, n) :: s.names.filter fun m => m.1 != anchor })

end Feed

/-- What stands in front of a value. -/
structure Properties where
  start : Mark
  anchor : Option String
  tag : Option String

/-- The whole tag for a handle and a suffix. -/
def wholeTag (scopes : List (String × String)) (start m : Mark) (handle suffix : String) :
    Except Fault String :=
  if handle.isEmpty then .ok suffix
  else match scopes.lookup handle with
    | some stem => .ok (stem ++ suffix)
    | none => .error ⟨"found undefined tag handle", m, some ("while parsing a node", start)⟩

/-- Reads a tag, if one comes next: its handle, its suffix and its place. -/
def tagParts (s : Feed) : Except Fault (Option (String × String × Mark) × Feed) := do
  match ← s.peek with
  | ⟨.tag handle suffix, m, _⟩ => return (some (handle, suffix, m), s.skip)
  | _ => return (none, s)

/-- Reads an anchor, if one comes next. -/
def anchorName (s : Feed) : Except Fault (Option String × Feed) := do
  match ← s.peek with
  | ⟨.anchor name, _, _⟩ => return (some name, s.skip)
  | _ => return (none, s)

/-- Reads an anchor and a tag in either order, at most one of each. -/
def properties (s : Feed) : Except Fault (Properties × Feed) := do
  let start := (← s.peek).start
  let (first, s) ← anchorName s
  let (tag, s) ← tagParts s
  let (anchor, s) ← match first, tag with
    | none, some _ => anchorName s
    | _, _ => pure (first, s)
  discard s.peek
  let tag ← match tag with
    | some (handle, suffix, m) => (wholeTag s.scopes start m handle suffix).map some
    | none => pure none
  return (⟨start, anchor, tag⟩, s)

/-- Gives a number to the anchor of a value. -/
def Properties.register (p : Properties) (s : Feed) : Option Nat × Feed :=
  match p.anchor with
  | some name => let (n, s) := s.name name; (some n, s)
  | none => (none, s)

/-- An empty scalar. -/
def emptyScalar (m : Mark) (s : Feed) : Parsed Node := (.scalar m none .absent, .ok s)

/-- A value of which nothing but the properties may be there. -/
def bare (block : Bool) (p : Properties) (t : Token) (anchor : Option Nat) (s : Feed) :
    Parsed Node :=
  if p.anchor.isSome || p.tag.isSome then (.scalar p.start anchor ⟨p.tag, .plain, ""⟩, .ok s)
  else
    let what := if block then "while parsing a block node" else "while parsing a flow node"
    let f : Fault := ⟨"did not find expected node content", t.start, some (what, p.start)⟩
    (.broken f, .error f)

/-- An item with the items behind it. -/
def Items.following (value : Parsed Node) (rest : Feed → Parsed Items) : Parsed Items :=
  match value.2 with
  | .error f => (.item value.1 (.broken f), .error f)
  | .ok s => let r := rest s; (.item value.1 r.1, r.2)

/-- Items that cannot be read. -/
def Items.failed (f : Fault) : Parsed Items := (.broken f, .error f)

/-- Entries that cannot be read. -/
def Entries.failed (f : Fault) : Parsed Entries := (.broken f, .error f)

/-- An entry with the entries behind it. -/
def Entries.following (key : Parsed Node) (value : Feed → Parsed Node)
    (rest : Feed → Parsed Entries) : Parsed Entries :=
  match key.2 with
  | .error f => (.entry key.1 (.broken f) (.broken f), .error f)
  | .ok s =>
    let v := value s
    match v.2 with
    | .error f => (.entry key.1 v.1 (.broken f), .error f)
    | .ok s => let r := rest s; (.entry key.1 v.1 r.1, r.2)

/-- A mapping of a single entry. -/
def singlePair (m : Mark) (key : Parsed Node) (value : Feed → Parsed Node) : Parsed Node :=
  let entries := Entries.following key value fun s => (.closed, .ok s)
  (.mapping m none entries.1, entries.2)

/-- Signs that show that the value of a block is left out. -/
def endsBlockPart : TokenKind → Bool
  | .key | .value | .blockEnd => true
  | _ => false

/-- Signs that show that an item of a block sequence is left out. -/
def endsBlockItem : TokenKind → Bool
  | .blockEntry | .blockEnd => true
  | _ => false

/-- Signs that show that an item of a sequence without an end of its own is left out. -/
def endsLooseItem (kind : TokenKind) : Bool := endsBlockPart kind || endsBlockItem kind

/-- Signs that show that the value of a pair in a flow collection is left out. -/
def endsFlowValue (close : TokenKind) (kind : TokenKind) : Bool := kind == .flowEntry || kind == close

/-- Signs that show that the key of a pair in a flow collection is left out. -/
def endsFlowKey (close : TokenKind) (kind : TokenKind) : Bool :=
  kind == .value || endsFlowValue close kind

mutual
/-- Reads a value. Where it may be a block, it may also be a sequence without an
indentation of its own, which has no end of its own either. -/
def node (block loose : Bool) : (fuel : Nat) → Feed → Parsed Node
  | 0, _ => (.broken exhausted, .error exhausted)
  | fuel + 1, s =>
    match s.peek with
    | .error f => (.broken f, .error f)
    | .ok ⟨.alias name, m, _⟩ =>
      match s.names.lookup name with
      | some n => (.alias m n, .ok s.skip)
      | none => let f : Fault := ⟨"unknown anchor", m, none⟩; (.broken f, .error f)
    | .ok _ =>
      match properties s with
      | .error f => (.broken f, .error f)
      | .ok (p, s) =>
        match s.peek with
        | .error f => (.broken f, .error f)
        | .ok t =>
          let (anchor, named) := p.register s
          match t.kind with
          | .blockEntry =>
            if loose then
              let r := looseItems fuel named
              (.sequence p.start anchor r.1, r.2)
            else bare block p t anchor named
          | .scalar text style =>
            (.scalar p.start anchor ⟨p.tag, style, text⟩, .ok named.skip)
          | .flowSequenceStart =>
            let r := flowItems t.start true fuel named.skip
            (.sequence p.start anchor r.1, r.2)
          | .flowMappingStart =>
            let r := flowEntries t.start true fuel named.skip
            (.mapping p.start anchor r.1, r.2)
          | .blockSequenceStart =>
            if block then
              let r := blockItems t.start fuel named.skip
              (.sequence p.start anchor r.1, r.2)
            else bare block p t anchor named
          | .blockMappingStart =>
            if block then
              let r := blockEntries t.start fuel named.skip
              (.mapping p.start anchor r.1, r.2)
            else bare block p t anchor named
          | _ => bare block p t anchor named
/-- Reads a value, or leaves it out in front of certain signs. It is then found at the
given place, or at the sign if none is given. -/
def part (block loose : Bool) (ends : TokenKind → Bool) (place : Option Mark) :
    (fuel : Nat) → Feed → Parsed Node
  | 0, _ => (.broken exhausted, .error exhausted)
  | fuel + 1, s =>
    match s.peek with
    | .error f => (.broken f, .error f)
    | .ok t => if ends t.kind then emptyScalar (place.getD t.start) s else node block loose fuel s
/-- Reads the items of a block sequence. -/
def blockItems (start : Mark) : (fuel : Nat) → Feed → Parsed Items
  | 0, _ => Items.failed exhausted
  | fuel + 1, s =>
    match s.peek with
    | .error f => Items.failed f
    | .ok t =>
      match t.kind with
      | .blockEntry =>
        Items.following (part true false endsBlockItem (some t.stop) fuel s.skip) (blockItems start fuel)
      | .blockEnd => (.closed, .ok s.skip)
      | _ =>
        Items.failed ⟨"did not find expected '-' indicator", t.start,
          some ("while parsing a block collection", start)⟩
/-- Reads the items of a block sequence without an indentation of its own. -/
def looseItems : (fuel : Nat) → Feed → Parsed Items
  | 0, _ => Items.failed exhausted
  | fuel + 1, s =>
    match s.peek with
    | .error f => Items.failed f
    | .ok t =>
      match t.kind with
      | .blockEntry =>
        Items.following (part true false endsLooseItem (some t.stop) fuel s.skip) (looseItems fuel)
      | _ => (.closed, .ok s)
/-- Reads the entries of a block mapping. -/
def blockEntries (start : Mark) : (fuel : Nat) → Feed → Parsed Entries
  | 0, _ => Entries.failed exhausted
  | fuel + 1, s =>
    match s.peek with
    | .error f => Entries.failed f
    | .ok t =>
      match t.kind with
      | .key =>
        Entries.following (part true true endsBlockPart (some t.stop) fuel s.skip) (blockValue fuel)
          (blockEntries start fuel)
      | .blockEnd => (.closed, .ok s.skip)
      | _ =>
        Entries.failed ⟨"did not find expected key", t.start, some ("while parsing a block mapping", start)⟩
/-- Reads the value of an entry of a block mapping. -/
def blockValue : (fuel : Nat) → Feed → Parsed Node
  | 0, _ => (.broken exhausted, .error exhausted)
  | fuel + 1, s =>
    match s.peek with
    | .error f => (.broken f, .error f)
    | .ok t =>
      if t.kind == .value then part true true endsBlockPart (some t.stop) fuel s.skip
      else emptyScalar t.start s
/-- Reads the items of a flow sequence. -/
def flowItems (start : Mark) (first : Bool) : (fuel : Nat) → Feed → Parsed Items
  | 0, _ => Items.failed exhausted
  | fuel + 1, s =>
    match s.peek with
    | .error f => Items.failed f
    | .ok t =>
      if t.kind == .flowSequenceEnd then (.closed, .ok s.skip)
      else if !first && t.kind != .flowEntry then
        Items.failed ⟨"did not find expected ',' or ']'", t.start,
          some ("while parsing a flow sequence", start)⟩
      else
        let s := if first then s else s.skip
        match s.peek with
        | .error f => Items.failed f
        | .ok t =>
          if t.kind == .flowSequenceEnd then (.closed, .ok s.skip)
          else if t.kind == .key then
            Items.following
              (singlePair t.start (pairKey fuel s.skip) (flowValue .flowSequenceEnd fuel))
              (flowItems start false fuel)
          else Items.following (node false false fuel s) (flowItems start false fuel)
/-- Reads the key of a pair that is an item of a flow sequence. The sign in front of which
it is left out is gone with it. -/
def pairKey : (fuel : Nat) → Feed → Parsed Node
  | 0, _ => (.broken exhausted, .error exhausted)
  | fuel + 1, s =>
    match s.peek with
    | .error f => (.broken f, .error f)
    | .ok t =>
      if endsFlowKey .flowSequenceEnd t.kind then emptyScalar t.stop s.skip
      else node false false fuel s
/-- Reads the entries of a flow mapping. -/
def flowEntries (start : Mark) (first : Bool) : (fuel : Nat) → Feed → Parsed Entries
  | 0, _ => Entries.failed exhausted
  | fuel + 1, s =>
    match s.peek with
    | .error f => Entries.failed f
    | .ok t =>
      if t.kind == .flowMappingEnd then (.closed, .ok s.skip)
      else if !first && t.kind != .flowEntry then
        Entries.failed ⟨"did not find expected ',' or '\x7d'", t.start,
          some ("while parsing a flow mapping", start)⟩
      else
        let s := if first then s else s.skip
        match s.peek with
        | .error f => Entries.failed f
        | .ok t =>
          if t.kind == .flowMappingEnd then (.closed, .ok s.skip)
          else if t.kind == .key then
            Entries.following (part false false (endsFlowKey .flowMappingEnd) none fuel s.skip)
              (flowValue .flowMappingEnd fuel) (flowEntries start false fuel)
          else
            Entries.following (node false false fuel s) (part false false (fun _ => true) none fuel)
              (flowEntries start false fuel)
/-- Reads the value of a pair in a flow collection. -/
def flowValue (close : TokenKind) : (fuel : Nat) → Feed → Parsed Node
  | 0, _ => (.broken exhausted, .error exhausted)
  | fuel + 1, s =>
    match s.peek with
    | .error f => (.broken f, .error f)
    | .ok t =>
      if t.kind == .value then part false false (endsFlowValue close) none fuel s.skip
      else emptyScalar t.start s
end

/-- The directives in front of a document. -/
structure Directives where
  versioned : Bool
  scopes : List (String × String)

/-- Reads directives and what opens a document behind them. -/
def directives : (fuel : Nat) → Directives → Feed → Except Fault Feed
  | 0, _, s => .error s.fault
  | fuel + 1, d, s => do
    let t ← s.peek
    match t.kind with
    | .version major minor =>
      if d.versioned then throw ⟨"found duplicate %YAML directive", t.start, none⟩
      if major ≠ 1 ∨ (minor ≠ 1 ∧ minor ≠ 2) then
        throw ⟨"found incompatible YAML document", t.start, none⟩
      directives fuel { d with versioned := true } s.skip
    | .tagScope handle stem =>
      if (d.scopes.lookup handle).isSome then
        throw ⟨"found duplicate %TAG directive", t.start, none⟩
      directives fuel { d with scopes := (handle, stem) :: d.scopes } s.skip
    | .documentStart => return { s.skip with scopes := d.scopes ++ defaultScopes }
    | _ => throw ⟨"did not find expected <document start>", t.start, none⟩

/-- Whether a token closes a document that has nothing in it. -/
def endsDocument : TokenKind → Bool
  | .version .. | .tagScope .. | .documentStart | .documentEnd | .streamEnd => true
  | _ => false

/-- Whether a document needs a sign for its start here. -/
def opensDocument : TokenKind → Bool
  | .version .. | .tagScope .. | .documentStart => true
  | _ => false

/-- Whether there is more than the end of the text behind signs for the end of a document. -/
def moreFollows (tokens : List Token) : Bool :=
  match tokens.dropWhile fun t => t.kind == .documentEnd with
  | t :: _ => t.kind != .streamEnd
  | [] => true

namespace Document

/-- The document of a value that was read: what follows it shows how it ends. -/
def ofRoot (root : Parsed Node) : Document :=
  match root.2 with
  | .error _ => ⟨some root.1, none, false⟩
  | .ok s =>
    match s.peek with
    | .error f => ⟨some root.1, some f, false⟩
    | .ok _ => ⟨some root.1, none, moreFollows s.tokens⟩

/-- The first document of a feed. A mark for its start may be left out if nothing is told
about it. -/
def ofFeed (fuel : Nat) (s : Feed) : Document :=
  match s.peek with
  | .error f => ⟨some (.broken f), none, false⟩
  | .ok t =>
    if t.kind == .streamEnd then ⟨none, none, false⟩
    else if opensDocument t.kind then
      match directives fuel ⟨false, []⟩ s with
      | .error f => ⟨some (.broken f), none, false⟩
      | .ok s => ofRoot (part true false endsDocument none fuel s)
    else ofRoot (node true false fuel s)

/-- The first document of a text. -/
def ofText (text : List Char) : Document :=
  let tokens := Tokens.ofText text
  let s : Feed := ⟨tokens.list, tokens.fault.getD exhausted, [], defaultScopes⟩
  match s.peek with
  | .error f => ⟨some (.broken f), none, false⟩
  | .ok _ => ofFeed (3 * tokens.list.length + 8) s.skip

end Document

end ImageBot.Yaml
