import ImageBot.Url.Basic
/-!
# Reading URLs

The rules are those of the URL Standard, without a base URL. Blanks and control
characters around the text are cut off. Tabs and line ends inside it count for nothing,
except that in the path of a file they can part the letter of a drive from what follows.
What follows the scheme depends on the kind of the scheme; query and fragment are the
same for all.
-/
namespace ImageBot

namespace Url

/-- A text without the blanks and control characters around it. -/
def trim (s : List Char) : List Char :=
  let outer (c : Char) : Bool := c.toNat ≤ 0x20
  ((s.dropWhile outer).reverse.dropWhile outer).reverse

/-- A tab or a part of a line end. -/
def isGap (c : Char) : Bool := c == '\t' || c == '\n' || c == '\r'

/-- A text without tabs and line ends. -/
def closed (s : List Char) : List Char := s.filter (!isGap ·)

/-- An ASCII letter. -/
def isLetter (c : Char) : Bool := ('a' ≤ c && c ≤ 'z') || ('A' ≤ c && c ≤ 'Z')

/-- An ASCII digit. -/
def isDigit (c : Char) : Bool := '0' ≤ c && c ≤ '9'

/-- A letter in lower case. -/
def lowerLetter (c : Char) : Char := if 'A' ≤ c && c ≤ 'Z' then Char.ofNat (c.toNat + 32) else c

/-- A scheme up to its colon, and what follows. -/
def scheme? : List Char → Option (List Char × List Char)
  | [] => none
  | ':' :: rest => some ([], rest)
  | c :: rest =>
    if isLetter c || isDigit c || c == '+' || c == '-' || c == '.' then
      (scheme? rest).map fun (s, after) => (lowerLetter c :: s, after)
    else none

/-- Whether a character ends the authority. -/
def endsAuthority (special : Bool) (c : Char) : Bool :=
  c == '/' || c == '?' || c == '#' || (special && c == '\\')

/-- What stands before the last `@` of a text, if there is one, and what stands behind it. -/
def splitLastAt (s : List Char) : Option (List Char) × List Char :=
  match s.reverse.span (· != '@') with
  | (_, []) => (none, s)
  | (after, _ :: before) => (some before.reverse, after.reverse)

/-- What is behind the user of an authority and its `@`. -/
def behindUser (user? : Option (List Char)) (s : List Char) : List Char :=
  match user? with
  | some user => s.drop (user.length + 1)
  | none => s

/-- User name and password, encoded. -/
def userinfo (s : List Char) : String × String :=
  let (name, rest) := s.span (· != ':')
  (String.ofList (encode userinfoSet name), String.ofList (encode userinfoSet (rest.drop 1)))

/-- The characters of a host: up to the end of the authority or a colon outside brackets. -/
def splitHost (special : Bool) : (inside : Bool) → List Char → List Char × List Char
  | _, [] => ([], [])
  | inside, c :: rest =>
    if endsAuthority special c || (c == ':' && !inside) then ([], c :: rest)
    else
      let inside := if c == '[' then true else if c == ']' then false else inside
      let (host, after) := splitHost special inside rest
      (c :: host, after)

/-- The digits of a port, and what follows. -/
def readPort : (value : Nat) → (any : Bool) → List Char → Except Fault (Option Nat × List Char)
  | value, any, [] => .ok (if any then some value else none, [])
  | value, any, c :: rest =>
    if isDigit c then
      let next := value * 10 + (c.toNat - 48)
      if 65535 < next then .error .invalidPort else readPort next true rest
    else if endsAuthority true c then .ok (if any then some value else none, c :: rest)
    else .error .invalidPort

/-- The port behind a host, if there is one. The port of the scheme is left out. -/
def portOf (scheme : String) : List Char → Except Fault (Option Nat × List Char)
  | ':' :: rest =>
    match readPort 0 false rest with
    | .error f => .error f
    | .ok (p, after) => .ok (if p == defaultPort scheme then none else p, after)
  | rest => .ok (none, rest)

/-- The authority behind `//`, and what follows. -/
def readAuthority (scheme : String) (s : List Char) : Except Fault (Authority × List Char) := do
  let special := (Kind.of scheme).isSpecial
  let (inside, _) := s.span fun c => !endsAuthority special c
  let (user?, _) := splitLastAt inside
  let rest := behindUser user? s
  if user? == some [] && rest.head?.any (endsAuthority special) then throw .emptyHost
  let (hostText, rest) := splitHost special false rest
  if special && hostText.isEmpty then throw .emptyHost
  let host ← if special then Host.parse hostText else Host.parseOpaque hostText
  if hostText.isEmpty && rest.head? == some ':' then throw .emptyHost
  let (port, rest) ← portOf scheme rest
  let (username, password) := userinfo (user?.getD [])
  let found : Authority := ⟨username, password, host, port⟩
  if !host.isSome && found.userText != "" then throw .emptyHost
  return (found, rest)

/-- The texts between the slashes of a path, and the query and fragment behind it. -/
def splitPath (special : Bool) : List Char → List (List Char) × List Char
  | [] => ([[]], [])
  | c :: rest =>
    if c == '?' || c == '#' then ([[]], c :: rest)
    else
      let (segments, after) := splitPath special rest
      if c == '/' || (special && c == '\\') then ([] :: segments, after)
      else match segments with
        | [] => ([[c]], after)
        | s :: more => ((c :: s) :: more, after)

/-- Whether a segment stands for the one that holds it. -/
def isSingleDot (s : List Char) : Bool :=
  s == ['.'] || s == ['%', '2', 'e'] || s == ['%', '2', 'E']

/-- Whether a segment stands for the one above. -/
def isDoubleDot (s : List Char) : Bool :=
  let dots : List (List Char) := [['.'], ['%', '2', 'e'], ['%', '2', 'E']]
  dots.any fun a => dots.any fun b => s == a ++ b

/-- Whether a segment is the letter of a drive. -/
def isDrive (s : List Char) : Bool :=
  match s with
  | [a, b] => isLetter a && (b == ':' || b == '|')
  | _ => false

/-- Whether nothing goes up from a segment: it is the letter of a drive, perhaps with a
backslash and more behind it. -/
def holdsFast (s : List Char) : Bool := isDrive (s.take 2) && (s.drop 2).head?.all (· == '\\')

/-- The letter of a drive and what is behind it in a segment, if a gap parts the two. -/
def partedDrive? (s : List Char) : Option (List Char × List Char) :=
  match s.dropWhile isGap with
  | [] => none
  | a :: rest =>
    match rest.dropWhile isGap with
    | ':' :: b :: more =>
      let behind := closed more
      if isLetter a && isGap b && !behind.isEmpty then some ([a, ':'], behind) else none
    | _ => none

/-- A path in reverse while it is read, and whether it starts with a whole segment that is
the letter of a drive. -/
structure Walk where
  path : List (List Char)
  drive : Bool

/-- Adds a segment as it was written. A segment of dots goes up or stays; as the last segment
it leaves the path open with a slash. What is behind a drive in the first segment of a file
is a segment of its own, whatever it is. -/
def Walk.add (w : Walk) (file last : Bool) (raw : List Char) : Walk :=
  let s := encode pathSet (closed raw)
  match if file && w.path.isEmpty then partedDrive? raw else none with
  | some (drive, behind) => ⟨[encode pathSet behind, drive], w.drive⟩
  | none =>
    if isDoubleDot s then
      let above := match w.path with
        | [] => []
        | top :: below => if holdsFast top then top :: below else below
      ⟨if last then [] :: above else above, w.drive⟩
    else if isSingleDot s then ⟨if last then [] :: w.path else w.path, w.drive⟩
    else if file && w.path.isEmpty && isDrive s then ⟨[s.take 1 ++ [':']], true⟩
    else ⟨s :: w.path, w.drive⟩

/-- Adds segments as they were written. -/
def Walk.addAll (file : Bool) : Walk → List (List Char) → Walk
  | w, [] => w
  | w, s :: rest => addAll file (w.add file rest.isEmpty s) rest

/-- The path whose text starts behind its first slash, whether it starts with a drive, and
what is behind it. -/
def readPath (kind : Kind) (s : List Char) : List String × Bool × List Char :=
  let (raw, rest) := splitPath kind.isSpecial s
  let w := Walk.addAll (kind == .file) ⟨[], false⟩ raw
  (w.path.reverse.map String.ofList, w.drive, rest)

/-- The path whose text starts behind its first slash, and what is behind it. -/
def pathOf (kind : Kind) (s : List Char) : List String × List Char :=
  let (path, _, rest) := readPath kind s
  (path, rest)

/-- The path of a file without the empty segments it starts with. -/
def trimLeadingEmpty (path : List String) : List String :=
  match path.dropWhile (·.isEmpty) with
  | [] => [""]
  | kept => kept

/-- Query and fragment. -/
def queryAndFragment (special : Bool) (s : List Char) : Option String × Option String :=
  let set := if special then specialQuerySet else querySet
  let fragmentOf (s : List Char) : Option String :=
    match s with
    | '#' :: rest => some (String.ofList (encode fragmentSet rest))
    | _ => none
  match s with
  | '?' :: rest =>
    let (q, after) := rest.span (· != '#')
    (some (String.ofList (encode set q)), fragmentOf after)
  | s => (none, fragmentOf s)

/-- A URL from its parts, query and fragment to be read. -/
def finish (scheme : String) (authority : Option Authority) (path : Path) (rest : List Char) : Url :=
  let (query, fragment) := queryAndFragment (Kind.of scheme).isSpecial rest
  ⟨scheme, authority, path, query, fragment⟩

/-- A slash or a backslash. -/
def isSlash (c : Char) : Bool := c == '/' || c == '\\'

/-- A web URL from its authority on. -/
def onServer (scheme : String) (s : List Char) : Except Fault Url := do
  let (found, rest) ← readAuthority scheme s
  let inner := match rest with
    | '/' :: more => more
    | '\\' :: more => more
    | rest => rest
  let (path, rest) := pathOf .web inner
  return finish scheme (some found) (.segments path) rest

/-- A web URL behind its scheme. Any number of slashes leads to the authority. -/
def web (scheme : String) (s : List Char) : Except Fault Url :=
  onServer scheme (s.dropWhile isSlash)

/-- Any other URL behind its scheme. -/
def other (scheme : String) (s : List Char) : Except Fault Url :=
  match s with
  | '/' :: '/' :: rest => do
    let (found, rest) ← readAuthority scheme rest
    match rest with
    | [] => return finish scheme (some found) (.segments []) []
    | c :: more =>
      if c == '?' || c == '#' then return finish scheme (some found) (.segments []) rest
      else
        let (path, rest) := pathOf .other (if c == '/' then more else rest)
        return finish scheme (some found) (.segments path) rest
  | '/' :: rest =>
    let (path, rest) := pathOf .other rest
    .ok (finish scheme none (.segments path) rest)
  | s =>
    let (text, rest) := s.span fun c => c != '?' && c != '#'
    .ok (finish scheme none (.plain (String.ofList (encode controlSet text))) rest)

/-- The authority of a file on this host. -/
def thisHost : Authority := ⟨"", "", .domain "", none⟩

/-- A file URL from its host and its path, query and fragment to be read. -/
def fileWith (authority : Authority) (path : List String) (rest : List Char) : Url :=
  finish "file" (some authority) (.segments (trimLeadingEmpty path)) (closed rest)

/-- A file URL without a host, of which the path starts at the given text. -/
def localFile (s : List Char) : Url :=
  let (path, rest) := pathOf .file s
  fileWith thisHost path rest

/-- What is behind a slash that comes next, be there gaps in front of it. -/
def behindSlash? (s : List Char) : Option (List Char) :=
  match s.dropWhile isGap with
  | [] => none
  | c :: rest => if c == '/' || c == '\\' then some rest else none

/-- A file URL behind its scheme, with its gaps. The host `localhost` is no host, and a path
that starts with a drive leaves the host out. -/
def file (s : List Char) : Except Fault Url :=
  match behindSlash? s with
  | none => .ok (localFile s)
  | some one =>
    match behindSlash? one with
    | none => .ok (localFile one)
    | some two =>
      let (before, after) := two.span fun c => !endsAuthority true c
      let hostText := closed before
      if isDrive hostText then .ok (localFile two)
      else if hostText.isEmpty then .ok (localFile after)
      else do
        let host ← Host.parse hostText
        if host == .domain "localhost" then return localFile after
        let (path, drive, rest) := readPath .file ((behindSlash? after).getD after)
        return fileWith (if drive then thisHost else { thisHost with host := host }) path rest

/-- Reads a URL. -/
def parse (s : String) : Except Fault Url :=
  let raw := trim s.toList
  let text := closed raw
  match text.head? with
  | none => .error .relativeWithoutBase
  | some c =>
    if !isLetter c then .error .relativeWithoutBase
    else match scheme? text with
      | none => .error .relativeWithoutBase
      | some (name, rest) =>
        let scheme := String.ofList name
        match Kind.of scheme with
        | .web => web scheme rest
        | .file => file ((raw.dropWhile (· != ':')).drop 1)
        | .other => other scheme rest

end Url

end ImageBot
