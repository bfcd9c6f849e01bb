import ImageBot.Url.Parser
/-!
# References

A reference names a URL where another one of the web, the base, is known. It is a URL of its
own, or the end of one: from the authority, the path, the query or the fragment on, the rest
being that of the base. It is read first, which takes no more of the base than its scheme,
and resolved then.
-/
namespace ImageBot

namespace Url

/-- What a text names. -/
inductive Reference
  /-- A URL with all its parts. -/
  | whole (url : Url)
  /-- A path from the root, as it was written, and what is behind it. -/
  | fromRoot (path : List (List Char)) (query fragment : Option String)
  /-- A path from where the base is, as it was written, and what is behind it. -/
  | fromHere (path : List (List Char)) (query fragment : Option String)
  | fromQuery (query fragment : Option String)
  | fromFragment (fragment : Option String)
  deriving Repr, DecidableEq

namespace Reference

/-- Reads a reference that has no scheme. Two slashes lead to an authority, which no more of
them may stand before; with a backslash among the first two any number leads there. -/
def relative (scheme : String) (s : List Char) : Except Fault Reference :=
  let behind (s : List Char) : List (List Char) × Option String × Option String :=
    let (path, rest) := splitPath true s
    (path, queryAndFragment true rest)
  match s with
  | [] => .ok (.fromFragment none)
  | '#' :: _ => .ok (.fromFragment (queryAndFragment true s).2)
  | '?' :: _ =>
    let (query, fragment) := queryAndFragment true s
    .ok (.fromQuery query fragment)
  | '/' :: '/' :: rest => (onServer scheme rest).map .whole
  | c :: rest =>
    if !isSlash c then
      let (path, query, fragment) := behind s
      .ok (.fromHere path query fragment)
    else if rest.head?.any isSlash then (onServer scheme (s.dropWhile isSlash)).map .whole
    else
      let (path, query, fragment) := behind rest
      .ok (.fromRoot path query fragment)

/-- Reads a reference for a base with a scheme. The scheme of the base may stand in front of
one that has none, unless two slashes follow. -/
def read (scheme text : String) : Except Fault Reference :=
  let s := closed (trim text.toList)
  match if s.head?.any isLetter then scheme? s else none with
  | none => relative scheme s
  | some (name, rest) =>
    if String.ofList name = scheme ∧ (rest.takeWhile isSlash).length < 2 then relative scheme rest
    else (Url.parse text).map .whole

/-- The path that is reached from a folder. -/
def walk (folder : List String) (path : List (List Char)) : Path :=
  let w := Walk.addAll false ⟨(folder.map String.toList).reverse, false⟩ path
  .segments (w.path.reverse.map String.ofList)

/-- The folders that a path goes through. -/
def folder : Path → List String
  | .segments list => list.dropLast
  | .plain _ => []

/-- The URL that a reference names. -/
def resolve (base : Url) : Reference → Url
  | whole url => url
  | fromRoot path query fragment => { base with path := walk [] path, query, fragment }
  | fromHere path query fragment => { base with path := walk (folder base.path) path, query, fragment }
  | fromQuery query fragment => { base with query, fragment }
  | fromFragment fragment => { base with fragment }

end Reference

/-- The URL that a text names for a base. -/
def join (base : Url) (text : String) : Except Fault Url :=
  (Reference.read base.scheme text).map (·.resolve base)

end Url

end ImageBot
