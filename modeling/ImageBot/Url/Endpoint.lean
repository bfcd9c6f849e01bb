import ImageBot.Url.Parser
/-!
# Paths below a URL

Segments are added to the path of a URL as plain text: slashes, question marks and the
like in them are encoded. Tabs and line ends are dropped, and segments of dots do not
name anything.
-/
namespace ImageBot

namespace Url

/-- The path without an empty segment at its end. The path `/` stays. -/
def dropEmptyEnd : List String → List String
  | [] => []
  | [s] => [s]
  | list => if list.getLast? == some "" then list.dropLast else list

/-- A path with one more segment, which takes the place of the empty segment of `/`. -/
def pushSegment (special : Bool) (path : List String) (segment : String) : List String :=
  if segment = "." ∨ segment = ".." then path
  else
    let set := if special then specialSegmentSet else segmentSet
    let text := segment.toList.filter fun c => c != '\t' && c != '\n' && c != '\r'
    let s := encode set text
    let kept := if path == [""] then [] else path
    if isDoubleDot s then kept.dropLast ++ [""]
    else if isSingleDot s then kept ++ [""]
    else kept ++ [String.ofList s]

/-- The URL with segments added below its path. A URL with an opaque path has nothing
below it. -/
def below (u : Url) (segments : List String) : Except Fault Url :=
  match u.path with
  | .plain _ => .error .noHierarchy
  | .segments list =>
    let special := (Kind.of u.scheme).isSpecial
    .ok { u with path := .segments (segments.foldl (pushSegment special) (dropEmptyEnd list)) }

end Url

end ImageBot
