import ImageBot.Decimal.Integer
import ImageBot.Json.Decode
import ImageBot.Json.Printer
/-!
# What an image search answers

An answer has some figures about the search and a list of items, each with a link to
the image found and a descriptor of it. Every part may be missing or `null`, and then has
its empty value, so a sparsely filled answer is still of use. The number of results comes
as an integer or as decimal text.
-/
namespace ImageBot.Search

open Decimal Json

/-- Figures about a search. -/
structure Information where
  totalResults : Int
  deriving Repr, DecidableEq

/-- Details of an image. -/
structure Descriptor where
  contextLink : String
  height : Binary64
  width : Binary64
  byteSize : Int
  thumbnailLink : String
  thumbnailHeight : Binary64
  thumbnailWidth : Binary64
  deriving Repr, DecidableEq

/-- One result of a search. -/
structure Item where
  title : String
  htmlTitle : String
  link : String
  displayLink : String
  snippet : String
  htmlSnippet : String
  mime : String
  fileFormat : String
  image : Descriptor
  deriving Repr, DecidableEq

/-- The answer to a search. -/
structure Answer where
  information : Information
  items : List Item
  deriving Repr, DecidableEq

/-- The integer that a text stands for; the empty text stands for zero. -/
def totalOfText (s : String) : Except Problem Int :=
  if s.isEmpty then .ok 0
  else match readInt 64 s.toList with
    | .ok n => .ok n
    | .error fault => .error ⟨.shape fault.message, none, []⟩

/-- A number of results: an integer, a text, or `null` for zero. -/
def totalResults : Decoder Int := fun depth node =>
  match node.toValue depth with
  | .error p => .error p
  | .ok .null => .ok 0
  | .ok (.string s) => totalOfText s
  | .ok (.number (.int n)) => if n < 2 ^ 63 then .ok n else .error noVariant
  | .ok _ => .error noVariant
where
  /-- The value is neither an integer nor a text. -/
  noVariant : Problem := ⟨.shape "data did not match any variant of untagged enum Raw", none, []⟩

/-- Figures about a search. -/
def informationRecord : Record Information :=
  ⟨"struct SearchInformation", ⟨0⟩,
    [⟨"totalResults", fun depth node s => (totalResults depth node).map fun n => { s with totalResults := n },
      false, false⟩]⟩

/-- A text that may be missing. -/
def textField {σ : Type} (name : String) (put : String → σ → σ) : Json.Field σ :=
  .defaulted name "" .string put

/-- A number that may be missing. -/
def floatField {σ : Type} (name : String) (put : Binary64 → σ → σ) : Json.Field σ :=
  .defaulted name .zero .float put

/-- Details of an image. -/
def descriptorRecord : Record Descriptor :=
  ⟨"struct ImageDescriptor", ⟨"", .zero, .zero, 0, "", .zero, .zero⟩,
    [textField "contextLink" fun a d => { d with contextLink := a },
      floatField "height" fun a d => { d with height := a },
      floatField "width" fun a d => { d with width := a },
      .defaulted "byteSize" 0 .int64 fun a d => { d with byteSize := a },
      textField "thumbnailLink" fun a d => { d with thumbnailLink := a },
      floatField "thumbnailHeight" fun a d => { d with thumbnailHeight := a },
      floatField "thumbnailWidth" fun a d => { d with thumbnailWidth := a }]⟩

/-- One result. -/
def itemRecord : Record Item :=
  ⟨"struct SearchItem", ⟨"", "", "", "", "", "", "", "", descriptorRecord.empty⟩,
    [textField "title" fun a i => { i with title := a },
      textField "htmlTitle" fun a i => { i with htmlTitle := a },
      textField "link" fun a i => { i with link := a },
      textField "displayLink" fun a i => { i with displayLink := a },
      textField "snippet" fun a i => { i with snippet := a },
      textField "htmlSnippet" fun a i => { i with htmlSnippet := a },
      textField "mime" fun a i => { i with mime := a },
      textField "fileFormat" fun a i => { i with fileFormat := a },
      .defaulted "image" descriptorRecord.empty descriptorRecord.decode fun a i => { i with image := a }]⟩

/-- An answer. -/
def answerRecord : Record Answer :=
  ⟨"struct SearchResponse", ⟨informationRecord.empty, []⟩,
    [.defaulted "searchInformation" informationRecord.empty informationRecord.decode
        fun a s => { s with information := a },
      .defaulted "items" [] (.list itemRecord.decode) fun a s => { s with items := a }]⟩

/-- Decodes an answer. -/
def Answer.decode (document : List UInt8) : Except Error Answer :=
  Json.decode answerRecord.decode document

end ImageBot.Search
