import ImageBot.Json.Decode
import ImageBot.Text.Blank
import ImageBot.Text.Utf8
/-!
# Responses

A response holds each header once, under its name in lower case. Of several values the
last one made of visible ASCII, spaces and tabs is kept; other values are dropped.
-/
namespace ImageBot.Http

open Text

/-- A response. -/
structure Response where
  status : Nat
  headers : List (String × String)
  body : List UInt8
  deriving Repr, DecidableEq

/-- Whether a byte may be shown in a header. -/
def isVisible (b : UInt8) : Bool := b == 0x09 || (0x20 ≤ b && b < 0x7F)

/-- The text of a header value, if all of it is visible. -/
def headerText? (value : List UInt8) : Option String :=
  if value.all isVisible then some (String.ofList (value.map fun b => Char.ofNat b.toNat)) else none

/-- Puts a value under a name, in place of the one that is there. -/
def putHeader (name value : String) : List (String × String) → List (String × String)
  | [] => [(name, value)]
  | (other, v) :: rest =>
    if other = name then (name, value) :: rest else (other, v) :: putHeader name value rest

/-- The headers of a response from those received. -/
def collectHeaders (received : List (String × List UInt8)) : List (String × String) :=
  received.foldl (fun kept (name, value) =>
    match headerText? value with
    | some text => putHeader (Text.lower name) text kept
    | none => kept) []

namespace Response

/-- The body as text. -/
def text (r : Response) : String := Utf8.textLossy r.body

/-- Whether the status is one of success. -/
def isSuccess (r : Response) : Bool := 200 ≤ r.status && r.status < 300

/-- The type of the body, if it is told. -/
def contentType (r : Response) : Option String := r.headers.lookup "content-type"

/-- Decodes the body. -/
def decode {α : Type} (r : Response) (read : Json.Decoder α) : Except Json.Error α :=
  Json.decode read r.body

end Response

end ImageBot.Http
