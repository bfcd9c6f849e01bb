import ImageBot.Json.Printer
import ImageBot.Url.Form
import ImageBot.Url.Parser
/-!
# Requests

A request is built step by step and says what is wanted; whether it can be sent shows
only when it is. Its query pairs are added to those of its URL in the order given.
-/
namespace ImageBot.Http

/-- The methods in use. -/
inductive Method
  | get
  | post
  | put
  deriving Repr, DecidableEq

/-- What a request carries. -/
inductive Body
  | json (value : Json.Value)
  | raw (bytes : List UInt8)
  deriving Repr

/-- A request. -/
structure Request where
  method : Method
  url : String
  headers : List (String × String)
  pairs : List (String × String)
  body : Option Body
  deriving Repr

namespace Request

/-- A request with nothing but a method and an address. -/
def bare (method : Method) (url : String) : Request := ⟨method, url, [], [], none⟩

/-- Gives a header a value, in place of the one it has under just this name. -/
def setHeader (name value : String) : List (String × String) → List (String × String)
  | [] => [(name, value)]
  | (other, v) :: rest =>
    if other = name then (name, value) :: rest else (other, v) :: setHeader name value rest

/-- With a header. -/
def header (r : Request) (name value : String) : Request :=
  { r with headers := setHeader name value r.headers }

/-- With one more query pair. -/
def param (r : Request) (name value : String) : Request := { r with pairs := r.pairs ++ [(name, value)] }

/-- With an access token. -/
def bearer (r : Request) (token : String) : Request := r.header "Authorization" ("Bearer " ++ token)

/-- With a JSON body. -/
def json (r : Request) (value : Json.Value) : Request := { r with body := some (.json value) }

/-- With a body of bytes of some type. -/
def raw (r : Request) (bytes : List UInt8) (contentType : String) : Request :=
  { r with body := some (.raw bytes) }.header "Content-Type" contentType

/-- The URL with the query pairs. -/
def fullUrl (r : Request) : Except Url.Fault Url :=
  match Url.parse r.url with
  | .ok u => .ok (u.withPairs r.pairs)
  | .error f => .error f

end Request

end ImageBot.Http
