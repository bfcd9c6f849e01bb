import ImageBot.Http.Failure
import ImageBot.Http.Response
/-!
# Replies

A reply is what becomes of a request that the network is asked to carry: an answer, of which
the body may get lost, or none. The body of an answer may be coded, as its headers say. What
such a body stands for is part of the reply, and so are the reasons of all that fails.
-/
namespace ImageBot.Http

open Text

/-- What a coded body stands for. -/
inductive Decoding
  | content (bytes : List UInt8)
  | fault (cause : String)
  deriving Repr, DecidableEq

/-- The body of an answer. -/
inductive Payload
  /-- All of it arrives. What it is decoded to matters only where it is coded. -/
  | whole (bytes : List UInt8) (decoded : Decoding)
  /-- Not all of it arrives. -/
  | lost (why : Interruption)
  deriving Repr, DecidableEq

/-- A body that is what it stands for. -/
def Payload.plain (bytes : List UInt8) : Payload := whole bytes (.content bytes)

/-- What becomes of a request. -/
inductive Reply
  /-- An answer arrives, up to its body at least. -/
  | answered (status : Nat) (headers : List (String × List UInt8)) (payload : Payload)
  /-- The request is sent, and no answer arrives. -/
  | lost (why : Interruption)
  /-- There is no connection to send the request by. -/
  | unreachable (why : Interruption)
  deriving Repr, DecidableEq

/-- The values of the headers with a name. -/
def headerValues (name : String) (headers : List (String × List UInt8)) : List (List UInt8) :=
  (headers.filter (lower ·.1 == name)).map (·.2)

/-- Whether headers say that a body is coded. One whose length is told as zero is not. -/
def isCoded (headers : List (String × List UInt8)) : Bool :=
  let told := headerValues "content-encoding" headers ++ headerValues "transfer-encoding" headers
  (told.contains (Utf8.bytes "gzip") || told.contains (Utf8.bytes "br")) &&
    (headerValues "content-length" headers).head? != some (Utf8.bytes "0")

/-- The headers of a body that was coded, without those about its coding. -/
def withoutCoding (headers : List (String × List UInt8)) : List (String × List UInt8) :=
  headers.filter fun h => lower h.1 != "content-encoding" && lower h.1 != "content-length"

/-- The headers of an answer that are passed on. -/
def passed (headers : List (String × List UInt8)) : List (String × List UInt8) :=
  if isCoded headers then withoutCoding headers else headers

/-- The body of an answer, decoded if it is coded. An empty body is as it is. -/
def Payload.content (coded : Bool) : Payload → Except Failure (List UInt8)
  | lost why => .error ⟨.body, none, why⟩
  | whole bytes decoded =>
    if !coded || bytes.isEmpty then .ok bytes
    else match decoded with
      | .content bytes => .ok bytes
      | .fault cause => .error ⟨.decode, none, .broken cause⟩

/-- What a reply means to who sent a request to a URL, and is not sent on. -/
def Reply.interpret (url : Url) : Reply → Except Failure Response
  | answered status headers payload =>
    (payload.content (isCoded headers)).map fun body =>
      ⟨status, collectHeaders (passed headers), body⟩
  | lost why => .error ⟨.request, some url, why⟩
  | unreachable why => .error ⟨.request, some url, why⟩

end ImageBot.Http
