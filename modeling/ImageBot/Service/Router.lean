import ImageBot.Service.Basic
import ImageBot.Service.MediaType
/-!
# The service over HTTP

There are three places: `/commands` takes chat messages, `/health` tells that the service
runs, and `/stats` reports the metrics. A path is compared as it is written. Pages of any
origin may use the service, and a request that only asks for this permission is answered
anywhere.
-/
namespace ImageBot

open Http Json

/-- A request to the service as it arrives. -/
structure Incoming where
  method : String
  target : String
  headers : List (String × List UInt8)
  body : List UInt8
  deriving Repr, DecidableEq

/-- What the service sends back. -/
structure Outgoing where
  status : Nat
  headers : List (String × String)
  body : List UInt8
  deriving Repr, DecidableEq

/-- The places of the service. -/
inductive Place
  | commands
  | health
  | stats
  deriving Repr, DecidableEq

namespace Place

/-- The place of a path. -/
def ofPath? (path : String) : Option Place :=
  if path = "/commands" then some commands
  else if path = "/health" then some health
  else if path = "/stats" then some stats
  else none

/-- The methods that a place has. -/
def methods : Place → List String
  | commands => ["POST"]
  | health => ["GET", "HEAD"]
  | stats => ["GET", "HEAD"]

end Place

namespace Incoming

/-- What is left of a text behind the end of its scheme and authority. -/
def afterAuthority : List Char → Option (List Char)
  | ':' :: '/' :: '/' :: rest => some (rest.dropWhile fun c => c != '/' && c != '?' && c != '#')
  | _ :: rest => afterAuthority rest
  | [] => none

/-- The path of the target, which may be a whole URL. -/
def path (r : Incoming) : String :=
  let upTo (s : List Char) : String := String.ofList (s.takeWhile fun c => c != '?' && c != '#')
  if r.target.startsWith "/" then upTo r.target.toList
  else match afterAuthority r.target.toList with
    | some rest => if rest.head? = some '/' then upTo rest else "/"
    | none => ""

/-- The type of the body, if its first header is visible text and well formed. -/
def mediaType? (r : Incoming) : Option Service.MediaType :=
  match r.headers.find? fun h => Text.lower h.1 == "content-type" with
  | none => none
  | some (_, value) => (headerText? value).bind fun t => Service.MediaType.read? t.toList

end Incoming

namespace Outgoing

/-- An answer without a body. -/
def empty (status : Nat) : Outgoing := ⟨status, [], []⟩

/-- An answer of plain text. -/
def text (status : Nat) (body : String) : Outgoing :=
  ⟨status, [("content-type", "text/plain; charset=utf-8")], Text.Utf8.bytes body⟩

/-- An answer of JSON. -/
def json (status : Nat) (body : Value) : Outgoing :=
  ⟨status, [("content-type", "application/json")], Text.Utf8.bytes body.write⟩

/-- With one more header. -/
def withHeader (o : Outgoing) (name value : String) : Outgoing :=
  { o with headers := o.headers ++ [(name, value)] }

/-- Open to pages of any origin. -/
def shared (o : Outgoing) : Outgoing :=
  (o.withHeader "access-control-allow-origin" "*").withHeader "vary"
    "origin, access-control-request-method, access-control-request-headers"

/-- With the methods of a place. -/
def allowing (o : Outgoing) : Option Place → Outgoing
  | some p => o.withHeader "allow" (String.intercalate "," p.methods)
  | none => o

end Outgoing

/-- A report about a command as JSON. -/
def CommandStats.toValue (s : CommandStats) : Value :=
  .object [("invocations", .number (.int s.invocations)),
    ("outcomes", .object (s.outcomes.map fun (o, n) => (o.label, .number (.int n)))),
    ("avg_response_time",
      match s.averageTime with
      | some t => .number (.int t)
      | none => .null),
    ("reliability", .number (.float s.reliability))]

/-- The report about all commands as JSON. -/
def Metrics.toValue (m : Metrics) : Value :=
  .object [("total_commands", .number (.int m.total)),
    ("commands", .object (m.stats.map fun (name, s) => (name, s.toValue)))]

/-- An answer to a chat message as it is sent back. -/
def Answer.outgoing : Answer → Outgoing
  | unaddressed => .empty 204
  | replied command content event =>
    .json 200 (.object [("command", .string command), ("content", content.toValue),
      ("event_id",
        match event with
        | some id => .string id
        | none => .null)])
  | undelivered content error =>
    .json 502 (Value.sorted (.object [("error", .string error.message), ("content", content.toValue)]))

namespace Service

/-- The answer to a body that is no chat message: 400 if it is no JSON, 422 otherwise. -/
def refusal (p : Problem) (body : List UInt8) : Outgoing :=
  let told := (match p.pathText with
    | some path => path ++ ": "
    | none => "") ++ (p.error body).message
  if p.cause.isShape then
    .text 422 s!"Failed to deserialize the JSON body into the target type: {told}"
  else .text 400 s!"Failed to parse the request body as JSON: {told}"

/-- The greatest number of bytes in a body. -/
def longestBody : Nat := 2097152

/-- The chat message in a request. What follows the message in its body does not matter. -/
def chatMessage (r : Incoming) : Except Outgoing ChatMessage :=
  if !(r.mediaType?.any MediaType.isJson) then
    .error (.text 415 "Expected request with `Content-Type: application/json`")
  else if longestBody < r.body.length then
    .error (.text 413 "Failed to buffer the request body: length limit exceeded")
  else match decodeFirst ChatMessage.record.decode r.body with
    | .error p => .error (refusal p r.body)
    | .ok m => .ok m

/-- What `/health` tells. -/
def health : Value := .object [("status", .string "ok"), ("version", .string version)]

/-- Serves a request whose method its place has. -/
def serve (s : Service) (o : Occasion) (metrics : Metrics) (r : Incoming) :
    Place → Exchange (Metrics × Outgoing)
  | .commands =>
    match chatMessage r with
    | .error refused => pure (metrics, refused)
    | .ok m => do
      let (metrics, answer) ← s.answer o metrics m
      return (metrics, answer.outgoing)
  | .health => pure (metrics, .json 200 health)
  | .stats => pure (metrics, .json 200 metrics.toValue.sorted)

/-- Handles a request apart from the permission for other origins. A request for the head
of an answer gets no body. -/
def route (s : Service) (o : Occasion) (metrics : Metrics) (r : Incoming) :
    Exchange (Metrics × Outgoing) :=
  match Place.ofPath? r.path with
  | none => pure (metrics, .empty 404)
  | some p =>
    if !p.methods.contains r.method then pure (metrics, (Outgoing.empty 405).allowing (some p))
    else do
      let (metrics, out) ← s.serve o metrics r p
      return (metrics, if r.method = "HEAD" then { out with body := [] } else out)

/-- The answer to a request for permission. -/
def permission (r : Incoming) : Outgoing :=
  (((Outgoing.empty 200).withHeader "access-control-allow-methods" "*").withHeader
    "access-control-allow-headers" "*").allowing (Place.ofPath? r.path)

/-- Handles a request. -/
def handle (s : Service) (o : Occasion) (metrics : Metrics) (r : Incoming) :
    Exchange (Metrics × Outgoing) := do
  if r.method = "OPTIONS" then return (metrics, (permission r).shared)
  let (metrics, out) ← s.route o metrics r
  return (metrics, out.shared)

end Service

end ImageBot
