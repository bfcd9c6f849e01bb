import ImageBot.Error
import ImageBot.Http.Client
import ImageBot.Message
import ImageBot.Url.Endpoint
/-!
# The homeserver

The homeserver stores files and passes messages on to rooms. An upload first fetches the
file from where it is; only if that succeeds is anything sent to the homeserver. The type
of the file is the one its source told. Both kinds of request carry the access token.
-/
namespace ImageBot

open Http

/-- A homeserver, and the bot's access to it. -/
structure Homeserver where
  client : Client
  url : Url
  accessToken : String
  deriving Repr, DecidableEq

namespace Homeserver

/-- The homeserver of the settings. -/
def ofSettings (client : Client) (s : MatrixSettings) : Except Url.Fault Homeserver :=
  match Url.parse s.homeserverUrl with
  | .ok url => .ok ⟨client, url, s.accessToken⟩
  | .error f => .error f

/-- The URL of an endpoint. -/
def endpoint (h : Homeserver) (segments : List String) : Except Url.Fault Url := h.url.below segments

/-- The path of the upload endpoint. -/
def uploadPath : List String := ["_matrix", "media", "r0", "upload"]

/-- The path of the endpoint for a message, which names the room and the transaction. -/
def messagePath (room transaction : String) : List String :=
  ["_matrix", "client", "r0", "rooms", room, "send", "m.room.message", transaction]

/-- The type of a file whose source tells none. -/
def defaultContentType : String := "application/octet-stream"

/-- The address in the answer to an upload. -/
def contentUriRecord : Json.Record (Option String) :=
  ⟨"struct UploadResponse", none,
    [⟨"content_uri", fun depth node _ => Json.Decoder.optional .string depth node, false, true⟩]⟩

/-- The event in the answer to a message. -/
def eventIdRecord : Json.Record (Option String) :=
  ⟨"struct SendResponse", none,
    [⟨"event_id", fun depth node _ => Json.Decoder.optional .string depth node, false, true⟩]⟩

/-- A failed exchange as a failed upload. -/
def uploadTransport (h : Homeserver) : TransportFault → UploadError
  | .timeout => .timeout h.client.uploadTimeout
  | f => .transport f.message

/-- The request that uploads a file. -/
def uploadRequest (h : Homeserver) (url : Url) (source : Response) : Request :=
  (Request.bare .post url.text)
    |>.bearer h.accessToken
    |>.raw source.body (source.contentType.getD defaultContentType)

/-- The outcome of an upload, by its response. -/
def uploaded (response : Response) : Except UploadError ContentUri :=
  if response.status ≠ 200 then .error (.status response.status response.text)
  else match response.decode contentUriRecord.decode with
    | .ok (some uri) => if uri.isEmpty then .error (.decode response.text) else .ok ⟨uri⟩
    | _ => .error (.decode response.text)

/-- Copies the file at a link to the homeserver. -/
def uploadLink (h : Homeserver) (link : String) : Exchange (Except UploadError ContentUri) := do
  match ← h.client.execute (Request.bare .get link) with
  | .error f => return .error (h.uploadTransport f)
  | .ok source =>
    if !source.isSuccess then return .error (.fetch link source.status)
    match h.endpoint uploadPath with
    | .error f => return .error (.invalidHomeserver f)
    | .ok url =>
      match ← h.client.execute (h.uploadRequest url source) with
      | .error f => return .error (h.uploadTransport f)
      | .ok response => return uploaded response

/-- The request that sends a message. -/
def messageRequest (h : Homeserver) (url : Url) (message : Message) : Request :=
  (Request.bare .put url.text)
    |>.bearer h.accessToken
    |>.json message.toValue

/-- The outcome of sending a message, by its response. -/
def delivered (response : Response) : Except DeliveryError String :=
  if response.status ≠ 200 then .error (.status response.status response.text)
  else match response.decode eventIdRecord.decode with
    | .ok (some event) => .ok event
    | _ => .error (.decode response.text)

/-- Sends a message to a room, in a transaction of its own. The result is the event. -/
def sendMessage (h : Homeserver) (room : String) (message : Message) (transaction : String) :
    Exchange (Except DeliveryError String) := do
  match h.endpoint (messagePath room transaction) with
  | .error f => return .error (.invalidHomeserver f)
  | .ok url =>
    match ← h.client.execute (h.messageRequest url message) with
    | .error f => return .error (.transport f.message)
    | .ok response => return delivered response

end Homeserver

end ImageBot
