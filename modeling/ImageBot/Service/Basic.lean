import ImageBot.Command.Image
import ImageBot.Homeserver
import ImageBot.Metrics
/-!
# The service

The service gets chat messages and answers those that address a command. A finished
command is taken into the metrics, whatever becomes of its reply. The reply is also sent
to the room of the message, if the settings want this.
-/
namespace ImageBot

open Http

/-- What stays the same while the service runs. -/
structure Service where
  registry : Registry
  homeserver : Homeserver
  delivers : Bool

/-- A chat message that was passed on to the bot. -/
structure ChatMessage where
  roomId : String
  userId : String
  body : String
  deriving Repr, DecidableEq

/-- What the world adds to a message: how long its command took in milliseconds, and an
identifier that no other transaction has. -/
structure Occasion where
  elapsed : Nat
  transaction : String
  deriving Repr, DecidableEq

/-- What is answered to a message. -/
inductive Answer
  /-- No command was addressed. -/
  | unaddressed
  /-- The reply of a command, and the event if it was sent to the room. -/
  | replied (command : String) (content : Message) (event : Option String)
  /-- The reply could not be sent to the room. -/
  | undelivered (content : Message) (error : DeliveryError)
  deriving Repr, DecidableEq

namespace ChatMessage

/-- A chat message as a record. -/
def record : Json.Record ChatMessage :=
  ⟨"struct CommandRequest", ⟨"", "", ""⟩,
    [.required "room_id" .string fun a m => { m with roomId := a },
      .required "user_id" .string fun a m => { m with userId := a },
      .required "body" .string fun a m => { m with body := a }]⟩

end ChatMessage

namespace Service

/-- The image search of the settings, with uploads to a homeserver. -/
def relay (client : Client) (s : GoogleSettings) (homeserver : Homeserver) : Relay :=
  ⟨.ofSettings client s, homeserver.uploadLink⟩

/-- The service of the settings. Its only command is that for images. -/
def ofSettings (client : Client) (s : Settings) : Except Url.Fault Service :=
  match Homeserver.ofSettings client s.matrix with
  | .error f => .error f
  | .ok homeserver =>
    .ok ⟨(Registry.empty s.server.commandPrefix).register
        (imageCommand (relay client s.google homeserver)),
      homeserver, s.matrix.deliverMessages⟩

/-- The reply for what a command gave. A failure is told in a notice. -/
def reply : Except CommandError Message → Message
  | .ok message => message
  | .error e => .notice e.message

/-- Sends a reply to the room, if this is wanted. -/
def deliver (s : Service) (o : Occasion) (room command : String) (content : Message) :
    Exchange Answer := do
  if !s.delivers then return .replied command content none
  match ← s.homeserver.sendMessage room content o.transaction with
  | .ok event => return .replied command content (some event)
  | .error e => return .undelivered content e

/-- Answers a chat message. -/
def answer (s : Service) (o : Occasion) (metrics : Metrics) (m : ChatMessage) :
    Exchange (Metrics × Answer) := do
  match ← s.registry.dispatch ⟨m.roomId, m.userId⟩ m.body with
  | none => return (metrics, .unaddressed)
  | some ran =>
    let metrics := metrics.record ran.command (.of ran.result) o.elapsed
    return (metrics, ← s.deliver o m.roomId ran.command (reply ran.result))

end Service

end ImageBot
