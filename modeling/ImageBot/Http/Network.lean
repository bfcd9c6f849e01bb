import ImageBot.Http.Reply
import ImageBot.Http.Request
/-!
# The network

The network is a list of the replies that requests get, in the order in which they are
sent, and a record of what was sent. Where no connection can be made nothing is sent.
-/
namespace ImageBot.Http

/-- A request as it is sent. Header names are in lower case. -/
structure Sent where
  method : Method
  url : Url
  headers : List (String × String)
  body : List UInt8
  deriving Repr, DecidableEq

/-- Where a request goes. Neither a user nor the fragment is told there. -/
def Sent.target (q : Sent) : String := { q.url.anonymous with fragment := none }.text

/-- The replies to come, the reply when they are used up, and what was sent. -/
structure Network where
  replies : List Reply
  afterwards : Reply
  sent : List Sent
  deriving Repr, DecidableEq

/-- A computation that talks to the network. -/
abbrev Exchange (α : Type) := StateM Network α

/-- A network that can be reached by no request. -/
def Network.unreachable : Network :=
  ⟨[], .unreachable (.broken
    "error trying to connect: tcp connect error: Network is unreachable (os error 101)"), []⟩

/-- Sends a request and takes the next reply. -/
def Network.send (request : Sent) : Exchange Reply := fun network =>
  let (reply, later) := match network.replies with
    | [] => (network.afterwards, [])
    | reply :: later => (reply, later)
  match reply with
  | .unreachable _ => (reply, { network with replies := later })
  | _ => (reply, { network with replies := later, sent := network.sent ++ [request] })

end ImageBot.Http
