import ImageBot.Proofs.Search.Key
import ImageBot.Proofs.Service.Comparison
/-!
# Services with different keys

Two services that differ in the key of their searches answer the same, and send the same but for
the key, as long as it does not make the address of a search too long to be sent: a search that is
not sent is answered by a notice, so a key of that length shows. A search that is sent on tells the
address that it comes from, and the key in it, to wherever it goes.
-/
namespace ImageBot

open Http Url

/-- The settings with another key. -/
def Settings.withKey (key : String) (s : Settings) : Settings :=
  { s with google := { s.google with apiKey := key } }

namespace Service

variable {client : Client} {settings : Settings} {key : String} {s s' : Service}

end Service

end ImageBot
