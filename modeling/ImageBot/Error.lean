import ImageBot.Duration
import ImageBot.Json.Fault
import ImageBot.Url.Fault
/-!
# What can go wrong with a command

A command fails in its search or in its upload. The reply that is then sent to the room
is the text of the failure. Delivering a reply can fail as well.
-/
namespace ImageBot

/-- A failure of an image search. -/
inductive SearchError
  | invalidEndpoint (fault : Url.Fault)
  | transport (text : String)
  | timeout (limit : Duration)
  | status (code : Nat) (body : String)
  | decode (error : Json.Error)
  | noItems
  deriving Repr, DecidableEq

/-- A failure to copy an image to the homeserver. -/
inductive UploadError
  | invalidHomeserver (fault : Url.Fault)
  | transport (text : String)
  | timeout (limit : Duration)
  | fetch (url : String) (code : Nat)
  | status (code : Nat) (body : String)
  | decode (body : String)
  | other (text : String)
  deriving Repr, DecidableEq

/-- A failure to send a message to a room. -/
inductive DeliveryError
  | invalidHomeserver (fault : Url.Fault)
  | transport (text : String)
  | status (code : Nat) (body : String)
  | decode (body : String)
  deriving Repr, DecidableEq

/-- A failure of a command. -/
inductive CommandError
  | search (error : SearchError)
  | upload (error : UploadError)
  deriving Repr, DecidableEq

/-- The text of a failed search. An answer that cannot be decoded reads like one that
has no items. -/
def SearchError.message : SearchError → String
  | invalidEndpoint fault => s!"Invalid search endpoint: {fault.message}"
  | transport text => text
  | timeout limit => s!"Search request timed out after {limit.text}"
  | status code body => s!"Request error: {code}, {body}"
  | decode _ => "No images found"
  | noItems => "No images found"

/-- The text of a failed upload. -/
def UploadError.message : UploadError → String
  | invalidHomeserver fault => s!"Invalid homeserver URL: {fault.message}"
  | transport text => text
  | timeout limit => s!"timeout after {limit.text}"
  | fetch url code => s!"Failed to fetch {url}: status {code}"
  | status code body => s!"Upload request failed code={code} {body}"
  | decode body => s!"Upload response carried no content URI: {body}"
  | other text => text

/-- The text of a failed delivery. -/
def DeliveryError.message : DeliveryError → String
  | invalidHomeserver fault => s!"Invalid homeserver URL: {fault.message}"
  | transport text => text
  | status code body => s!"Send request failed code={code} {body}"
  | decode body => s!"Send response carried no event ID: {body}"

/-- The text of a failed command. -/
def CommandError.message : CommandError → String
  | search error => error.message
  | upload error => s!"Failed to upload Google image to matrix: {error.message}"

end ImageBot
