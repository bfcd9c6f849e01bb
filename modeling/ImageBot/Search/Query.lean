import ImageBot.Error
import ImageBot.Http.Client
import ImageBot.Search.Result
/-!
# Asking for an image

A search asks for one result only, since a command posts one image at most. The first
item of the answer is the result. A status above 200 is a failure whatever comes with it.
-/
namespace ImageBot

open Http

/-- A search engine and how it is asked. -/
structure ImageSearch where
  client : Client
  baseUrl : String
  apiKey : String
  cx : String
  imgSize : String
  deriving Repr, DecidableEq

namespace ImageSearch

/-- The search engine of the settings. -/
def ofSettings (client : Client) (s : GoogleSettings) : ImageSearch :=
  ⟨client, s.baseUrl, s.apiKey, s.cx, s.imgSize⟩

/-- The request for a phrase. -/
def request (s : ImageSearch) (phrase : String) : Request :=
  (Request.bare .get s.baseUrl)
    |>.param "q" phrase
    |>.param "num" "1"
    |>.param "start" "1"
    |>.param "imgSize" s.imgSize
    |>.param "searchType" "image"
    |>.param "key" s.apiKey
    |>.param "cx" s.cx

/-- The first item of a response. -/
def firstResult (response : Response) : Except SearchError Search.Item :=
  if 200 < response.status then .error (.status response.status response.text)
  else match Search.Answer.decode response.body with
    | .error e => .error (.decode e)
    | .ok answer =>
      match answer.items with
      | [] => .error .noItems
      | item :: _ => .ok item

/-- A failed exchange as a failed search. -/
def transportError (s : ImageSearch) : TransportFault → SearchError
  | .timeout => .timeout s.client.searchTimeout
  | .invalidUrl f => .invalidEndpoint f
  | .failed failure => .transport failure.text

/-- Searches for a phrase. -/
def search (s : ImageSearch) (phrase : String) : Exchange (Except SearchError Search.Item) := do
  match ← s.client.execute (s.request phrase) with
  | .error f => return .error (s.transportError f)
  | .ok response => return firstResult response

end ImageSearch

end ImageBot
