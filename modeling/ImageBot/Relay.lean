import ImageBot.Message
import ImageBot.Search.Query
/-!
# From a phrase to an image message

A relay searches for an image and has it uploaded. A result without a link is answered
with a notice, and nothing is uploaded.
-/
namespace ImageBot

open Http

/-- What is told when the result has no link. -/
def noImageFound : String := "No image found!"

/-- A way to copy the file at a link to the homeserver. -/
abbrev Uploader := String → Exchange (Except UploadError ContentUri)

/-- A search engine and an uploader for what it finds. -/
structure Relay where
  search : ImageSearch
  upload : Uploader

namespace Relay

/-- The message for an item that is uploaded. -/
def imageMessage (phrase : String) (item : Search.Item) (uri : ContentUri) : Message :=
  .image ⟨phrase, uri, .ofDescriptor item.image item.mime⟩

/-- The message for an item, which is uploaded if it has a link. -/
def post (r : Relay) (phrase : String) (item : Search.Item) :
    Exchange (Except CommandError Message) := do
  if item.link.isEmpty then return .ok (.notice noImageFound)
  match ← r.upload item.link with
  | .error e => return .error (.upload e)
  | .ok uri => return .ok (imageMessage phrase item uri)

/-- Searches for a phrase and uploads what is found. -/
def handle (r : Relay) (phrase : String) : Exchange (Except CommandError Message) := do
  match ← r.search.search phrase with
  | .error e => return .error (.search e)
  | .ok item => r.post phrase item

end Relay

end ImageBot
