import ImageBot.Decimal.Binary64
/-!
# Settings

The settings come in four groups. Every one of them has a default, but there is no
default for the key of the search or the token of the homeserver.
-/
namespace ImageBot

open Decimal

/-- The version of the bot. -/
def version : String := "0.1.0"

/-- Default timeout of a search in seconds. -/
def defaultSearchTimeout : Nat := 5
/-- Default timeout of a fetch and of an upload in seconds. -/
def defaultUploadTimeout : Nat := 30
/-- Greatest timeout of a search in seconds. -/
def maxSearchTimeout : Nat := 30
/-- Greatest timeout of a fetch and of an upload in seconds. -/
def maxUploadTimeout : Nat := 120

/-- Where the bot listens, and what marks a message as a command. -/
structure ServerSettings where
  port : Nat
  bindAddress : String
  commandPrefix : String
  deriving Repr, DecidableEq

/-- Proxies for requests, all of them or by scheme. -/
structure ProxySettings where
  http : Option String
  https : Option String
  all : Option String
  deriving Repr, DecidableEq

/-- How requests are sent. Timeouts are in seconds. -/
structure OutgoingSettings where
  searchTimeout : Binary64
  uploadTimeout : Binary64
  poolMaxsize : Nat
  verifySsl : Bool
  proxies : ProxySettings
  deriving Repr, DecidableEq

/-- The image search. -/
structure GoogleSettings where
  apiKey : String
  cx : String
  baseUrl : String
  imgSize : String
  deriving Repr, DecidableEq

/-- The homeserver. -/
structure MatrixSettings where
  homeserverUrl : String
  accessToken : String
  deliverMessages : Bool
  deriving Repr, DecidableEq

/-- All settings. -/
structure Settings where
  server : ServerSettings
  outgoing : OutgoingSettings
  google : GoogleSettings
  matrix : MatrixSettings
  deriving Repr, DecidableEq

/-- The endpoint of the search. -/
def defaultSearchUrl : String := "https://www.googleapis.com/customsearch/v1"

/-- The search engine that is asked. -/
def defaultCx : String := "003141582324323361145:f5zyrk9_8_m"

namespace Settings

/-- Default server settings. -/
def defaultServer : ServerSettings := ⟨4050, "127.0.0.1", "!"⟩

/-- No proxies. -/
def defaultProxies : ProxySettings := ⟨none, none, none⟩

/-- Default outgoing settings. -/
def defaultOutgoing : OutgoingSettings :=
  ⟨.ofNat defaultSearchTimeout, .ofNat defaultUploadTimeout, 20, true, defaultProxies⟩

/-- Default search settings. -/
def defaultGoogle : GoogleSettings := ⟨"", defaultCx, defaultSearchUrl, "medium"⟩

/-- Default homeserver settings. -/
def defaultMatrix : MatrixSettings := ⟨"http://localhost:8008", "", true⟩

/-- Default settings. -/
def default : Settings := ⟨defaultServer, defaultOutgoing, defaultGoogle, defaultMatrix⟩

end Settings

end ImageBot
