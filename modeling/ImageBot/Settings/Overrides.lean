import ImageBot.Decimal.Integer
import ImageBot.Settings.Basic
import ImageBot.Text.Utf8
/-!
# Settings in the environment

Six settings can be told by variables, which win over what a file tells. A variable that
is no text counts as absent, and so does a port that is no number of 16 bits.
-/
namespace ImageBot

open Decimal Text

/-- The variables of a process. -/
abbrev Environment := List (String × List UInt8)

/-- The text of a variable. -/
def Environment.text? (e : Environment) (name : String) : Option String :=
  (e.lookup name).bind Utf8.text?

namespace Settings

/-- The port that a text tells. -/
def port? (text : String) : Option Nat := (readNat (2 ^ 16 - 1) text.toList).toOption

/-- Server settings with what variables tell. -/
def overrideServer (lookup : String → Option String) (s : ServerSettings) : ServerSettings :=
  { s with
    port := ((lookup "GOOGLE_BOT_PORT").bind port?).getD s.port
    bindAddress := (lookup "GOOGLE_BOT_BIND_ADDRESS").getD s.bindAddress }

/-- Search settings with what variables tell. -/
def overrideGoogle (lookup : String → Option String) (s : GoogleSettings) : GoogleSettings :=
  { s with
    apiKey := (lookup "GOOGLE_BOT_API_KEY").getD s.apiKey
    cx := (lookup "GOOGLE_BOT_CX").getD s.cx }

/-- Homeserver settings with what variables tell. -/
def overrideMatrix (lookup : String → Option String) (s : MatrixSettings) : MatrixSettings :=
  { s with
    homeserverUrl := (lookup "GOOGLE_BOT_HOMESERVER_URL").getD s.homeserverUrl
    accessToken := (lookup "GOOGLE_BOT_ACCESS_TOKEN").getD s.accessToken }

/-- Settings with what variables tell. -/
def override (lookup : String → Option String) (s : Settings) : Settings :=
  { s with
    server := overrideServer lookup s.server
    google := overrideGoogle lookup s.google
    matrix := overrideMatrix lookup s.matrix }

end Settings

end ImageBot
