import ImageBot.Files
import ImageBot.Settings.Document
import ImageBot.Settings.Overrides
import ImageBot.Text.Blank
import ImageBot.Url.Parser
/-!
# Loading settings

Settings come from the first path that leads to something, be it a folder, and are then
overridden by variables and checked. A file that cannot be read or decoded is an error;
no other one takes its place. Where no path leads to anything the default settings are
taken.
-/
namespace ImageBot

open Decimal

/-- Why there are no settings. -/
inductive ConfigError
  | file (fault : FileFault)
  | parse (error : Yaml.Error)
  | missing (field : String)
  | invalid (field reason : String)
  deriving Repr, DecidableEq

namespace ConfigError

/-- The text of an error. -/
def message : ConfigError → String
  | file fault => s!"Failed to read settings file: {fault.message}"
  | parse error => s!"Failed to parse settings: {error.message}"
  | missing field => s!"Missing required setting: {field}"
  | invalid field reason => s!"Invalid setting {field}: {reason}"

/-- The text of what caused an error, if something else did. -/
def cause? : ConfigError → Option String
  | file fault => some fault.message
  | parse error => some error.message
  | _ => none

end ConfigError

namespace Settings

/-- Checks that a text is not blank. -/
def requireText (field value : String) : Except ConfigError Unit :=
  if Text.isAllBlank value then .error (.missing field) else .ok ()

/-- Checks that a text is not empty. -/
def requireSome (field value : String) : Except ConfigError Unit :=
  if value.isEmpty then .error (.missing field) else .ok ()

/-- Checks that a text is a URL. -/
def requireUrl (field value : String) : Except ConfigError Unit :=
  match Url.parse value with
  | .ok _ => .ok ()
  | .error f => .error (.invalid field f.message)

/-- Checks that a number is a length of time. -/
def requireSeconds (field : String) (value : Binary64) : Except ConfigError Unit :=
  if value.isFinite && value.isPositive then .ok ()
  else
    .error (.invalid field
      s!"expected a positive number of seconds, got {Style.plain.write value}")

/-- Checks settings, and tells the first thing that is wrong. -/
def validate (s : Settings) : Except ConfigError Unit := do
  requireText "google.api_key" s.google.apiKey
  requireText "google.cx" s.google.cx
  requireUrl "google.base_url" s.google.baseUrl
  requireUrl "matrix.homeserver_url" s.matrix.homeserverUrl
  requireSome "matrix.access_token" s.matrix.accessToken
  requireSome "server.command_prefix" s.server.commandPrefix
  requireSeconds "outgoing.search_timeout" s.outgoing.searchTimeout
  requireSeconds "outgoing.upload_timeout" s.outgoing.uploadTimeout

/-- The variable that names a settings file. -/
def pathVariable : String := "GOOGLE_BOT_SETTINGS_PATH"

/-- The usual paths of a settings file in the order in which they are tried, the last one
in the user's folder for settings, if there is one. -/
def usualPaths (userFolder : Option OsPath) : List OsPath :=
  ["settings.yml", "config/settings.yml", "/etc/google-image-bot/settings.yml"].map .ofText ++
    (userFolder.map (·.join (.ofText "google-image-bot/settings.yml"))).toList

/-- All paths that are tried. -/
def paths (environment : Environment) (userFolder : Option OsPath) : List OsPath :=
  ((environment.text? pathVariable).map OsPath.ofText).toList ++ usualPaths userFolder

/-- The path that is chosen. -/
def choosePath (files : Files) (paths : List OsPath) : Option OsPath :=
  paths.find? fun path => (files path).isPresent

/-- The settings in a file. -/
def ofFile (state : FileState) : Except ConfigError Settings :=
  match state.text with
  | .error f => .error (.file f)
  | .ok text =>
    match ofYaml text with
    | .error e => .error (.parse e)
    | .ok s => .ok s

/-- The settings at a path, or the default settings. -/
def ofChoice (files : Files) : Option OsPath → Except ConfigError Settings
  | some path => ofFile (files path)
  | none => .ok default

/-- Settings that were overridden and checked. -/
def finish (environment : Environment) (s : Settings) : Except ConfigError Settings := do
  let s := s.override environment.text?
  s.validate
  return s

/-- Loads settings. -/
def load (environment : Environment) (userFolder : Option OsPath) (files : Files) :
    Except ConfigError Settings := do
  let s ← ofChoice files (choosePath files (paths environment userFolder))
  finish environment s

end Settings

end ImageBot
