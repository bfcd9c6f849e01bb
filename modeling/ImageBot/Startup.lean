import ImageBot.Log
import ImageBot.Service.Address
import ImageBot.Service.Basic
import ImageBot.Settings.Loading
/-!
# Start-up

To start, the service loads its settings, makes a client and its commands, and finds out
where to listen. Each step that is done is logged; the first one that fails is the end of
it, and is told with everything that caused it.
-/
namespace ImageBot

open Http Service

/-- Why the service does not start. -/
inductive StartFault
  | settings (error : ConfigError)
  | client (fault : ClientFault)
  | homeserver (fault : Url.Fault)
  | address
  deriving Repr, DecidableEq

/-- A service that is ready to listen. -/
structure Ready where
  service : Service
  address : IpAddress
  port : Nat

/-- What was logged, and how the start ended. -/
structure Start where
  log : List Log.Entry
  outcome : Except StartFault Ready

namespace StartFault

/-- The text of a fault, with the texts of its causes behind it. -/
def causes : StartFault → List String
  | settings error => error.message :: error.cause?.toList
  | client fault => fault.causes
  | homeserver fault => [fault.message]
  | address => ["invalid IP address syntax"]

/-- The report of a fault. Several causes are numbered. -/
def report (f : StartFault) : String :=
  match f.causes with
  | [] => "Error: \n"
  | [message] => s!"Error: {message}\n"
  | [message, cause] => s!"Error: {message}\n\nCaused by:\n    {cause}\n"
  | message :: causes =>
    s!"Error: {message}\n\nCaused by:\n" ++
      String.join (causes.zipIdx.map fun (cause, k) => s!"    {k}: {cause}\n")

end StartFault

namespace Start

/-- A start with one more entry at the beginning of its log. -/
def after (source : Log.Source) (text : String) (s : Start) : Start :=
  { s with log := ⟨source, text⟩ :: s.log }

/-- A start that failed. -/
def failed (f : StartFault) : Start := ⟨[], .error f⟩

/-- The log as it is written, as far as the variables want it. -/
def lines (s : Start) (environment : Environment) : List String :=
  Log.lines (.ofVariable (environment.text? Log.Filter.variableName)) s.log

/-- Finds out where to listen. -/
def listen (service : Service) (s : ServerSettings) : Start :=
  match IpAddress.ofText? s.bindAddress with
  | none => failed .address
  | some address => ⟨[], .ok ⟨service, address, s.port⟩⟩

/-- Makes the commands. -/
def commands (client : Client) (s : Settings) : Start :=
  match Service.ofSettings client s with
  | .error f => failed (.homeserver f)
  | .ok service =>
    let names := String.intercalate ", " service.registry.names
    after .service s!"Registered commands: {names}" (listen service s.server)

/-- Makes the client. -/
def client (s : Settings) : Start :=
  match Client.withSettings s.outgoing with
  | .error f => failed (.client f)
  | .ok c =>
    after .service s!"HTTP client initialized (search timeout {c.searchTimeout.text}, upload timeout {c.uploadTimeout.text})"
      (commands c s)

/-- Goes on from the settings. -/
def settings : Except ConfigError Settings → Start
  | .error e => failed (.settings e)
  | .ok s => after .service s!"Using homeserver {s.matrix.homeserverUrl}" (client s)

/-- The entry of the log about the chosen file. -/
def choiceEntry : Option OsPath → String
  | some path => s!"Loading settings from: {path.shown}"
  | none => "No settings file found, using defaults"

/-- Starts the service. -/
def run (environment : Environment) (userFolder : Option OsPath) (files : Files) : Start :=
  let choice := Settings.choosePath files (Settings.paths environment userFolder)
  after .service s!"Starting google-image-bot v{version}" <| after .settings (choiceEntry choice) <|
    settings (Settings.load environment userFolder files)

end Start

end ImageBot
