import ImageBot.Startup
/-!
# The command line

The program takes no arguments. It gathers the variables and the files that a start can
depend on, starts, and tells what happened: the log goes to the standard output, a fault
to the standard error. Accepting connections is left to whoever embeds the service.
-/
namespace ImageBot

/-- The variables that a start can depend on. -/
def startVariables : List String :=
  [Log.Filter.variableName, Settings.pathVariable, "GOOGLE_BOT_API_KEY", "GOOGLE_BOT_CX", "GOOGLE_BOT_HOMESERVER_URL",
    "GOOGLE_BOT_ACCESS_TOKEN", "GOOGLE_BOT_PORT", "GOOGLE_BOT_BIND_ADDRESS"]

/-- The variables of this process that a start can depend on. -/
def currentEnvironment : IO Environment := do
  let told ← startVariables.mapM fun name => do return (name, ← IO.getEnv name)
  return told.filterMap fun (name, value) => value.map fun text => (name, Text.Utf8.bytes text)

/-- The user's folder for settings. -/
def currentUserFolder : IO (Option OsPath) := do
  let told ← IO.getEnv "XDG_CONFIG_HOME"
  match (told.map OsPath.ofText).filter (·.isAbsolute) with
  | some folder => return some folder
  | none =>
    let home := (← IO.getEnv "HOME").filter (!·.isEmpty)
    return home.map fun home => (OsPath.ofText home).join (.ofText ".config")

/-- What a path leads to now. -/
def currentState (path : OsPath) : IO FileState := do
  try
    let content ← IO.FS.readBinFile path.shown
    return .file content.toList
  catch e =>
    match e with
    | .inappropriateType _ code _ => return if code = 20 then .blocked else .folder
    | .invalidArgument _ code _ => return if code = 36 then .overlong else .absent
    | .permissionDenied .. => return .locked
    | _ => return .absent

end ImageBot

open ImageBot in
/-- Starts the service and tells how it went. -/
def main : IO UInt32 := do
  let environment ← currentEnvironment
  let userFolder ← currentUserFolder
  let states ← (Settings.paths environment userFolder).mapM fun path => do
    return (path, ← currentState path)
  let start := Start.run environment userFolder fun path => (states.lookup path).getD .absent
  (start.lines environment).forM IO.println
  match start.outcome with
  | .ok _ => return 0
  | .error f =>
    IO.eprint f.report
    return 1
