import ImageBot.Command.Registry
import ImageBot.Relay
/-!
# The image command

The command is `google`, and the only thing it does is `image` with a phrase behind it.
-/
namespace ImageBot

open Http

/-- The reply to any other use. -/
def imageUsage : String := "Usage: !google image image_search_text"

/-- What arguments ask for. -/
inductive Invocation
  | usage
  | image (phrase : String)
  deriving Repr, DecidableEq

/-- Reads the arguments. The words behind `image` make the phrase, even if it is empty. -/
def Invocation.ofArgs : List String → Invocation
  | kind :: word :: rest =>
    if kind = "image" then image (String.intercalate " " (word :: rest)) else usage
  | _ => usage

/-- Runs what the arguments ask for. -/
def runImage (relay : Relay) (args : List String) : Exchange (Except CommandError Message) :=
  match Invocation.ofArgs args with
  | .usage => pure (.ok (.notice imageUsage))
  | .image phrase => relay.handle phrase

/-- The image command. -/
def imageCommand (relay : Relay) : Command := ⟨["google"], imageUsage, fun _ args => runImage relay args⟩

end ImageBot
