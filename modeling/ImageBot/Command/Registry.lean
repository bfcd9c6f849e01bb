import ImageBot.Error
import ImageBot.Http.Network
import ImageBot.Message
import ImageBot.Text.Blank
/-!
# Commands and their registry

A command is selected by the words of its path. A registry looks for a command in the
text behind its marker; the longest path that fits wins, and of equally long ones the
path registered last. What follows the path are the arguments.
-/
namespace ImageBot

open Http Text

/-- Where a command was given. -/
structure Context where
  roomId : String
  userId : String
  deriving Repr, DecidableEq

/-- A command that answers with one message. -/
structure Command where
  path : List String
  usage : String
  run : Context → List String → Exchange (Except CommandError Message)

/-- The name of a command, which is its path in one text. -/
def Command.name (c : Command) : String := String.intercalate " " c.path

/-- The commands a marker stands for, in the order in which they were registered. -/
structure Registry where
  marker : String
  commands : List Command

namespace Registry

/-- A registry without commands. -/
def empty (marker : String) : Registry := ⟨marker, []⟩

/-- With one more command. -/
def register (r : Registry) (c : Command) : Registry := { r with commands := r.commands ++ [c] }

/-- Whether a path stands at the start of the words, up to ASCII case. An empty path
stands nowhere. -/
def fits (path words : List String) : Bool :=
  !path.isEmpty && path.length ≤ words.length &&
    (path.zip words).all fun (p, w) => sameLetters p.toList w.toList

/-- The command that fits best, with its place among all; `index` is that of the first
one given. -/
def choose (words : List String) : (index : Nat) → List Command → Option (Nat × Command)
  | _, [] => none
  | index, c :: rest =>
    match choose words (index + 1) rest with
    | none => if fits c.path words then some (index, c) else none
    | some (k, best) =>
      if fits c.path words && best.path.length < c.path.length then some (index, c)
      else some (k, best)

/-- The words behind the marker of a body that starts with it. -/
def addressed? (r : Registry) (body : String) : Option (List String) :=
  (afterMarker? r.marker.toList (trimStart body.toList)).map fun rest =>
    (words rest).map String.ofList

/-- The command that a body addresses, with its place and its arguments. -/
def locate (r : Registry) (body : String) : Option (Nat × Command × List String) :=
  match r.addressed? body with
  | none => none
  | some words =>
    (choose words 0 r.commands).map fun (k, c) => (k, c, words.drop c.path.length)

/-- The command that a body addresses, with its arguments. -/
def parse (r : Registry) (body : String) : Option (Command × List String) :=
  (r.locate body).map (·.2)

/-- What a command that ran gave. -/
structure Dispatched where
  command : String
  result : Except CommandError Message

/-- Runs the command that a body addresses, if it addresses one. -/
def dispatch (r : Registry) (ctx : Context) (body : String) : Exchange (Option Dispatched) :=
  match r.parse body with
  | none => pure none
  | some (c, args) => do return some ⟨c.name, ← c.run ctx args⟩

/-- The names of all commands. -/
def names (r : Registry) : List String := r.commands.map (·.name)

end Registry

end ImageBot
