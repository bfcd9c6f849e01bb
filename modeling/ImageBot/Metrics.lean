import ImageBot.Decimal.Binary64
import ImageBot.Error
import ImageBot.Message
/-!
# Metrics

Every finished command is counted in a total and, in a store by commands, under the label of
how it ended. Its response time goes into another store, which has a window of the last hundred
times for each command. The counts are natural numbers; none of them is above the number of
commands that finished.
-/
namespace ImageBot

open Decimal

/-- How a command ended. -/
inductive Outcome
  | image
  | notice
  | searchError
  | uploadError
  deriving Repr, DecidableEq

namespace Outcome

/-- All outcomes. -/
def all : List Outcome := [image, notice, searchError, uploadError]

/-- The outcome of a result. -/
def of : Except CommandError Message → Outcome
  | .ok (.image _) => image
  | .ok (.notice _) => notice
  | .error (.search _) => searchError
  | .error (.upload _) => uploadError

/-- The name under which an outcome is counted. -/
def label : Outcome → String
  | image => "image"
  | notice => "notice"
  | searchError => "search_error"
  | uploadError => "upload_error"

/-- Whether the command failed. -/
def isError : Outcome → Bool
  | searchError => true
  | uploadError => true
  | _ => false

end Outcome

/-- Changes the entry of a name, which is new if it has none. -/
def updateEntry {α : Type} (name : String) (new : α) (change : α → α) :
    List (String × α) → List (String × α)
  | [] => [(name, change new)]
  | (other, a) :: rest =>
    if other = name then (name, change a) :: rest
    else (other, a) :: updateEntry name new change rest

/-- How often a command ended in which way, by labels. -/
abbrev Counts := List (String × Nat)

namespace Counts

/-- Counts an outcome once more. -/
def add (c : Counts) (o : Outcome) : Counts := updateEntry o.label 0 (· + 1) c

/-- How often the command ran. -/
def invocations (c : Counts) : Nat := (c.map Prod.snd).foldl (· + ·) 0

/-- How often the command failed. -/
def errors (c : Counts) : Nat :=
  ((Outcome.all.filter Outcome.isError).filterMap fun o => c.lookup o.label).foldl (· + ·) 0

/-- The outcomes that occurred, with their counts. -/
def counted (c : Counts) : List (Outcome × Nat) :=
  Outcome.all.filterMap fun o => (c.lookup o.label).map fun n => (o, n)

/-- The share of invocations that did not fail, in percent. The quotient and the product
are rounded one after the other. -/
def reliability (c : Counts) : Binary64 :=
  if c.invocations = 0 then .ofNat 100
  else ((Binary64.ofNat (c.invocations - c.errors)).div (.ofNat c.invocations)).mul (.ofNat 100)

end Counts

/-- How many response times of a command are kept. -/
def responseWindow : Nat := 100

/-- The last response times of a command in milliseconds, the oldest first. -/
abbrev Window := List Nat

namespace Window

/-- Takes in one more time. A full window loses its oldest one. -/
def push (w : Window) (time : Nat) : Window :=
  (if responseWindow ≤ w.length then w.drop 1 else w) ++ [time]

/-- The average of the times kept, rounded down. -/
def average (w : Window) : Option Nat :=
  if w.isEmpty then none else some (w.foldl (· + ·) 0 / w.length)

end Window

/-- The metrics of all commands, in the order of their first runs. -/
structure Metrics where
  total : Nat
  outcomes : List (String × Counts)
  times : List (String × Window)
  deriving Repr, DecidableEq

/-- What is reported about a command. -/
structure CommandStats where
  invocations : Nat
  outcomes : List (Outcome × Nat)
  averageTime : Option Nat
  reliability : Binary64
  deriving Repr, DecidableEq

namespace Metrics

/-- Nothing ran yet. -/
def empty : Metrics := ⟨0, [], []⟩

/-- Takes in one finished run of a command. -/
def record (m : Metrics) (command : String) (outcome : Outcome) (time : Nat) : Metrics :=
  ⟨m.total + 1, updateEntry command [] (·.add outcome) m.outcomes,
    updateEntry command [] (·.push time) m.times⟩

/-- The average response time of a command, if it ever ran. -/
def average (m : Metrics) (command : String) : Option Nat :=
  (m.times.lookup command).bind Window.average

/-- The report about all commands. -/
def stats (m : Metrics) : List (String × CommandStats) :=
  m.outcomes.map fun (command, counts) =>
    (command, ⟨counts.invocations, counts.counted, m.average command, counts.reliability⟩)

end Metrics

end ImageBot
