import ImageBot.Url.Basic
import ImageBot.Url.Fault
/-!
# Failed exchanges

A failure says at which stage an exchange broke off, with which URL, and why. The URL may
carry the key of the search, so it is taken off before a failure is told to anyone.
-/
namespace ImageBot.Http

/-- Why something broke off. -/
inductive Interruption
  /-- It took too long. -/
  | timeout
  | broken (cause : String)
  deriving Repr, DecidableEq

/-- The wording of a reason. -/
def Interruption.text : Interruption → String
  | timeout => "operation timed out"
  | broken cause => cause

/-- The stages of an exchange. -/
inductive Stage
  /-- Nothing was sent. -/
  | builder
  /-- No answer came. -/
  | request
  /-- The answer sent the request on, once too often. -/
  | redirect
  /-- The body of the answer did not come whole. -/
  | body
  /-- The body of the answer could not be decoded. -/
  | decode
  deriving Repr, DecidableEq

/-- What a stage is called when it fails. -/
def Stage.text : Stage → String
  | builder => "builder error"
  | request => "error sending request"
  | redirect => "error following redirect"
  | body => "request or response body error"
  | decode => "error decoding response body"

/-- A failed exchange. -/
structure Failure where
  stage : Stage
  url : Option Url
  why : Interruption
  deriving Repr, DecidableEq

/-- The text of a failure. -/
def Failure.text (f : Failure) : String :=
  f.stage.text ++ (f.url.elim "" fun u => " for url (" ++ u.text ++ ")") ++ ": " ++ f.why.text

/-- A failure without its URL. -/
def Failure.withoutUrl (f : Failure) : Failure := { f with url := none }

/-- Why there is no response. -/
inductive TransportFault
  | invalidUrl (fault : Url.Fault)
  | timeout
  | failed (failure : Failure)
  deriving Repr, DecidableEq

namespace TransportFault

/-- What is told of a failure. -/
def ofFailure (f : Failure) : TransportFault :=
  if f.why = .timeout then timeout else failed f.withoutUrl

/-- The text of a fault. -/
def message : TransportFault → String
  | invalidUrl fault => s!"invalid request URL: {fault.message}"
  | timeout => "request timed out"
  | failed failure => failure.text

end TransportFault

end ImageBot.Http
