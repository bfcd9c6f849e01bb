import ImageBot.Http.Network
import ImageBot.Http.Uri
import ImageBot.Url.Reference
/-!
# Requests that are sent on

An answer may send a request on to another URL. The request is then made again there, as one
that only asks or as it was, depending on the status. It tells where it comes from, and what
gives access is left out on another server. A request is sent on a limited number of times,
and to URLs of the web only.
-/
namespace ImageBot.Http

open Text

/-- How a request is made again. -/
inductive Onward
  /-- As one that only asks. -/
  | asking
  | unchanged
  deriving Repr, DecidableEq

/-- How a status sends a request on, if it does. -/
def Onward.ofStatus? (status : Nat) : Option Onward :=
  if status = 301 ∨ status = 302 ∨ status = 303 then some asking
  else if status = 307 ∨ status = 308 then some unchanged
  else none

/-- The headers about a body. -/
def bodyHeaders : List String :=
  ["transfer-encoding", "content-encoding", "content-type", "content-length"]

/-- The headers that give access to something. -/
def accessHeaders : List String :=
  ["authorization", "cookie", "cookie2", "proxy-authorization", "www-authenticate"]

/-- Headers without those of some names. -/
def dropHeaders (names : List String) (headers : List (String × String)) :
    List (String × String) := headers.filter fun h => !names.contains h.1

/-- Whether two URLs are on the same server. -/
def sameServer (u v : Url) : Bool := u.hostText? == v.hostText? && u.portInUse == v.portInUse

/-- What is told of where a request comes from. Nothing of it leaves a safe connection for one
that is not. -/
def referer? (last next : Url) : Option String :=
  if next.scheme = "http" ∧ last.scheme = "https" then none
  else some { last.anonymous with fragment := none }.text

/-- The headers that are kept of a request that is made again. -/
def Onward.kept (headers : List (String × String)) : Onward → List (String × String)
  | asking => dropHeaders bodyHeaders headers
  | unchanged => headers

/-- Headers with what is told of where a request comes from. -/
def withReferer (last next : Url) (headers : List (String × String)) : List (String × String) :=
  match referer? last next with
  | some referer => putHeader "referer" referer headers
  | none => headers

namespace Sent

/-- The URL to which the headers of an answer send a request on: that of the first location, if
it is text that names a URL which is a URI. -/
def elsewhere? (q : Sent) (headers : List (String × List UInt8)) : Option Url := do
  let value ← (headerValues "location" headers).head?
  let next ← (q.url.join (← Utf8.text? value)).toOption
  if isAnyUri next then some next else none

/-- The request made again for another URL. -/
def madeAgain (q : Sent) (how : Onward) (next : Url) : Sent :=
  let told := withReferer q.url next (how.kept q.headers)
  { method := match how with
      | .asking => .get
      | .unchanged => q.method
    url := next
    headers := if sameServer q.url next then told else dropHeaders accessHeaders told
    body := match how with
      | .asking => []
      | .unchanged => q.body }

/-- The request that a reply sends on, if it does. -/
def onward? (q : Sent) : Reply → Option Sent
  | .answered status headers _ => do
    let how ← Onward.ofStatus? status
    return q.madeAgain how (← q.elsewhere? headers)
  | _ => none

/-- Whether a request goes to the web. -/
def isWeb (q : Sent) : Bool := q.url.scheme == "http" || q.url.scheme == "https"

/-- Why a request is not sent. -/
def disallowedScheme (url : Url) : Failure :=
  ⟨.builder, some url, .broken "URL scheme is not allowed"⟩

/-- Why a request is not sent on any more. -/
def tooManyRedirects (url : Url) : Failure := ⟨.redirect, some url, .broken "too many redirects"⟩

/-- Sends a request, which is sent on up to `left` times, and waits for the response. -/
def follow (left : Nat) (q : Sent) : Exchange (Except Failure Response) := do
  let reply ← Network.send q
  match q.onward? reply with
  | none => return reply.interpret q.url
  | some next =>
    match left with
    | 0 => return .error (tooManyRedirects q.url)
    | left + 1 => if next.isWeb then follow left next else return .error (disallowedScheme next.url)

end Sent

end ImageBot.Http
