import ImageBot.Duration
import ImageBot.Http.Redirect
import ImageBot.Settings.Basic
/-!
# The HTTP client

A request is sent only if its URL has a host, its headers can be written, and the URL has a
web scheme and is a URI; what is wrong is told in that order. A request that is sent may be
sent on by its answer, and counts as answered by the last answer only. No failure that is told
names the URL, which may carry the key of the search.
-/
namespace ImageBot.Http

open Text

/-- Why a client cannot be made: the texts of a cause and of what caused it, and so on. -/
structure ClientFault where
  causes : List String
  deriving Repr, DecidableEq

/-- The text of the outermost cause. -/
def ClientFault.message (f : ClientFault) : String := f.causes.head?.getD ""

/-- A client: how long it waits, and how often it lets a request be sent on. -/
structure Client where
  searchTimeout : Duration
  uploadTimeout : Duration
  redirects : Nat
  deriving Repr, DecidableEq

/-- Whether a header value can be written: no control character but the tab. -/
def isHeaderValue (value : String) : Bool :=
  (Utf8.bytes value).all fun b => b == 0x09 || (0x20 ≤ b && b != 0x7F)

/-- Who the client says it is. -/
def userAgent : String := "google-image-bot/" ++ version

/-- Headers with one more, unless there is one of its name. -/
def withDefault (name value : String) (headers : List (String × String)) :
    List (String × String) :=
  if headers.any (·.1 == name) then headers else headers ++ [(name, value)]

/-- Headers with those that every request has. What a range is asked of is not to be coded. -/
def withDefaults (headers : List (String × String)) : List (String × String) :=
  let told := withDefault "user-agent" userAgent (withDefault "accept" "*/*" headers)
  if told.any (·.1 == "range") then told else withDefault "accept-encoding" "gzip, br" told

namespace Request

/-- The headers of a request as they are sent to a URL. A user of the URL comes first, and a
JSON body names its type itself unless a header does. -/
def sentHeaders (r : Request) (url : Url) : List (String × String) :=
  let user := (url.authority.bind credentials?).toList.map basicHeader
  let given := user ++ r.headers.map fun (name, value) => (lower name, value)
  withDefaults <| match r.body with
    | some (.json _) => withDefault "content-type" "application/json" given
    | _ => given

/-- The body of a request as it is sent. The members of JSON objects are sorted. -/
def sentBody (r : Request) : List UInt8 :=
  match r.body with
  | none => []
  | some (.raw bytes) => bytes
  | some (.json value) => Utf8.bytes value.sorted.write

/-- What is sent to a URL for a request, or why nothing is. -/
def build (r : Request) (url : Url) : Except Failure Sent :=
  let bare := withoutCredentials url
  if !url.hasHost then .error (Sent.disallowedScheme url)
  else if !r.headers.all (isHeaderValue ·.2) then
    .error ⟨.builder, none, .broken "failed to parse header value"⟩
  else if url.scheme ≠ "http" ∧ url.scheme ≠ "https" then .error (Sent.disallowedScheme bare)
  else if !isUri bare then .error ⟨.builder, some bare, .broken "Parsed Url is not a valid Uri"⟩
  else .ok ⟨r.method, bare, r.sentHeaders url, r.sentBody⟩

/-- What is sent for a request, or what is told if nothing is. -/
def prepare (r : Request) : Except TransportFault Sent :=
  match r.fullUrl with
  | .error f => .error (.invalidUrl f)
  | .ok url => (r.build url).mapError .ofFailure

end Request

namespace Client

/-- Sends a request and waits for the response. -/
def execute (c : Client) (r : Request) : Exchange (Except TransportFault Response) :=
  match r.prepare with
  | .error f => pure (.error f)
  | .ok sent => do return (← sent.follow c.redirects).mapError .ofFailure

/-- How often a request is sent on. -/
def mostRedirects : Nat := 10

/-- The timeouts that settings ask for, within bounds. -/
def timeouts (s : OutgoingSettings) : Client :=
  ⟨.bounded s.searchTimeout (.seconds defaultSearchTimeout) (.seconds maxSearchTimeout),
    .bounded s.uploadTimeout (.seconds defaultUploadTimeout) (.seconds maxUploadTimeout),
    mostRedirects⟩

/-- What is told of something that cannot be built: the cause, with the URL if there is one. -/
def builderText (url : Option Url) (cause : String) : String :=
  Failure.text ⟨.builder, url, .broken cause⟩

/-- A fault that was found while a fault about a URL was dealt with. -/
def wrapped (url : Option Url) (cause : String) : ClientFault :=
  let inner := builderText url cause
  ⟨[builderText none inner, inner, cause]⟩

/-- The URL of a proxy, with a host. -/
def proxyUrl (text : String) : Except ClientFault Url :=
  match Url.parse text with
  | .error f => .error (wrapped none f.message)
  | .ok u => if u.hasHost then .ok u else .error (wrapped (some u) "URL scheme is not allowed")

/-- Whether a text may be the URL of a proxy without its scheme: it has no scheme, or
what stands before its colon is none. -/
def lacksScheme (text : String) : Bool :=
  match Url.parse text with
  | .error f => f == .relativeWithoutBase
  | .ok u => !u.hasHost

/-- Checks that a URL is that of a proxy. -/
def checkProxyUrl (u : Url) : Except ClientFault Unit :=
  let fault (cause : String) : ClientFault := ⟨[builderText none cause, cause]⟩
  if u.scheme ≠ "http" ∧ u.scheme ≠ "https" then .error (fault "unknown proxy scheme")
  else if !hasUriHost u then .error (fault "invalid uri character")
  else .ok ()

/-- Checks a proxy. A text without a scheme is tried as the address of an HTTP proxy, but
if this is no URL, what is told is what was wrong at first. -/
def checkProxy (text : String) : Except ClientFault Unit :=
  match proxyUrl text with
  | .ok u => checkProxyUrl u
  | .error fault =>
    if !lacksScheme text then .error fault
    else match proxyUrl ("http://" ++ text) with
      | .ok u => checkProxyUrl u
      | .error _ => .error fault

/-- A client for settings. A proxy for everything leaves the others unused. -/
def withSettings (s : OutgoingSettings) : Except ClientFault Client := do
  match s.proxies.all with
  | some all => checkProxy all
  | none =>
    match s.proxies.http with
    | some http => checkProxy http
    | none => pure ()
    match s.proxies.https with
    | some https => checkProxy https
    | none => pure ()
  return timeouts s

end Client

end ImageBot.Http
