import ImageBot.Url.Host
/-!
# URLs

A URL is kept in its parts, each of them encoded already. A path is a list of segments
behind a slash each; a URL without an authority may instead have an opaque path, which is
kept as one text.
-/
namespace ImageBot

namespace Url

/-- Who and where: the user, the host, and the port unless it is that of the scheme. -/
structure Authority where
  username : String
  password : String
  host : Host
  port : Option Nat
  deriving Repr, DecidableEq

/-- A path. No segments at all is the empty path, one empty segment is `/`. -/
inductive Path
  | plain (text : String)
  | segments (list : List String)
  deriving Repr, DecidableEq

end Url

/-- A URL. -/
structure Url where
  scheme : String
  authority : Option Url.Authority
  path : Url.Path
  query : Option String
  fragment : Option String
  deriving Repr, DecidableEq

namespace Url

/-- The schemes that the rules for the web apply to. -/
inductive Kind
  | web
  | file
  | other
  deriving Repr, DecidableEq

/-- The kind of a scheme. -/
def Kind.of (scheme : String) : Kind :=
  if scheme = "file" then .file
  else if ["http", "https", "ws", "wss", "ftp"].contains scheme then .web
  else .other

/-- Whether the backslash separates like the slash. -/
def Kind.isSpecial : Kind → Bool
  | .other => false
  | _ => true

/-- The port of a scheme. -/
def defaultPort (scheme : String) : Option Nat :=
  if scheme = "http" ∨ scheme = "ws" then some 80
  else if scheme = "https" ∨ scheme = "wss" then some 443
  else if scheme = "ftp" then some 21
  else none

/-- The text of user name and password with the `@` behind them. -/
def Authority.userText (a : Authority) : String :=
  if a.username.isEmpty && a.password.isEmpty then ""
  else a.username ++ (if a.password.isEmpty then "" else ":" ++ a.password) ++ "@"

/-- The text of an authority. -/
def Authority.text (a : Authority) : String :=
  a.userText ++ a.host.text ++ (match a.port with
    | some port => ":" ++ toString port
    | none => "")

/-- The text of a path. -/
def Path.text : Path → String
  | .plain text => text
  | .segments list => String.join (list.map ("/" ++ ·))

/-- Whether a path would be taken for an authority when it follows the scheme. -/
def Path.looksLikeAuthority : Path → Bool
  | .segments ("" :: _ :: _) => true
  | _ => false

/-- Whether a URL has a host. -/
def hasHost (u : Url) : Bool := u.authority.any (·.host.isSome)

/-- A URL that names no user. -/
def anonymous (u : Url) : Url :=
  { u with authority := u.authority.map fun a => { a with username := "", password := "" } }

/-- The text of the host of a URL. -/
def hostText? (u : Url) : Option String := u.authority.map (·.host.text)

/-- The port of a URL, be it that of the scheme. -/
def portInUse (u : Url) : Option Nat := (u.authority.bind (·.port)).or (defaultPort u.scheme)

/-- The text of a URL. -/
def text (u : Url) : String :=
  u.scheme ++ ":" ++
    (match u.authority with
      | some a => "//" ++ a.text
      | none => if u.path.looksLikeAuthority then "/." else "") ++
    u.path.text ++
    (match u.query with
      | some q => "?" ++ q
      | none => "") ++
    (match u.fragment with
      | some f => "#" ++ f
      | none => "")

end Url

end ImageBot
