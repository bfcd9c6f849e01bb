import ImageBot.Text.Base64
import ImageBot.Url.Basic
/-!
# URLs that are sent

A URL is sent as a URI, which is stricter about hosts and limited in length. A URL without a
host is a URI only if all of it reads like an authority. A user whom a URL names is told in
a header instead, unless the name is no text.
-/
namespace ImageBot.Http

open Text

/-- Characters that may stand in the host of a URL, but not in that of a URI. -/
def uriStrangers : List Char := ['"', '%', '\x60', '\x7b', '\x7d']

/-- Whether the host of a URL may be that of a URI. -/
def hasUriHost (u : Url) : Bool :=
  u.authority.all fun a => !a.host.text.toList.any uriStrangers.contains

/-- The greatest number of bytes in a URI. -/
def longestUri : Nat := 65534

/-- Whether a URL with a host is a URI. -/
def isUri (u : Url) : Bool := hasUriHost u && u.text.utf8ByteSize ≤ longestUri

/-- The greatest number of characters in the scheme of a URI. -/
def longestScheme : Nat := 64

/-- The greatest number of colons in a row of groups. -/
def mostColons : Nat := 8

/-- Whether a text is an authority. Colons and percent signs in front of an `@` or inside
brackets are forgotten behind it; of those that stay there may be one and none. -/
def isAuthority : (colons : Nat) → (opened closed percent : Bool) → List Char → Bool
  | colons, opened, closed, percent, [] => colons ≤ 1 && opened == closed && !percent
  | colons, opened, closed, percent, c :: rest =>
    if c == ':' then colons < mostColons && isAuthority (colons + 1) opened closed percent rest
    else if c == '%' then isAuthority colons opened closed true rest
    else if c == '[' then !opened && !percent && isAuthority colons true closed percent rest
    else if c == ']' then opened && !closed && isAuthority 0 opened true false rest
    else if c == '@' then !rest.isEmpty && isAuthority 0 opened closed false rest
    else (c.isAlphanum || "!$&'()*+,-.;=_~".toList.contains c) &&
      isAuthority colons opened closed percent rest

/-- Whether any URL is a URI. -/
def isAnyUri (u : Url) : Bool :=
  isUri u &&
    if u.authority.isSome then u.hasHost && u.scheme.length ≤ longestScheme
    else isAuthority 0 false false false u.text.toList

/-- The text that a part of a URL stands for, if it stands for one. -/
def plainText? (s : String) : Option String := Utf8.text? (Url.decodeBytes (Utf8.bytes s))

/-- User name and password as they are told, if there is one of them. A password that is no
text counts for nothing. -/
def credentials? (a : Url.Authority) : Option String :=
  match plainText? a.username with
  | none => none
  | some name =>
    let password? := if a.password.isEmpty then none else plainText? a.password
    if name.isEmpty && password?.isNone then none else some (name ++ ":" ++ password?.getD "")

/-- The header for user name and password. -/
def basicHeader (credentials : String) : String × String :=
  ("authorization", "Basic " ++ String.ofList (Base64.encode (Utf8.bytes credentials)))

/-- The URL to which a request is sent whose user is told in a header. -/
def withoutCredentials (u : Url) : Url :=
  { u with authority := u.authority.map fun a =>
      if (credentials? a).isSome then { a with username := "", password := "" } else a }

end ImageBot.Http
