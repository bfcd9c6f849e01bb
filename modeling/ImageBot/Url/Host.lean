import ImageBot.Url.Domain
/-!
# Hosts

A host is a domain name or an address. Where the scheme is special, a name that ends in
a number is an IPv4 address in one of its shorter or older forms: one to four numbers, in
decimal, octal or hexadecimal, of which the last one fills what the others leave. An IPv6
address stands in brackets.
-/
namespace ImageBot.Url

/-- A host. The pieces of an IPv6 address are its eight groups of 16 bits. -/
inductive Host
  | domain (name : String)
  | ipv4 (address : Nat)
  | ipv6 (pieces : List Nat)
  deriving Repr, DecidableEq

namespace Ipv4

/-- The value of a digit to a base. -/
def digit? (base : Nat) (c : Char) : Option Nat :=
  let n := c.toNat
  let value :=
    if 48 ≤ n ∧ n ≤ 57 then n - 48
    else if 97 ≤ n ∧ n ≤ 102 then n - 87
    else if 65 ≤ n ∧ n ≤ 70 then n - 55
    else base
  if value < base then some value else none

/-- Reads digits to a base. -/
def digits? (base : Nat) : (value : Nat) → List Char → Option Nat
  | value, [] => some value
  | value, c :: rest =>
    match digit? base c with
    | some d => digits? base (value * base + d) rest
    | none => none

/-- Reads one number of an address. The prefix tells its base. -/
def number? (s : List Char) : Option Nat :=
  match s with
  | [] => none
  | '0' :: 'x' :: rest => digits? 16 0 rest
  | '0' :: 'X' :: rest => digits? 16 0 rest
  | '0' :: c :: rest => digits? 8 0 (c :: rest)
  | s => digits? 10 0 s

/-- Whether the last part of a name that is not empty at the end is a number. -/
def endsInNumber (parts : List (List Char)) : Bool :=
  let last? := match parts.reverse with
    | [] :: before :: _ => some before
    | [[]] => none
    | last :: _ => some last
    | [] => none
  match last? with
  | none => false
  | some last => (!last.isEmpty && last.all fun c => 48 ≤ c.toNat && c.toNat ≤ 57) || (number? last).isSome

/-- The address that numbers make. -/
def assemble : (place : Nat) → List Nat → Option Nat
  | _, [] => none
  | place, [last] => if last < Nat.pow 256 (4 - place) then some last else none
  | place, n :: rest =>
    if 255 < n then none
    else (assemble (place + 1) rest).map fun tail => n * Nat.pow 256 (3 - place) + tail

/-- Reads an address from the parts of a name. -/
def parse (parts : List (List Char)) : Except Fault Nat :=
  let parts := if parts.getLast? == some [] then parts.dropLast else parts
  if 4 < parts.length then .error .invalidIpv4
  else match parts.mapM number? with
    | none => .error .invalidIpv4
    | some numbers =>
      match assemble 0 numbers with
      | none => .error .invalidIpv4
      | some address => .ok address

/-- The text of an address. -/
def text (address : Nat) : String :=
  s!"{address / 16777216 % 256}.{address / 65536 % 256}.{address / 256 % 256}.{address % 256}"

end Ipv4

namespace Ipv6

/-- Up to `n` hexadecimal digits, and what follows them. -/
def hex : (n value : Nat) → List Char → Nat × List Char
  | 0, value, s => (value, s)
  | _ + 1, value, [] => (value, [])
  | n + 1, value, c :: rest =>
    match Ipv4.digit? 16 c with
    | some d => hex n (value * 16 + d) rest
    | none => (value, c :: rest)

/-- A decimal number up to 255 without a superfluous zero. -/
def octet? (s : List Char) : Option Nat :=
  match s with
  | [] => none
  | '0' :: _ :: _ => none
  | s => (Ipv4.digits? 10 0 s).bind fun n => if n ≤ 255 then some n else none

/-- The two pieces that four decimal numbers make. -/
def dotted? (s : List Char) : Option (List Nat) :=
  match (splitOn '.' s).mapM octet? with
  | some [a, b, c, d] => some [a * 256 + b, c * 256 + d]
  | _ => none

/-- The pieces read so far, and how many of them stand before the zeros left out. -/
structure Reader where
  pieces : List Nat
  gap : Option Nat

/-- How many pieces are known of; zeros left out are at least one. -/
def Reader.count (r : Reader) : Nat := r.pieces.length + if r.gap.isSome then 1 else 0

/-- Reads pieces up to the end of the text. -/
def Reader.run : (fuel : Nat) → Reader → List Char → Option Reader
  | _, r, [] => some r
  | 0, _, _ :: _ => none
  | fuel + 1, r, c :: rest =>
    if r.count = 8 then none
    else if c = ':' then
      if r.gap.isSome then none else Reader.run fuel { r with gap := some r.pieces.length } rest
    else
      let (value, after) := hex 4 0 (c :: rest)
      match after with
      | [] => some { r with pieces := r.pieces ++ [value] }
      | '.' :: _ =>
        if 6 < r.count then none
        else (dotted? (c :: rest)).map fun two => { r with pieces := r.pieces ++ two }
      | ':' :: more =>
        if more.isEmpty then none else Reader.run fuel { r with pieces := r.pieces ++ [value] } more
      | _ => none

/-- Reads an address. -/
def parse (s : List Char) : Except Fault (List Nat) :=
  let read : Option Reader := match s with
    | [] => none
    | [_] => none
    | ':' :: ':' :: rest => Reader.run s.length ⟨[], some 0⟩ rest
    | ':' :: _ => none
    | s => Reader.run s.length ⟨[], none⟩ s
  match read with
  | none => .error .invalidIpv6
  | some r =>
    match r.gap with
    | some k =>
      .ok (r.pieces.take k ++ List.replicate (8 - r.pieces.length) 0 ++ r.pieces.drop k)
    | none => if r.pieces.length = 8 then .ok r.pieces else .error .invalidIpv6

/-- The length of the run of zeros a list starts with. -/
def zeros (pieces : List Nat) : Nat := (pieces.takeWhile (· == 0)).length

/-- The start and length of the first longest run of zeros, looked for from `index` on. -/
def longestRun : (index : Nat) → (best : Nat × Nat) → List Nat → Nat × Nat
  | _, best, [] => best
  | index, best, p :: rest =>
    let n := zeros (p :: rest)
    longestRun (index + 1) (if best.2 < n then (index, n) else best) rest

/-- A piece in hexadecimal. -/
def pieceText (n : Nat) : String := String.ofList (Nat.toDigits 16 n)

/-- The text of an address, its first longest run of at least two zeros left out. -/
def text (pieces : List Nat) : String :=
  let join (l : List Nat) : String := String.intercalate ":" (l.map pieceText)
  let (start, length) := longestRun 0 (0, 0) pieces
  if length < 2 then join pieces
  else join (pieces.take start) ++ "::" ++ join (pieces.drop (start + length))

end Ipv6

namespace Host

/-- The text of a host. -/
def text : Host → String
  | domain name => name
  | ipv4 address => Ipv4.text address
  | ipv6 pieces => "[" ++ Ipv6.text pieces ++ "]"

/-- Whether there is a host at all. -/
def isSome : Host → Bool
  | domain name => !name.isEmpty
  | _ => true

/-- The address in brackets, if a host starts with a bracket. -/
def bracketed? (s : List Char) : Option (Except Fault Host) :=
  match s with
  | '[' :: rest =>
    some (if rest.getLast? == some ']' then (Ipv6.parse rest.dropLast).map .ipv6 else .error .invalidIpv6)
  | _ => none

/-- The host of a URL with a special scheme. -/
def parse (s : List Char) : Except Fault Host :=
  match bracketed? s with
  | some host => host
  | none => do
    let name ← domainToAscii s
    if name.isEmpty then throw .emptyHost
    let parts := splitOn '.' name
    if Ipv4.endsInNumber parts then return .ipv4 (← Ipv4.parse parts)
    else return .domain (String.ofList name)

/-- Characters that no host has, whatever the scheme. -/
def opaqueSet : CharSet := CharSet.with (fun n => n == 0 || n == 9 || n == 10 || n == 13) " #/:<>?@[\\]^|"

/-- The host of a URL with any other scheme, which is kept as it is. -/
def parseOpaque (s : List Char) : Except Fault Host :=
  match bracketed? s with
  | some host => host
  | none =>
    if s.any fun c => opaqueSet c.toNat then .error .invalidDomainCharacter
    else .ok (.domain (String.ofList (encode controlSet s)))

end Host

end ImageBot.Url
