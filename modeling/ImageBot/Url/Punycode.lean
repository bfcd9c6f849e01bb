/-!
# Punycode

Punycode writes any characters in ASCII letters, digits and hyphens: first the basic
characters, then, behind a hyphen, the others in increasing order. Each of them is a
number that says how many (character, position) pairs lie between it and the one before,
in a notation to base 36 whose digit weights follow the sizes seen so far. The constants
and the procedures are those of RFC 3492.
-/
namespace ImageBot.Url.Punycode

/-- A digit as a character. -/
def digitChar (d : Nat) : Char := if d < 26 then Char.ofNat (97 + d) else Char.ofNat (22 + d)

/-- The value of a digit. -/
def digitValue? (c : Char) : Option Nat :=
  let n := c.toNat
  if 97 ≤ n ∧ n ≤ 122 then some (n - 97)
  else if 65 ≤ n ∧ n ≤ 90 then some (n - 65)
  else if 48 ≤ n ∧ n ≤ 57 then some (n - 22)
  else none

/-- The least value of the digit at place `k` that does not end a number. -/
def threshold (k bias : Nat) : Nat :=
  if k ≤ bias + 1 then 1 else if bias + 26 ≤ k then 26 else k - bias

/-- Divides a difference by 35 until it is small, counting the places. -/
def shrink : (fuel delta k : Nat) → Nat × Nat
  | 0, delta, k => (delta, k)
  | fuel + 1, delta, k => if 455 < delta then shrink fuel (delta / 35) (k + 36) else (delta, k)

/-- The bias after a difference of which `count` characters are written. -/
def adapt (delta count : Nat) (first : Bool) : Nat :=
  let scaled := if first then delta / 700 else delta / 2
  let (d, k) := shrink scaled (scaled + scaled / count) 0
  k + 36 * d / (d + 38)

/-- The digits of a number from place `k` on. -/
def writeNumber (bias : Nat) : (fuel k n : Nat) → List Char
  | 0, _, n => [digitChar n]
  | fuel + 1, k, n =>
    let t := threshold k bias
    if n < t then [digitChar n]
    else digitChar (t + (n - t) % (36 - t)) :: writeNumber bias fuel (k + 36) ((n - t) / (36 - t))

/-- The state of writing: digits so far, the difference since the last character, the
bias, and how many characters are written. -/
structure Writer where
  digits : List Char
  delta : Nat
  bias : Nat
  written : Nat

/-- Passes a character of the text while the characters `code` are written. -/
def Writer.pass (basic code : Nat) (w : Writer) (c : Nat) : Writer :=
  if c < code then { w with delta := w.delta + 1 }
  else if c = code then
    ⟨w.digits ++ writeNumber w.bias w.delta 36 w.delta, 0,
      adapt w.delta (w.written + 1) (w.written == basic), w.written + 1⟩
  else w

/-- Writes all characters of each code in turn; `next` is the code after the last one. -/
def Writer.run (text : List Nat) (basic : Nat) : Writer → (next : Nat) → List Nat → Writer
  | w, _, [] => w
  | w, next, code :: codes =>
    let w := { w with delta := w.delta + (code - next) * (w.written + 1) }
    let w := text.foldl (Writer.pass basic code) w
    Writer.run text basic { w with delta := w.delta + 1 } (code + 1) codes

/-- Puts a code into an increasing list without repetitions. -/
def insertCode (x : Nat) : List Nat → List Nat
  | [] => [x]
  | y :: ys => if x < y then x :: y :: ys else if x = y then y :: ys else y :: insertCode x ys

/-- The Punycode of a text. -/
def encode (s : List Char) : List Char :=
  let text := s.map Char.toNat
  let basic := s.filter fun c => c.toNat < 0x80
  let codes := (text.filter fun c => 0x80 ≤ c).foldl (fun l c => insertCode c l) []
  let w := Writer.run text basic.length ⟨[], 0, 72, basic.length⟩ 0x80 codes
  basic ++ (if basic.isEmpty then [] else ['-']) ++ w.digits

/-- Reads a number from place `k` on; `weight` is the weight of the next digit. -/
def readNumber (bias : Nat) : (k weight value : Nat) → List Char → Option (Nat × List Char)
  | _, _, _, [] => none
  | k, weight, value, c :: rest =>
    match digitValue? c with
    | none => none
    | some d =>
      let t := threshold k bias
      if d < t then some (value + d * weight, rest)
      else readNumber bias (k + 36) (weight * (36 - t)) (value + d * weight) rest

/-- Reads characters into a text; `next` and `position` are those of the last one read. -/
def readText : (fuel : Nat) → (bias next position : Nat) → List Nat → List Char → Option (List Nat)
  | _, _, _, _, text, [] => some text
  | 0, _, _, _, _, _ :: _ => none
  | fuel + 1, bias, next, position, text, digits =>
    match readNumber bias 36 1 0 digits with
    | none => none
    | some (n, rest) =>
      let size := text.length + 1
      let code := next + (position + n) / size
      let index := (position + n) % size
      if 0x10FFFF < code then none
      else
        readText fuel (adapt n size (position == 0)) code (index + 1)
          (text.take index ++ code :: text.drop index) rest

/-- The text before the last hyphen, if there is some, and what follows the hyphen. -/
def splitBasic (s : List Char) : List Char × List Char :=
  match s.reverse.span (· != '-') with
  | (_, []) => ([], s)
  | (_, [_]) => ([], s)
  | (after, _ :: before) => (before.reverse, after.reverse)

/-- The text of a Punycode. -/
def decode (s : List Char) : Option (List Char) :=
  let (basic, digits) := splitBasic s
  match readText digits.length 72 0x80 0 (basic.map Char.toNat) digits with
  | some codes => if codes.all fun n => n.isValidChar then some (codes.map Char.ofNat) else none
  | none => none

end ImageBot.Url.Punycode
