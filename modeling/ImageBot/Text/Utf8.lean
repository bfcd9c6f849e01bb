/-!
# Text as bytes

`encode` writes characters as UTF-8. Reading goes one character at a time: `step`
takes the first byte of a sequence and says which character it opens and how many
further bytes belong to it, or, when no character can be read, how many further bytes
the longest beginning of a character covers. From it come the strict reader `decode`,
which reports the offset of the first byte that cannot be read, and the lossy reader
`decodeLossy`, which puts U+FFFD for each such beginning.
-/
namespace ImageBot.Text.Utf8

/-- What stands for bytes that form no character. -/
def replacement : Char := Char.ofNat 0xFFFD

/-- The bytes of one character. -/
def encodeChar (c : Char) : List UInt8 :=
  let n := c.toNat
  if n < 0x80 then [n.toUInt8]
  else if n < 0x800 then [(0xC0 + n / 0x40).toUInt8, (0x80 + n % 0x40).toUInt8]
  else if n < 0x10000 then
    [(0xE0 + n / 0x1000).toUInt8, (0x80 + n / 0x40 % 0x40).toUInt8, (0x80 + n % 0x40).toUInt8]
  else
    [(0xF0 + n / 0x40000).toUInt8, (0x80 + n / 0x1000 % 0x40).toUInt8,
      (0x80 + n / 0x40 % 0x40).toUInt8, (0x80 + n % 0x40).toUInt8]

/-- The bytes of a list of characters. -/
def encode (s : List Char) : List UInt8 := s.flatMap encodeChar

/-- The bytes of a text. -/
def bytes (s : String) : List UInt8 := encode s.toList

/-- How many bytes follow a first byte, and the least and greatest value of the
second one; nothing for a byte that opens no longer character. -/
def form? (a : Nat) : Option (Nat × Nat × Nat) :=
  if a < 0xC2 then none
  else if a < 0xE0 then some (1, 0x80, 0xBF)
  else if a = 0xE0 then some (2, 0xA0, 0xBF)
  else if a = 0xED then some (2, 0x80, 0x9F)
  else if a < 0xF0 then some (2, 0x80, 0xBF)
  else if a = 0xF0 then some (3, 0x90, 0xBF)
  else if a < 0xF4 then some (3, 0x80, 0xBF)
  else if a = 0xF4 then some (3, 0x80, 0x8F)
  else none

/-- Takes `n` continuation bytes, the first between `low` and `high`, onto a value.
The count is that of the bytes that fitted. -/
def continuation : (n : Nat) → (low high value : Nat) → List UInt8 → Option Nat × Nat
  | 0, _, _, value, _ => (some value, 0)
  | _ + 1, _, _, _, [] => (none, 0)
  | n + 1, low, high, value, b :: rest =>
    if low ≤ b.toNat ∧ b.toNat ≤ high then
      let (r, k) := continuation n 0x80 0xBF (value * 0x40 + b.toNat % 0x40) rest
      (r, k + 1)
    else (none, 0)

/-- The character that a first byte opens, if any, and the number of further bytes taken. -/
def step (a : UInt8) (rest : List UInt8) : Option Char × Nat :=
  if a < 0x80 then (some (Char.ofNat a.toNat), 0)
  else match form? a.toNat with
    | none => (none, 0)
    | some (n, low, high) =>
      let top := if n = 1 then a.toNat % 0x20 else if n = 2 then a.toNat % 0x10 else a.toNat % 0x08
      let (value, k) := continuation n low high top rest
      (value.map Char.ofNat, k)

/-- The characters of a byte string, with U+FFFD for each longest beginning of a
character that is not completed. -/
def decodeLossy : List UInt8 → List Char
  | [] => []
  | a :: rest =>
    (step a rest).1.getD replacement :: decodeLossy (rest.drop (step a rest).2)
termination_by l => l.length
decreasing_by simp only [List.length_drop, List.length_cons]; omega

/-- The characters of a byte string, or the offset of the first byte that no character
accounts for, counted from `start`. -/
def decodeFrom (start : Nat) : List UInt8 → Except Nat (List Char)
  | [] => .ok []
  | a :: rest =>
    match (step a rest).1 with
    | none => .error start
    | some c =>
      match decodeFrom (start + (step a rest).2 + 1) (rest.drop (step a rest).2) with
      | .ok cs => .ok (c :: cs)
      | .error n => .error n
termination_by l => l.length
decreasing_by simp only [List.length_drop, List.length_cons]; omega

/-- The characters of a byte string, or the offset of its first fault. -/
def decode (b : List UInt8) : Except Nat (List Char) := decodeFrom 0 b

/-- The text of a byte string, if all of it is UTF-8. -/
def text? (b : List UInt8) : Option String :=
  match decode b with
  | .ok cs => some (String.ofList cs)
  | .error _ => none

/-- The text of a byte string, faults replaced. -/
def textLossy (b : List UInt8) : String := String.ofList (decodeLossy b)

end ImageBot.Text.Utf8
