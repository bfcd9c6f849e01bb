/-!
# Blanks, words and letter case

Blanks are the characters that have the Unicode property White_Space. A phrase is
read as a list of words, which are its longest runs without a blank. Letter case is
ASCII only: two words match when they differ at most in the case of `A` to `Z`.
-/
namespace ImageBot.Text

/-- The characters with the Unicode property White_Space. -/
def isBlank (c : Char) : Bool :=
  let n := c.toNat
  (9 ≤ n && n ≤ 13) || n == 0x20 || n == 0x85 || n == 0xA0 || n == 0x1680 ||
    (0x2000 ≤ n && n ≤ 0x200A) || n == 0x2028 || n == 0x2029 || n == 0x202F ||
    n == 0x205F || n == 0x3000

/-- The run of characters before the first blank, and the words after that run. -/
def leadingWord : List Char → List Char × List (List Char)
  | [] => ([], [])
  | c :: rest =>
    let (run, later) := leadingWord rest
    if isBlank c then ([], if run.isEmpty then later else run :: later)
    else (c :: run, later)

/-- The words of a phrase, in order. -/
def words (s : List Char) : List (List Char) :=
  let (run, later) := leadingWord s
  if run.isEmpty then later else run :: later

/-- The phrase without the blanks it starts with. -/
def trimStart (s : List Char) : List Char := s.dropWhile isBlank

/-- Whether a text holds nothing but blanks. -/
def isAllBlank (s : String) : Bool := s.toList.all isBlank

/-- The text after a leading marker, if the text starts with the marker. -/
def afterMarker? : List Char → List Char → Option (List Char)
  | [], s => some s
  | _ :: _, [] => none
  | m :: marker, c :: s => if m = c then afterMarker? marker s else none

/-- The lower-case form of an ASCII capital; every other character is its own. -/
def lowerChar (c : Char) : Char :=
  if 'A' ≤ c && c ≤ 'Z' then Char.ofNat (c.toNat + 32) else c

/-- The text with its ASCII capitals in lower case. -/
def lower (s : String) : String := String.ofList (s.toList.map lowerChar)

/-- Equality up to ASCII case. -/
def sameLetters (a b : List Char) : Bool := a.map lowerChar == b.map lowerChar

end ImageBot.Text
