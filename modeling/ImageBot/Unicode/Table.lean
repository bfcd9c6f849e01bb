/-!
# Tables of characters

A property of characters is given as a table of runs of code points. A table is written as
a text of entries between blanks. `300-36F` is the run from the first to the last of two
code points, `100:12E` has every second one of them, and a single code point is a run of its
own. Behind `=` stand the code points that belong to the first one of the run, with commas
between them. All numbers are hexadecimal.
-/
namespace ImageBot.Unicode

/-- A run of code points, and what belongs to the first of them. -/
structure Run where
  first : Nat
  last : Nat
  step : Nat
  target : List Nat
  deriving Repr, DecidableEq

/-- Some runs. -/
abbrev Table := List Run

namespace Run

/-- Whether a code point is in a run. -/
def holds (r : Run) (n : Nat) : Bool := r.first ≤ n && n ≤ r.last && (n - r.first) % r.step == 0

/-- What belongs to a code point of a run whose targets run along with it. -/
def image (r : Run) (n : Nat) : List Nat := r.target.map (· + (n - r.first))

/-- The value of a digit; a sign is worth nothing. -/
def digitValue (c : Char) : Nat :=
  if '0' ≤ c && c ≤ '9' then c.toNat - 48 else if 'A' ≤ c && c ≤ 'F' then c.toNat - 55 else 0

/-- The number that digits make. -/
def number (s : List Char) : Nat := s.foldl (fun n c => n * 16 + digitValue c) 0

/-- The numbers between commas. -/
def numbersFrom (value : Nat) : List Char → List Nat
  | [] => [value]
  | c :: rest =>
    if c = ',' then value :: numbersFrom 0 rest else numbersFrom (value * 16 + digitValue c) rest

/-- Whether a character ends the first number of an entry. -/
def endsFirst (c : Char) : Bool := c == '-' || c == ':' || c == '='

/-- The run of an entry. -/
def ofEntry (s : List Char) : Run :=
  let (first, rest) := s.span (!endsFirst ·)
  let (last, behind) := (if rest.head? == some '=' then [] else rest.drop 1).span (· != '=')
  let tail := if rest.head? == some '=' then rest else behind
  let target := match tail.drop 1 with
    | [] => []
    | digits => numbersFrom 0 digits
  let n := number first
  ⟨n, if last.isEmpty then n else number last, if rest.head? == some ':' then 2 else 1, target⟩

end Run

namespace Table

/-- The runs of a text, those in front of it and the letters of the entry at hand in reverse. -/
def scan (entry : List Char) (runs : Table) : List Char → Table
  | [] => (if entry.isEmpty then runs else .ofEntry entry.reverse :: runs).reverse
  | c :: rest =>
    if c == ' ' || c == '\n' then
      scan [] (if entry.isEmpty then runs else .ofEntry entry.reverse :: runs) rest
    else scan (c :: entry) runs rest

/-- The table that a text writes. -/
def ofText (s : String) : Table := scan [] [] s.toList

/-- Whether a code point is in a table. -/
def has (t : Table) (n : Nat) : Bool := t.any (·.holds n)

/-- The first run with a code point. -/
def run? (t : Table) (n : Nat) : Option Run := t.find? (·.holds n)

end Table

end ImageBot.Unicode
