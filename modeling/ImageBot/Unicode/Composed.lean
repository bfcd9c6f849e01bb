import ImageBot.Unicode.Decomposition
/-!
# Composed text

Texts that mean the same have one composed form: every character is taken apart, the marks
behind a character are put in the order of their classes, and then what can be is put
together again, unless a mark stands between that is not of a lower class. Text in which
all code points are small is in this form already.
-/
namespace ImageBot.Unicode

namespace Hangul

/-- The first syllable. -/
def syllables : Nat := 0xAC00

/-- The first leading consonant. -/
def leads : Nat := 0x1100

/-- The first vowel. -/
def vowels : Nat := 0x1161

/-- The code point before the first trailing consonant. -/
def trails : Nat := 0x11A7

/-- What a syllable is made of. -/
def parts? (n : Nat) : Option (List Nat) :=
  if syllables ≤ n ∧ n < syllables + 19 * 21 * 28 then
    let k := n - syllables
    let open_ := [leads + k / (21 * 28), vowels + k % (21 * 28) / 28]
    some (if k % 28 = 0 then open_ else open_ ++ [trails + k % 28])
  else none

/-- The syllable that two code points make. -/
def syllable? (a b : Nat) : Option Nat :=
  if leads ≤ a ∧ a < leads + 19 ∧ vowels ≤ b ∧ b < vowels + 21 then
    some (syllables + ((a - leads) * 21 + (b - vowels)) * 28)
  else if syllables ≤ a ∧ a < syllables + 19 * 21 * 28 ∧ (a - syllables) % 28 = 0 ∧
      trails < b ∧ b < trails + 28 then
    some (a + (b - trails))
  else none

end Hangul

/-- A code point taken apart, and its parts as well. -/
def decompose : (fuel : Nat) → Nat → List Nat
  | 0, n => [n]
  | fuel + 1, n =>
    match Hangul.parts? n, replacements.run? n, compositions.run? n with
    | some parts, _, _ => parts
    | none, some r, _ => r.target
    | none, none, some r => r.target.flatMap (decompose fuel)
    | none, none, none => [n]

/-- The combining class of a code point. -/
def combiningClass (n : Nat) : Nat :=
  match combiningClasses.run? n with
  | some r => r.target.headD 0
  | none => 0

/-- Puts a code point of a class behind a text in reverse, and in front of the marks of higher
classes at its end. -/
def insertMark (n k : Nat) : List (Nat × Nat) → List (Nat × Nat)
  | [] => [(n, k)]
  | (m, j) :: before =>
    if 0 < k ∧ k < j then (m, j) :: insertMark n k before else (n, k) :: (m, j) :: before

/-- Code points with their classes, the marks in order. -/
def ordered (s : List Nat) : List (Nat × Nat) :=
  (s.foldl (fun done n => insertMark n (combiningClass n) done) []).reverse

/-- The character that two code points make. -/
def compose? (a b : Nat) : Option Nat :=
  match Hangul.syllable? a b with
  | some n => some n
  | none => (compositions.find? fun r => r.target == [a, b]).map (·.first)

/-- Puts together what follows a character. The marks that stayed behind it are in reverse, and
`top` is the class of the last one of them. -/
def composeFrom (base : Nat) (marks : List Nat) (top : Nat) : List (Nat × Nat) → List Nat
  | [] => base :: marks.reverse
  | (n, k) :: rest =>
    match if marks.isEmpty || top < k then compose? base n else none with
    | some whole => composeFrom whole marks top rest
    | none =>
      if k = 0 then base :: (marks.reverse ++ composeFrom n [] 0 rest)
      else composeFrom base (n :: marks) k rest

/-- The composed form of a text. -/
def composed (s : List Nat) : List Nat :=
  if s.all (· < 0x300) then s
  else match ordered (s.flatMap (decompose 8)) with
    | [] => []
    | (base, _) :: rest => composeFrom base [] 0 rest

end ImageBot.Unicode
