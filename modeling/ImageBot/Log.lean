import ImageBot.Decimal.Integer
import ImageBot.Text.Blank
/-!
# The log

Every entry of the log is there to inform, and has a source. A filter tells how much is
wanted of which source; of the rules that fit a source, the one that names most of it counts.
A rule about a scope of execution fits nothing, since no entry is made in one.

An entry is written as text for a terminal, so characters that would steer the terminal are
written as escapes. Line ends stay.
-/
namespace ImageBot.Log

open Decimal Text

/-- How much is wanted, from nothing to everything. -/
inductive Verbosity
  | off
  | error
  | warn
  | info
  | debug
  | trace
  deriving Repr, DecidableEq

namespace Verbosity

/-- All verbosities in increasing order, with their names. -/
def names : List (String × Verbosity) :=
  [("off", off), ("error", error), ("warn", warn), ("info", info), ("debug", debug), ("trace", trace)]

/-- The verbosity of a name in any letter case, or of its place among all. -/
def ofText? (s : List Char) : Option Verbosity :=
  match readNat (names.length - 1) s with
  | .ok n => names[n]?.map (·.2)
  | .error _ => names.lookup (lower (String.ofList s))

/-- Whether entries that inform are wanted. -/
def showsInfo : Verbosity → Bool
  | info | debug | trace => true
  | _ => false

end Verbosity

/-- The parts of the program that make entries. -/
inductive Source
  | service
  | settings
  deriving Repr, DecidableEq

/-- The name of a source. That of a part starts with that of the whole. -/
def Source.name : Source → String
  | service => "google_image_bot"
  | settings => "google_image_bot::config"

/-- A rule: which sources it is about, by the start of their names, whether it is about a
scope only, and how much it lets through. -/
structure Rule where
  target : List Char
  isScope : Bool
  verbosity : Verbosity
  deriving Repr, DecidableEq

namespace Rule

/-- Whether a character may start a rule. -/
def opens (c : Char) : Bool :=
  c == '[' || c == '-' || c == ':' || c == '_' || c.isAlphanum || 0x80 ≤ c.toNat

/-- The verbosity behind a target or scope. Where none is told, everything is wanted. -/
def verbosityBehind? : List Char → Option Verbosity
  | [] => some .trace
  | '=' :: [] => some .trace
  | '=' :: s => Verbosity.ofText? s
  | _ => none

/-- What is behind a scope, which is closed by a bracket and may have fields in braces. -/
def behindScope? (s : List Char) : Option (List Char) :=
  match s.dropWhile fun c => c != ']' && c != '\x7b' with
  | ']' :: rest => some rest
  | '\x7b' :: rest =>
    match rest.dropWhile (· != '\x7d') with
    | '\x7d' :: ']' :: rest => some rest
    | _ => none
  | _ => none

/-- Reads a rule. A text alone is a verbosity, or else a target. -/
def read? (s : List Char) : Option Rule :=
  if !s.head?.any opens then none
  else
    let (target, rest) := s.span fun c => c != '=' && c != '['
    match rest with
    | [] =>
      match Verbosity.ofText? target with
      | some v => some ⟨[], false, v⟩
      | none => some ⟨target, false, .trace⟩
    | '[' :: scope => ((behindScope? scope).bind verbosityBehind?).map fun v => ⟨target, true, v⟩
    | level => (verbosityBehind? level).map fun v => ⟨target, false, v⟩

/-- Whether a rule is about a source. -/
def fits (r : Rule) (source : Source) : Bool := !r.isScope && r.target.isPrefixOf source.name.toList

end Rule

/-- A filter, which is its rules. -/
structure Filter where
  rules : List Rule
  deriving Repr, DecidableEq

namespace Filter

/-- The variable that holds a filter. -/
def variableName : String := "RUST_LOG"

/-- The filter that is used where none is told: what informs is wanted. -/
def default : Filter := ⟨[⟨[], false, .info⟩]⟩

/-- The text without blanks around it. -/
def trim (s : List Char) : List Char := (trimStart (trimStart s).reverse).reverse

/-- Reads a filter: rules with commas between them. -/
def ofText? (s : String) : Option Filter :=
  let texts := (s.splitOn ",").filter (!·.isEmpty)
  (texts.mapM fun t => Rule.read? (trim t.toList)).map fun rules => ⟨rules⟩

/-- The filter in a variable. One that cannot be read counts as none. -/
def ofVariable (value : Option String) : Filter := (value.bind ofText?).getD default

/-- The rule that counts for a source: the one with the longest target, and of equally long
ones the last. -/
def rule? (f : Filter) (source : Source) : Option Rule :=
  f.rules.foldl (fun best r =>
    if r.fits source && best.all (fun b => b.target.length ≤ r.target.length) then some r
    else best) none

/-- Whether the entries of a source are wanted. -/
def shows (f : Filter) (source : Source) : Bool :=
  (f.rule? source).any (·.verbosity.showsInfo)

end Filter

/-- A character as it is written. -/
def escapeChar (c : Char) : List Char :=
  let n := c.toNat
  if n = 0x1B then "\\x1b".toList
  else if n = 7 then "\\x07".toList
  else if n = 8 then "\\x08".toList
  else if n = 0x0C then "\\x0c".toList
  else if n = 0x7F then "\\x7f".toList
  else if 0x80 ≤ n ∧ n ≤ 0x9F then ['\\', 'u', '\x7b'] ++ Nat.toDigits 16 n ++ ['\x7d']
  else [c]

/-- An entry. -/
structure Entry where
  source : Source
  text : String
  deriving Repr, DecidableEq

/-- The lines of an entry as they are written. -/
def Entry.lines (e : Entry) : List String :=
  ("INFO " ++ String.ofList (e.text.toList.flatMap escapeChar)).splitOn "\n"

/-- The lines of the entries that are wanted. -/
def lines (f : Filter) (entries : List Entry) : List String :=
  (entries.filter fun e => f.shows e.source).flatMap Entry.lines

end ImageBot.Log
