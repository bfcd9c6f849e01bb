import ImageBot.Text.Blank
/-!
# Media types

A media type is a kind and a subtype, with parameters behind semicolons. Letter case does
not matter, and of the parameters it only matters that they are well formed. A subtype may
end in a suffix behind a plus sign, which names a syntax that the type is built on.
-/
namespace ImageBot.Service

open Text

/-- A media type without its parameters, in lower case. -/
structure MediaType where
  kind : String
  subtype : String
  suffix : Option String
  deriving Repr, DecidableEq

namespace MediaType

/-- Whether a character may stand in a name. -/
def isToken (c : Char) : Bool :=
  ('0' ≤ c && c ≤ '9') || ('A' ≤ c && c ≤ 'Z') || ('a' ≤ c && c ≤ 'z') ||
    "!#$%&'*+-.^_|~".toList.contains c || c.toNat == 0x60

/-- Whether a character may stand between quotation marks. -/
def isQuotable (c : Char) : Bool := 31 < c.toNat && c.toNat != 127

/-- Where in its parameters a text is. -/
inductive Place
  | beforeName
  | name
  | beforeValue
  | value
  | openQuote
  | quoted
  | afterQuote
  deriving Repr, DecidableEq

/-- The place behind one more character, unless it cannot stand there. A first quotation
mark behind the opening one belongs to the value. -/
def Place.step (c : Char) : Place → Option Place
  | beforeName => if c = ' ' then some beforeName else if isToken c then some name else none
  | name => if isToken c then some name else if c = '=' then some beforeValue else none
  | beforeValue => if c = '"' then some openQuote else if isToken c then some value else none
  | value => if isToken c then some value else if c = ';' then some beforeName else none
  | openQuote => if isQuotable c then some quoted else none
  | quoted => if c = '"' then some afterQuote else if isQuotable c then some quoted else none
  | afterQuote => if c = ';' then some beforeName else if c = ' ' then some afterQuote else none

/-- Whether parameters may end at a place. -/
def Place.mayEnd : Place → Bool
  | beforeName | beforeValue | value | afterQuote => true
  | _ => false

/-- Whether parameters are well formed from a place on. -/
def wellFormed : Place → List Char → Bool
  | p, [] => p.mayEnd
  | p, c :: rest =>
    match p.step c with
    | some q => wellFormed q rest
    | none => false

/-- A subtype and its suffix, which starts behind the last plus sign unless this is its
first character. -/
def splitSuffix (s : List Char) : List Char × Option (List Char) :=
  let last := (s.reverse.takeWhile (· != '+')).reverse
  let before := s.length - last.length - 1
  if before = 0 then (s, none) else (s.take before, some last)

/-- Reads a media type. A subtype may be empty only where nothing follows it. -/
def read? (s : List Char) : Option MediaType :=
  let kind := s.takeWhile isToken
  match s.drop kind.length with
  | '/' :: rest =>
    let name := rest.takeWhile isToken
    let parameters := rest.drop name.length
    let fits := match parameters with
      | [] => true
      | ';' :: more => !name.isEmpty && wellFormed .beforeName more
      | _ => false
    if kind.isEmpty || !fits then none
    else
      let (subtype, suffix) := splitSuffix name
      let text (t : List Char) : String := lower (String.ofList t)
      some ⟨text kind, text subtype, suffix.map text⟩
  | _ => none

/-- Whether a media type is one of JSON documents. -/
def isJson (t : MediaType) : Bool :=
  t.kind == "application" && (t.subtype == "json" || t.suffix == some "json")

end MediaType

end ImageBot.Service
