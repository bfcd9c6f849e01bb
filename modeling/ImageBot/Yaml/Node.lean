import ImageBot.Yaml.Token
/-!
# A document as a tree

A document that breaks off is still a tree: its open collections end with the fault in
place of what could not be read. So what comes first in a document is told first, be it a
fault or a mismatch with what was wanted.
-/
namespace ImageBot.Yaml

/-- A scalar: its tag, if it has one, its style and its text. -/
structure Scalar where
  tag : Option String
  style : Style
  text : String
  deriving Repr, DecidableEq

/-- The scalar that stands where there is nothing. -/
def Scalar.absent : Scalar := ⟨none, .plain, ""⟩

mutual
/-- A value of a document. An anchor is the number that aliases of the value have. -/
inductive Node
  | scalar (mark : Mark) (anchor : Option Nat) (value : Scalar)
  | alias (mark : Mark) (anchor : Nat)
  | sequence (mark : Mark) (anchor : Option Nat) (items : Items)
  | mapping (mark : Mark) (anchor : Option Nat) (entries : Entries)
  | broken (fault : Fault)
/-- The items of a sequence up to its end or to a fault. -/
inductive Items
  | closed
  | broken (fault : Fault)
  | item (value : Node) (rest : Items)
/-- The entries of a mapping up to its end or to a fault. -/
inductive Entries
  | closed
  | broken (fault : Fault)
  | entry (key value : Node) (rest : Entries)
end

deriving instance DecidableEq for Node, Items, Entries

/-- The fault that ends a sequence. -/
def Items.fault? : Items → Option Fault
  | .closed => none
  | .broken f => some f
  | .item _ rest => rest.fault?

/-- The fault that ends a mapping. -/
def Entries.fault? : Entries → Option Fault
  | .closed => none
  | .broken f => some f
  | .entry _ _ rest => rest.fault?

/-- The fault that a value runs into. A fault of an element is also that of its collection. -/
def Node.fault? : Node → Option Fault
  | .sequence _ _ items => items.fault?
  | .mapping _ _ entries => entries.fault?
  | .broken f => some f
  | _ => none

/-- The values that aliases stand for, by their numbers. -/
abbrev Anchors := List (Nat × Node)

mutual
/-- The anchored values in a value, the last one first, in front of those before it. -/
def Node.anchors (before : Anchors) : Node → Anchors
  | .scalar mark anchor value =>
    match anchor with
    | some n => (n, .scalar mark anchor value) :: before
    | none => before
  | .sequence mark anchor items =>
    match anchor with
    | some n => items.anchors ((n, .sequence mark anchor items) :: before)
    | none => items.anchors before
  | .mapping mark anchor entries =>
    match anchor with
    | some n => entries.anchors ((n, .mapping mark anchor entries) :: before)
    | none => entries.anchors before
  | _ => before
/-- The anchored values in a sequence. -/
def Items.anchors (before : Anchors) : Items → Anchors
  | .item value rest => rest.anchors (value.anchors before)
  | _ => before
/-- The anchored values in a mapping. -/
def Entries.anchors (before : Anchors) : Entries → Anchors
  | .entry key value rest => rest.anchors (value.anchors (key.anchors before))
  | _ => before
end

/-- What an alias stands for; anything else stands for itself. -/
def Node.resolve (anchors : Anchors) : Node → Node
  | .alias mark n => (anchors.lookup n).getD (.broken ⟨"unknown anchor", mark, none⟩)
  | node => node

/-- A text with its first document: the value of it, unless the text is empty, the fault
at its end, and whether there is more behind it. -/
structure Document where
  root : Option Node
  fault : Option Fault
  more : Bool
  deriving DecidableEq

end ImageBot.Yaml
