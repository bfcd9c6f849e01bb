import ImageBot.Json.Parser
import ImageBot.Proofs.Json.Literals
import Mathlib.Data.List.DropRight
/-!
# Where numbers stand in a document

The tree of a document keeps of a number what it is and where it ends. What is written in front of
that place is the number and nothing else, since the parser only begins a value behind a blank or
a sign that no number has. So the document tells of every number in the tree how it is written.
-/
namespace ImageBot.Json

open Text

/-- What is written in front of a place with the bytes of a number. -/
def numberAt (document : List UInt8) (stop : Nat) : List UInt8 :=
  (document.take stop).rtakeWhile isNumberByte

mutual
/-- Every number in a tree is what it is by how it is written in the document. -/
def Node.Spelled (document : List UInt8) : Node → Prop
  | .number n stop => Number.Spells (numberAt document stop) n
  | .array _ items => items.Spelled document
  | .object _ members => members.Spelled document
  | _ => True
/-- The same for items. -/
def Items.Spelled (document : List UInt8) : Items → Prop
  | .item v _ rest => v.Spelled document ∧ rest.Spelled document
  | _ => True
/-- The same for members. -/
def Members.Spelled (document : List UInt8) : Members → Prop
  | .member _ _ v _ rest => v.Spelled document ∧ rest.Spelled document
  | _ => True
end

/-! ### Cursors over a document -/

/-- A cursor has the rest of a document. -/
def Cursor.IsIn (document : List UInt8) (c : Cursor) : Prop := c.rest = document.drop c.offset

/-- A cursor behind something that is no part of a number. -/
structure Cursor.Apart (document : List UInt8) (c : Cursor) : Prop where
  isIn : c.IsIn document
  numberAt : numberAt document c.offset = []

namespace Cursor

variable {document bytes rest : List UInt8} {offset : Nat} {b : UInt8} {c after : Cursor}

theorem IsIn.moves (h : c.IsIn document) (hmoves : c.Moves bytes after) : after.IsIn document := by
  rw [IsIn, hmoves.offset, ← List.drop_drop, ← h, hmoves.rest, List.drop_left]

theorem IsIn.cons (h : IsIn document ⟨offset, b :: rest⟩) : IsIn document ⟨offset + 1, rest⟩ :=
  h.moves (moves_cons offset b rest)

theorem IsIn.drop (h : IsIn document ⟨offset, rest⟩) (k : Nat) :
    IsIn document ⟨offset + k, rest.drop k⟩ := by
  rw [IsIn, ← List.drop_drop, ← h]

theorem IsIn.take (h : c.IsIn document) (hmoves : c.Moves bytes after) :
    document.take after.offset = document.take c.offset ++ bytes := by
  rw [hmoves.offset, List.take_add, ← h, hmoves.rest, List.take_left]

theorem IsIn.apart_cons (h : IsIn document ⟨offset, b :: rest⟩) (hb : isNumberByte b = false) :
    Apart document ⟨offset + 1, rest⟩ where
  isIn := h.cons
  numberAt := by
    rw [Json.numberAt, h.take (moves_cons offset b rest)]
    exact List.rtakeWhile_concat_neg _ _ _ (by simp [hb])

/-- Behind a number that starts apart from others there is this number and nothing else. -/
theorem Apart.numberAt_moves (h : c.Apart document) (hmoves : c.Moves bytes after)
    (hbytes : ∀ b ∈ bytes, isNumberByte b) : Json.numberAt document after.offset = bytes := by
  have hnone := h.numberAt
  rw [Json.numberAt, List.rtakeWhile, List.reverse_eq_nil_iff] at hnone
  rw [Json.numberAt, h.isIn.take hmoves, List.rtakeWhile, List.reverse_append,
    List.takeWhile_append_of_pos (by simpa using hbytes), hnone, List.append_nil,
    List.reverse_reverse]

theorem isNumberByte_of_isBlank (h : isBlank b) : isNumberByte b = false := by
  simp only [isBlank, Bool.or_eq_true, beq_iff_eq] at h
  rcases h with ((rfl | rfl) | rfl) | rfl <;> decide

theorem IsIn.skipBlanksFrom : (rest : List UInt8) → ∀ {offset}, IsIn document ⟨offset, rest⟩ →
    IsIn document (skipBlanksFrom offset rest)
  | [], _, h => h
  | b :: rest, offset, h => by
    rw [Cursor.skipBlanksFrom]
    split
    · exact h.cons.skipBlanksFrom rest
    · exact h

theorem Apart.skipBlanksFrom : (rest : List UInt8) → ∀ {offset}, Apart document ⟨offset, rest⟩ →
    Apart document (skipBlanksFrom offset rest)
  | [], _, h => h
  | b :: rest, offset, h => by
    rw [Cursor.skipBlanksFrom]
    split
    · next hb => exact (h.isIn.apart_cons (isNumberByte_of_isBlank hb)).skipBlanksFrom rest
    · exact h

theorem IsIn.skipBlanks (h : c.IsIn document) : c.skipBlanks.IsIn document :=
  IsIn.skipBlanksFrom c.rest h

theorem Apart.skipBlanks (h : c.Apart document) : c.skipBlanks.Apart document :=
  Apart.skipBlanksFrom c.rest h

theorem IsIn.word : (letters : List UInt8) → ∀ {offset rest}, IsIn document ⟨offset, rest⟩ →
    word offset letters rest = .ok after → after.IsIn document
  | [], _, _, h, hword => by
    cases hword
    exact h
  | a :: letters, _, [], _, hword => by cases hword
  | a :: letters, offset, b :: rest, h, hword => by
    rw [Cursor.word] at hword
    split at hword
    · exact h.cons.word letters hword
    · cases hword

end Cursor

/-! ### Strings -/

namespace Str

variable {document rest : List UInt8} {offset : Nat} {c after : Cursor}

theorem isIn_hex4 {n : Nat} (h : c.IsIn document) (hread : hex4 c = .ok (n, after)) :
    after.IsIn document := by
  obtain ⟨offset, rest⟩ := c
  rw [hex4] at hread
  split at hread
  · next a₀ a₁ a₂ a₃ rest hrest =>
    split at hread
    · cases hread
      obtain rfl : _ = a₀ :: a₁ :: a₂ :: a₃ :: rest := hrest
      exact h.drop 4
    · cases hread
  · cases hread

theorem isIn_lowHalf {high : Nat} {ch : Char} (h : c.IsIn document)
    (hread : lowHalf high c = .ok (ch, after)) : after.IsIn document := by
  obtain ⟨offset, rest⟩ := c
  rw [lowHalf] at hread
  split at hread
  · cases hread
  · cases hread
  · next rest hrest =>
    obtain rfl : _ = 0x5C :: 0x75 :: rest := hrest
    split at hread
    · cases hread
    · next hhex =>
      split at hread
      · obtain ⟨-, rfl⟩ := Prod.mk.inj (Except.ok.inj hread)
        exact isIn_hex4 (h.drop 2) hhex
      · cases hread
  · cases hread
  · cases hread

theorem isIn_escape {reading : Reading Char} (h : c.IsIn document)
    (hread : escape c = .ok (reading, after)) : after.IsIn document := by
  obtain ⟨offset, rest⟩ := c
  rw [escape] at hread
  split at hread
  · cases hread
  · next b rest hrest =>
    obtain rfl : _ = b :: rest := hrest
    split at hread
    · cases hread
      exact h.cons
    split at hread
    · split at hread
      · cases hread
      · next hhex =>
        have hin := isIn_hex4 h.cons hhex
        split at hread
        · cases hread
          exact hin
        split at hread
        · cases hread
          exact hin
        split at hread
        · next hlow =>
          cases hread
          exact isIn_lowHalf hin hlow
        · cases hread
          exact hin
    · cases hread

theorem isIn_scanFrom {reading : Reading String} : (fuel : Nat) → ∀ {read slips c},
    Cursor.IsIn document c → scanFrom fuel read slips c = .ok (reading, after) →
      after.IsIn document
  | 0, _, _, _, _, hread => by cases hread
  | fuel + 1, read, slips, ⟨offset, rest⟩, h, hread => by
    rw [scanFrom] at hread
    split at hread
    · cases hread
    · next b rest hrest =>
      obtain rfl : _ = b :: rest := hrest
      dsimp only at hread
      split at hread
      · split at hread
        · cases hread
          exact h.cons
        · cases hread
          exact h.cons
      split at hread
      · split at hread
        · cases hread
        · next hescape => exact isIn_scanFrom fuel (isIn_escape h.cons hescape) hread
        · next hescape => exact isIn_scanFrom fuel (isIn_escape h.cons hescape) hread
      split at hread
      · cases hread
      split at hread
      · exact isIn_scanFrom fuel (h.cons.drop _) hread
      · exact isIn_scanFrom fuel (h.cons.drop _) hread

theorem isIn_scan {reading : Reading String} (h : c.IsIn document)
    (hread : scan c = .ok (reading, after)) : after.IsIn document :=
  isIn_scanFrom _ h hread

end Str

/-! ### What the parser makes -/

/-- A tree whose numbers are spelled, with a cursor behind it that is in the document. -/
def SpelledNode (document : List UInt8) (result : Node × Except Flaw Cursor) : Prop :=
  result.1.Spelled document ∧ ∀ c, result.2 = .ok c → c.IsIn document

/-- The same for items. -/
def SpelledItems (document : List UInt8) (result : Items × Except Flaw Cursor) : Prop :=
  result.1.Spelled document ∧ ∀ c, result.2 = .ok c → c.IsIn document

/-- The same for members. -/
def SpelledMembers (document : List UInt8) (result : Members × Except Flaw Cursor) : Prop :=
  result.1.Spelled document ∧ ∀ c, result.2 = .ok c → c.IsIn document

section

variable {document : List UInt8} {fuel : Nat} {c : Cursor}

theorem spelledNode_broken (f : Flaw) : SpelledNode document (brokenNode f) := ⟨trivial, nofun⟩

theorem spelledItems_broken (f : Flaw) : SpelledItems document (brokenItems f) := ⟨trivial, nofun⟩

theorem spelledMembers_broken (f : Flaw) : SpelledMembers document (brokenMembers f) :=
  ⟨trivial, nofun⟩

theorem spelledNode_wordLeaf (make : Nat → Node) (hmake : ∀ stop, (make stop).Spelled document)
    {offset : Nat} {rest : List UInt8} (h : Cursor.IsIn document ⟨offset, rest⟩)
    (letters : List UInt8) : SpelledNode document (wordLeaf make offset letters rest) := by
  rw [wordLeaf]
  split
  · next after hword =>
    refine ⟨hmake after.offset, ?_⟩
    rintro _ ⟨⟩
    exact h.word letters hword
  · exact spelledNode_broken _

theorem spelledNode_number (h : c.Apart document) :
    SpelledNode document (leaf .number (Number.scan c)) := by
  cases hscan : Number.scan c with
  | error f => exact spelledNode_broken f
  | ok result =>
    obtain ⟨reading, after⟩ := result
    obtain ⟨bytes, hspells, hmoves⟩ := Number.exists_of_scan hscan
    refine ⟨?_, ?_⟩
    · show Number.Spells (numberAt document after.offset) reading
      rwa [h.numberAt_moves hmoves hspells.number]
    · rintro _ ⟨⟩
      exact h.isIn.moves hmoves

theorem spelledNode_string (h : c.IsIn document) :
    SpelledNode document (leaf .string (Str.scan c)) := by
  cases hscan : Str.scan c with
  | error f => exact spelledNode_broken f
  | ok result =>
    refine ⟨trivial, ?_⟩
    rintro _ ⟨⟩
    exact Str.isIn_scan h hscan

theorem spelledNode_succ
    (hitems : ∀ c, c.Apart document → SpelledItems document (parseItems fuel true c))
    (hmembers : ∀ c, c.IsIn document → SpelledMembers document (parseMembers fuel true c))
    (h : c.Apart document) : SpelledNode document (parseNode (fuel + 1) c) := by
  have hstart := h.skipBlanks
  rw [parseNode]
  generalize c.skipBlanks = start at hstart
  obtain ⟨offset, rest⟩ := start
  dsimp only
  split
  · exact spelledNode_broken _
  · next b rest =>
    have hnext := hstart.isIn.cons
    split
    · exact spelledNode_wordLeaf .null (fun _ => trivial) hnext _
    split
    · exact spelledNode_wordLeaf (.bool true) (fun _ => trivial) hnext _
    split
    · exact spelledNode_wordLeaf (.bool false) (fun _ => trivial) hnext _
    split
    · exact spelledNode_number hstart
    split
    · exact spelledNode_string hnext
    split
    · next hb => exact hitems _ (hstart.isIn.apart_cons (by rw [hb]; decide))
    split
    · exact hmembers _ hnext
    · exact spelledNode_broken _

theorem spelledItems_succ (hitem : ∀ c, c.Apart document → SpelledItems document (parseItem fuel c))
    (first : Bool) (h : c.IsIn document) (hfirst : first = true → c.Apart document) :
    SpelledItems document (parseItems (fuel + 1) first c) := by
  have hstart := h.skipBlanks
  have hapart : first = true → c.skipBlanks.Apart document := fun hf => (hfirst hf).skipBlanks
  rw [parseItems]
  generalize c.skipBlanks = start at hstart hapart
  obtain ⟨offset, rest⟩ := start
  dsimp only
  split
  · exact spelledItems_broken _
  · refine ⟨trivial, ?_⟩
    rintro _ ⟨⟩
    exact hstart.cons
  · split
    · next hf => exact hitem _ (hapart hf)
    split
    · next hcomma =>
      have hnext := (hstart.apart_cons (by rw [hcomma]; decide)).skipBlanks
      split
      · exact spelledItems_broken _
      · exact spelledItems_broken _
      · exact hitem _ hnext
    · exact spelledItems_broken _

theorem spelledItem_succ (hnode : ∀ c, c.Apart document → SpelledNode document (parseNode fuel c))
    (hitems : ∀ c, c.IsIn document → SpelledItems document (parseItems fuel false c))
    (h : c.Apart document) : SpelledItems document (parseItem (fuel + 1) c) := by
  have hv := hnode c h
  rw [parseItem]
  split
  · next v f hparse =>
    rw [hparse] at hv
    exact ⟨⟨hv.1, trivial⟩, nofun⟩
  · next v after hparse =>
    rw [hparse] at hv
    have hrest := hitems after (hv.2 after rfl)
    exact ⟨⟨hv.1, hrest.1⟩, hrest.2⟩

theorem spelledMembers_succ
    (hmember : ∀ c, c.IsIn document → SpelledMembers document (parseMember fuel c)) (first : Bool)
    (h : c.IsIn document) : SpelledMembers document (parseMembers (fuel + 1) first c) := by
  have hstart := h.skipBlanks
  rw [parseMembers]
  generalize c.skipBlanks = start at hstart
  obtain ⟨offset, rest⟩ := start
  dsimp only
  split
  · exact spelledMembers_broken _
  · refine ⟨trivial, ?_⟩
    rintro _ ⟨⟩
    exact hstart.cons
  · split
    · split
      · exact hmember _ hstart.cons
      · exact spelledMembers_broken _
    split
    · have hnext := hstart.cons.skipBlanks
      generalize Cursor.skipBlanks _ = next at hnext
      obtain ⟨offset', rest'⟩ := next
      dsimp only
      split
      · exact spelledMembers_broken _
      · exact spelledMembers_broken _
      · exact hmember _ hnext.cons
      · exact spelledMembers_broken _
    · exact spelledMembers_broken _

theorem spelledMember_succ (hnode : ∀ c, c.Apart document → SpelledNode document (parseNode fuel c))
    (hmembers : ∀ c, c.IsIn document → SpelledMembers document (parseMembers fuel false c))
    (h : c.IsIn document) : SpelledMembers document (parseMember (fuel + 1) c) := by
  rw [parseMember]
  split
  · exact spelledMembers_broken _
  · next key after hkey =>
    have hcolon := (Str.isIn_scan h hkey).skipBlanks
    dsimp only
    generalize after.skipBlanks = colon at hcolon
    obtain ⟨offset, rest⟩ := colon
    dsimp only
    split
    · exact ⟨trivial, nofun⟩
    · next rest =>
      have hv := hnode _ (hcolon.apart_cons (by decide))
      split
      · next v f hparse =>
        rw [hparse] at hv
        exact ⟨⟨hv.1, trivial⟩, nofun⟩
      · next v after hparse =>
        rw [hparse] at hv
        have hrest := hmembers after (hv.2 after rfl)
        exact ⟨⟨hv.1, hrest.1⟩, hrest.2⟩
    · exact ⟨trivial, nofun⟩

end

/-- What the parser makes with some fuel. -/
structure ParsesSpelled (document : List UInt8) (fuel : Nat) : Prop where
  node : ∀ c, c.Apart document → SpelledNode document (parseNode fuel c)
  items : ∀ first c, c.IsIn document → (first = true → c.Apart document) →
    SpelledItems document (parseItems fuel first c)
  item : ∀ c, c.Apart document → SpelledItems document (parseItem fuel c)
  members : ∀ first c, c.IsIn document → SpelledMembers document (parseMembers fuel first c)
  member : ∀ c, c.IsIn document → SpelledMembers document (parseMember fuel c)

theorem parsesSpelled (document : List UInt8) (fuel : Nat) : ParsesSpelled document fuel := by
  induction fuel with
  | zero =>
    exact ⟨fun _ _ => spelledNode_broken _, fun _ _ _ _ => spelledItems_broken _,
      fun _ _ => spelledItems_broken _, fun _ _ _ => spelledMembers_broken _,
      fun _ _ => spelledMembers_broken _⟩
  | succ fuel ih =>
    exact {
      node := fun _ => spelledNode_succ (fun c h => ih.items true c h.isIn fun _ => h)
        (ih.members true)
      items := fun first _ => spelledItems_succ ih.item first
      item := fun _ => spelledItem_succ ih.node fun c h => ih.items false c h nofun
      members := fun first _ => spelledMembers_succ ih.member first
      member := fun _ => spelledMember_succ ih.node (ih.members false) }

/-- **Numbers are what is written.** Every number in the tree of a document is what it is by how it
is written in front of the place where it ends. -/
theorem Document.spelled (document : List UInt8) :
    (Document.parse document).root.Spelled document := by
  have hstart : Cursor.Apart document ⟨0, document⟩ := ⟨rfl, by simp [numberAt]⟩
  have hroot := ((parsesSpelled document (3 * document.length + 1)).node _ hstart).1
  rw [parse]
  generalize parseNode (3 * document.length + 1) ⟨0, document⟩ = result at hroot ⊢
  obtain ⟨root, f | after⟩ := result <;> exact hroot

end ImageBot.Json
