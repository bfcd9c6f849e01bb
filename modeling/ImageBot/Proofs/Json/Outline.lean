import ImageBot.Proofs.Json.Decoding
/-!
# What a document says

An `Outline` is what a tree says without the places: documents of one outline differ in blanks
and in how strings and numbers are written. A leaf that is only fit to be passed over says of
which kind it is. A document of which nothing is missing has an outline, and what comes behind a
value in an array is then told rightly by how the array is left there.
-/
namespace ImageBot.Json

open Text

/-- What a value in a document says. A number or a string that cannot be read is `none`, and so
is the key of a member. -/
inductive Outline
  | null
  | bool (b : Bool)
  | number (n : Option Number)
  | string (s : Option String)
  | array (items : List Outline)
  | object (members : List (Option String × Outline))

mutual
/-- What a tree says, if nothing of it is missing. -/
def Node.outline? : Node → Option Outline
  | .null _ => some .null
  | .bool b _ => some (.bool b)
  | .number n _ => some (.number n.toOption)
  | .string s _ => some (.string s.toOption)
  | .array _ items => items.outlines?.map .array
  | .object _ members => members.outlines?.map .object
  | .broken _ => none
/-- What the items of an array say. The array must be left without a fault behind the last of
them and nowhere else. -/
def Items.outlines? : Items → Option (List Outline)
  | .closed _ => some []
  | .broken _ => none
  | .item v leave rest =>
    match v.outline?, rest.outlines? with
    | some j, some l => if leave.fault.isNone = l.isEmpty then some (j :: l) else none
    | _, _ => none
/-- What the members of an object say. -/
def Members.outlines? : Members → Option (List (Option String × Outline))
  | .closed _ => some []
  | .broken _ => none
  | .keyOnly _ _ _ => none
  | .member key _ v _ rest =>
    match v.outline?, rest.outlines? with
    | some j, some l => some ((key.toOption, j) :: l)
    | _, _ => none
end

/-- A document is a JSON text that says this. -/
def Document.Holds (bytes : List UInt8) (j : Outline) : Prop :=
  (Document.parse bytes).root.outline? = some j ∧ (Document.parse bytes).trailing = none

section

variable {v : Node} {leave : Leave} {items : Items} {members : Members} {key : Reading String}
  {start mark offset : Nat} {j : Outline} {l : List Outline} {m : List (Option String × Outline)}

theorem Node.outline?_array_iff : (Node.array start items).outline? = some j ↔
    ∃ l, items.outlines? = some l ∧ j = .array l := by
  simp [outline?, eq_comm (a := j)]

theorem Node.outline?_object_iff : (Node.object start members).outline? = some j ↔
    ∃ m, members.outlines? = some m ∧ j = .object m := by
  simp [outline?, eq_comm (a := j)]

theorem Items.outlines?_item_iff : (Items.item v leave items).outlines? = some l ↔
    ∃ j rest, v.outline? = some j ∧ items.outlines? = some rest ∧
      (leave.fault = none ↔ rest = []) ∧ l = j :: rest := by
  rw [outlines?]
  cases v.outline? with
  | none => simp
  | some j =>
    cases items.outlines? with
    | none => simp
    | some rest =>
      have hempty : leave.fault.isNone = rest.isEmpty ↔ (leave.fault = none ↔ rest = []) := by
        cases leave.fault <;> cases rest <;> simp
      by_cases h : leave.fault = none ↔ rest = []
      · simp [h, hempty, eq_comm]
      · simp [h, hempty]

theorem Members.outlines?_member_iff :
    (Members.member key mark v offset members).outlines? = some m ↔
    ∃ j rest, v.outline? = some j ∧ members.outlines? = some rest ∧
      m = (key.toOption, j) :: rest := by
  rw [outlines?]
  cases v.outline? with
  | none => simp
  | some j => cases members.outlines? <;> simp [eq_comm]

end

/-! ### Trees that say something -/

/-- A tree and its outline, form by form. -/
inductive Node.HasForm : Node → Outline → Prop
  | null (stop : Nat) : HasForm (.null stop) .null
  | bool (b : Bool) (stop : Nat) : HasForm (.bool b stop) (.bool b)
  | number (n : Reading Number) (stop : Nat) : HasForm (.number n stop) (.number n.toOption)
  | string (s : Reading String) (stop : Nat) : HasForm (.string s stop) (.string s.toOption)
  | array {items : Items} {l : List Outline} (start : Nat) (h : items.outlines? = some l) :
    HasForm (.array start items) (.array l)
  | object {members : Members} {m : List (Option String × Outline)} (start : Nat)
    (h : members.outlines? = some m) : HasForm (.object start members) (.object m)

theorem Node.form {node : Node} {j : Outline} (h : node.outline? = some j) : node.HasForm j := by
  cases node with
  | null stop => cases h; exact .null stop
  | bool b stop => cases h; exact .bool b stop
  | number n stop => cases h; exact .number n stop
  | string s stop => cases h; exact .string s stop
  | array start items =>
    obtain ⟨l, hl, rfl⟩ := outline?_array_iff.mp h
    exact .array start hl
  | object start members =>
    obtain ⟨m, hm, rfl⟩ := outline?_object_iff.mp h
    exact .object start hm
  | broken f => cases h

theorem Items.flaw?_of_outlines : {items : Items} → {l : List Outline} →
    items.outlines? = some l → items.flaw? = none
  | .closed _, _, _ => rfl
  | .broken _, _, h => by cases h
  | .item _ _ _, _, h => by
    obtain ⟨-, rest, -, hrest, -⟩ := outlines?_item_iff.mp h
    rw [flaw?]
    exact flaw?_of_outlines hrest

theorem Members.flaw?_of_outlines : {members : Members} → {m : List (Option String × Outline)} →
    members.outlines? = some m → members.flaw? = none
  | .closed _, _, _ => rfl
  | .broken _, _, h => by cases h
  | .keyOnly _ _ _, _, h => by cases h
  | .member _ _ _ _ _, _, h => by
    obtain ⟨-, rest, -, hrest, -⟩ := outlines?_member_iff.mp h
    rw [flaw?]
    exact flaw?_of_outlines hrest

theorem Node.eq_object_of_outline {node : Node} {m : List (Option String × Outline)}
    (h : node.outline? = some (.object m)) : ∃ start members, node = .object start members := by
  cases form h with
  | object start hm => exact ⟨start, _, rfl⟩

/-- A tree that says something can be passed over. -/
theorem Node.flaw?_of_outline {node : Node} {j : Outline} (h : node.outline? = some j) :
    node.flaw? = none := by
  cases form h with
  | array start hl => exact Items.flaw?_of_outlines hl
  | object start hm => exact Members.flaw?_of_outlines hm
  | null | bool | number | string => rfl

/-- A reading of something that may be unreadable. -/
def readingOf {α : Type} (cause : Cause) : Option α → Reading α
  | some a => .ok a
  | none => .error ⟨cause, 0⟩

@[simp] theorem toOption_readingOf {α : Type} (cause : Cause) (a : Option α) :
    (readingOf cause a).toOption = a := by
  cases a <;> rfl

mutual
/-- A tree without places that says just this. -/
def Outline.node : Outline → Node
  | .null => .null 0
  | .bool b => .bool b 0
  | .number n => .number (readingOf .numberOutOfRange n) 0
  | .string s => .string (readingOf .loneSurrogate s) 0
  | .array l => .array 0 (Items.ofOutlines l)
  | .object m => .object 0 (Members.ofOutlines m)
/-- The items of an array that say just this. -/
def Items.ofOutlines : List Outline → Items
  | [] => .closed 0
  | j :: l =>
    .item j.node ⟨0, if l.isEmpty then none else some ⟨.trailingCharacters, 0⟩⟩ (Items.ofOutlines l)
/-- The members of an object that say just this. -/
def Members.ofOutlines : List (Option String × Outline) → Members
  | [] => .closed 0
  | (key, j) :: m => .member (readingOf .loneSurrogate key) 0 j.node 0 (Members.ofOutlines m)
end

mutual
theorem Outline.outline?_node (j : Outline) : j.node.outline? = some j := by
  cases j with
  | null | bool => rfl
  | number | string => simp [Outline.node, Node.outline?]
  | array l => exact Node.outline?_array_iff.mpr ⟨l, Items.outlines?_ofOutlines l, rfl⟩
  | object m => exact Node.outline?_object_iff.mpr ⟨m, Members.outlines?_ofOutlines m, rfl⟩
theorem Items.outlines?_ofOutlines (l : List Outline) :
    (Items.ofOutlines l).outlines? = some l := by
  cases l with
  | nil => rfl
  | cons j l =>
    refine Items.outlines?_item_iff.mpr
      ⟨j, l, Outline.outline?_node j, Items.outlines?_ofOutlines l, ?_, rfl⟩
    cases l <;> simp
theorem Members.outlines?_ofOutlines : (m : List (Option String × Outline)) →
    (Members.ofOutlines m).outlines? = some m
  | [] => rfl
  | (key, j) :: m => by
    refine Members.outlines?_member_iff.mpr
      ⟨j, m, Outline.outline?_node j, Members.outlines?_ofOutlines m, ?_⟩
    rw [toOption_readingOf]
end

/-! ### What the parser makes -/

/-- Behind the cursor the array ends. -/
def Cursor.AtBracket (c : Cursor) : Prop := ∃ rest, c.skipBlanks.rest = 0x5D :: rest

/-- A tree that the parser comes to the end of says something; any other has the flaw at which
the document breaks off. -/
def TidyNode (result : Node × Except Flaw Cursor) : Prop :=
  match result.2 with
  | .ok _ => ∃ j, result.1.outline? = some j
  | .error f => result.1.flaw? = some f

/-- The same for items, of which there are none in one case. -/
def TidyItems (empty : Prop) (result : Items × Except Flaw Cursor) : Prop :=
  match result.2 with
  | .ok _ => ∃ l, result.1.outlines? = some l ∧ (l = [] ↔ empty)
  | .error f => result.1.flaw? = some f

/-- The same for members. -/
def TidyMembers (result : Members × Except Flaw Cursor) : Prop :=
  match result.2 with
  | .ok _ => ∃ m, result.1.outlines? = some m
  | .error f => result.1.flaw? = some f

theorem leaveArray_fault_iff (c : Cursor) : (leaveArray c).fault = none ↔ c.AtBracket := by
  rw [leaveArray, Cursor.AtBracket]
  split
  · next h => simp [h]
  · next h => simp [h]
  · next h =>
    simp only [h]
    split <;> simp
  · next hbracket hcomma => simpa using hbracket

section

variable {α : Type} {fuel : Nat}

theorem tidyNode_leaf {make : Reading α → Nat → Node}
    (hmake : ∀ a stop, ∃ j, (make a stop).outline? = some j)
    (scanned : Except Flaw (Reading α × Cursor)) : TidyNode (leaf make scanned) := by
  cases scanned with
  | error f => rfl
  | ok result => exact hmake result.1 result.2.offset

theorem tidyNode_wordLeaf {make : Nat → Node} (hmake : ∀ stop, ∃ j, (make stop).outline? = some j)
    (offset : Nat) (letters rest : List UInt8) : TidyNode (wordLeaf make offset letters rest) := by
  rw [wordLeaf]
  cases Cursor.word offset letters rest with
  | error f => rfl
  | ok after => exact hmake after.offset

theorem TidyItems.array {empty : Prop} {result : Items × Except Flaw Cursor}
    (h : TidyItems empty result) (start : Nat) : TidyNode (.array start result.1, result.2) := by
  obtain ⟨items, f | after⟩ := result
  · exact h
  · obtain ⟨l, hl, -⟩ := h
    exact ⟨.array l, Node.outline?_array_iff.mpr ⟨l, hl, rfl⟩⟩

theorem TidyMembers.object {result : Members × Except Flaw Cursor} (h : TidyMembers result)
    (start : Nat) : TidyNode (.object start result.1, result.2) := by
  obtain ⟨members, f | after⟩ := result
  · exact h
  · obtain ⟨m, hm⟩ := h
    exact ⟨.object m, Node.outline?_object_iff.mpr ⟨m, hm, rfl⟩⟩

theorem tidyNode_succ (hitems : ∀ c, TidyItems c.AtBracket (parseItems fuel true c))
    (hmembers : ∀ c, TidyMembers (parseMembers fuel true c)) (c : Cursor) :
    TidyNode (parseNode (fuel + 1) c) := by
  rw [parseNode]
  split
  · rfl
  · next b rest hrest =>
    split
    · exact tidyNode_wordLeaf (fun stop => ⟨.null, rfl⟩) _ _ _
    split
    · exact tidyNode_wordLeaf (fun stop => ⟨.bool true, rfl⟩) _ _ _
    split
    · exact tidyNode_wordLeaf (fun stop => ⟨.bool false, rfl⟩) _ _ _
    split
    · exact tidyNode_leaf (fun n stop => ⟨.number n.toOption, rfl⟩) _
    split
    · exact tidyNode_leaf (fun s stop => ⟨.string s.toOption, rfl⟩) _
    split
    · exact (hitems _).array _
    split
    · exact (hmembers _).object _
    · rfl

theorem tidyItems_succ (hitem : ∀ c, TidyItems False (parseItem fuel c)) (first : Bool)
    (c : Cursor) : TidyItems c.AtBracket (parseItems (fuel + 1) first c) := by
  -- an item is only parsed where there is no bracket, and is one itself
  have hlater : ∀ d, ¬c.AtBracket → TidyItems c.AtBracket (parseItem fuel d) := by
    intro d hc
    rw [eq_false hc]
    exact hitem d
  rw [parseItems]
  split
  · rfl
  · next h => exact ⟨[], rfl, iff_of_true rfl ⟨_, h⟩⟩
  · next b rest hbracket hrest =>
    have hc : ¬c.AtBracket := by
      rintro ⟨rest', hrest'⟩
      rw [hrest, List.cons.injEq] at hrest'
      exact hbracket hrest'.1
    split
    · exact hlater _ hc
    split
    · dsimp only
      split
      · rfl
      · rfl
      · exact hlater _ hc
    · rfl

theorem tidyItem_succ (hnode : ∀ c, TidyNode (parseNode fuel c))
    (hitems : ∀ c, TidyItems c.AtBracket (parseItems fuel false c)) (c : Cursor) :
    TidyItems False (parseItem (fuel + 1) c) := by
  rw [parseItem]
  have hv := hnode c
  split
  · rfl
  · next v after hparse =>
    rw [hparse] at hv
    obtain ⟨j, hj⟩ := hv
    have hrest := hitems after
    generalize parseItems fuel false after = result at hrest ⊢
    obtain ⟨rest, f | last⟩ := result
    · exact hrest
    · obtain ⟨l, hl, hempty⟩ := hrest
      refine ⟨j :: l, Items.outlines?_item_iff.mpr ⟨j, l, hj, hl, ?_, rfl⟩, by simp⟩
      rw [leaveArray_fault_iff, hempty]

theorem tidyMembers_succ (hmember : ∀ c, TidyMembers (parseMember fuel c)) (first : Bool)
    (c : Cursor) : TidyMembers (parseMembers (fuel + 1) first c) := by
  rw [parseMembers]
  split
  · rfl
  · exact ⟨[], rfl⟩
  · split
    · split
      · exact hmember _
      · rfl
    split
    · dsimp only
      split
      · rfl
      · rfl
      · exact hmember _
      · rfl
    · rfl

theorem tidyMember_succ (hnode : ∀ c, TidyNode (parseNode fuel c))
    (hmembers : ∀ c, TidyMembers (parseMembers fuel false c)) (c : Cursor) :
    TidyMembers (parseMember (fuel + 1) c) := by
  rw [parseMember]
  split
  · rfl
  · next key after hkey =>
    dsimp only
    split
    · rfl
    · next rest hrest =>
      have hv := hnode ⟨after.skipBlanks.offset + 1, rest⟩
      split
      · rfl
      · next v after' hparse =>
        rw [hparse] at hv
        obtain ⟨j, hj⟩ := hv
        have hmore := hmembers after'
        generalize parseMembers fuel false after' = result at hmore ⊢
        obtain ⟨members, f | last⟩ := result
        · exact hmore
        · obtain ⟨m, hm⟩ := hmore
          exact ⟨_, Members.outlines?_member_iff.mpr ⟨j, m, hj, hm, rfl⟩⟩
    · rfl

end

/-- What the parser makes with some fuel. -/
structure ParsesTidily (fuel : Nat) : Prop where
  node : ∀ c, TidyNode (parseNode fuel c)
  items : ∀ first c, TidyItems c.AtBracket (parseItems fuel first c)
  item : ∀ c, TidyItems False (parseItem fuel c)
  members : ∀ first c, TidyMembers (parseMembers fuel first c)
  member : ∀ c, TidyMembers (parseMember fuel c)

theorem parsesTidily (fuel : Nat) : ParsesTidily fuel := by
  induction fuel with
  | zero => exact ⟨fun _ => rfl, fun _ _ => rfl, fun _ => rfl, fun _ _ => rfl, fun _ => rfl⟩
  | succ fuel ih =>
    exact ⟨tidyNode_succ (ih.items true) (ih.members true), tidyItems_succ ih.item,
      tidyItem_succ ih.node (ih.items false), tidyMembers_succ ih.member,
      tidyMember_succ ih.node (ih.members false)⟩

/-- A document whose value runs into no flaw says something. -/
theorem Document.exists_outline {bytes : List UInt8}
    (h : (Document.parse bytes).root.flaw? = none) :
    ∃ j, (Document.parse bytes).root.outline? = some j := by
  have htidy := (parsesTidily (3 * bytes.length + 1)).node ⟨0, bytes⟩
  rw [parse] at h ⊢
  generalize parseNode (3 * bytes.length + 1) ⟨0, bytes⟩ = result at h htidy ⊢
  obtain ⟨root, f | after⟩ := result
  · rw [show root.flaw? = some f from htidy] at h
    cases h
  · exact htidy

/-! ### Documents that were written -/

mutual
/-- What a value says. -/
def Value.outline : Value → Outline
  | .null => .null
  | .bool b => .bool b
  | .number n => .number (some n)
  | .string s => .string (some s)
  | .array items => .array (itemsOutline items)
  | .object members => .object (membersOutline members)
/-- What items say. -/
def itemsOutline : List Value → List Outline
  | [] => []
  | v :: rest => v.outline :: itemsOutline rest
/-- What members say. -/
def membersOutline : List (String × Value) → List (Option String × Outline)
  | [] => []
  | (name, v) :: rest => (some name, v.outline) :: membersOutline rest
end

mutual
/-- A tree that shows a value says nothing else. -/
theorem Node.Shows.outline_eq {v : Value} {node : Node} {j : Outline} (h : node.Shows v)
    (hj : node.outline? = some j) : j = v.outline := by
  cases v with
  | null =>
    obtain ⟨stop, rfl⟩ := Node.shows_iff.mp h
    cases hj
    rfl
  | bool b =>
    obtain ⟨stop, rfl⟩ := Node.shows_iff.mp h
    cases hj
    rfl
  | number n =>
    obtain ⟨stop, rfl⟩ := Node.shows_iff.mp h
    cases hj
    rfl
  | string s =>
    obtain ⟨stop, rfl⟩ := Node.shows_iff.mp h
    cases hj
    rfl
  | array values =>
    obtain ⟨start, items, rfl, hitems⟩ := Node.shows_iff.mp h
    obtain ⟨l, hl, rfl⟩ := Node.outline?_array_iff.mp hj
    rw [Value.outline, Items.Shows.outlines_eq hitems hl]
  | object values =>
    obtain ⟨start, members, rfl, hmembers⟩ := Node.shows_iff.mp h
    obtain ⟨m, hm, rfl⟩ := Node.outline?_object_iff.mp hj
    rw [Value.outline, Members.Shows.outlines_eq hmembers hm]
/-- The same for items. -/
theorem Items.Shows.outlines_eq {values : List Value} {items : Items} {l : List Outline}
    (h : items.Shows values) (hl : items.outlines? = some l) : l = itemsOutline values := by
  cases values with
  | nil =>
    obtain ⟨stop, rfl⟩ := Items.shows_nil_iff.mp h
    cases hl
    rfl
  | cons v values =>
    obtain ⟨node, leave, rest, rfl, hnode, hrest⟩ := Items.shows_cons_iff.mp h
    obtain ⟨j, l', hj, hl', -, rfl⟩ := Items.outlines?_item_iff.mp hl
    rw [itemsOutline, Node.Shows.outline_eq hnode hj, Items.Shows.outlines_eq hrest hl']
/-- The same for members. -/
theorem Members.Shows.outlines_eq : {values : List (String × Value)} → {members : Members} →
    {m : List (Option String × Outline)} → members.Shows values → members.outlines? = some m →
    m = membersOutline values
  | [], _, _, h, hm => by
    obtain ⟨stop, rfl⟩ := Members.shows_nil_iff.mp h
    cases hm
    rfl
  | (name, v) :: values, _, _, h, hm => by
    obtain ⟨mark, node, leave, rest, rfl, hnode, hrest⟩ := Members.shows_cons_iff.mp h
    obtain ⟨j, m', hj, hm', rfl⟩ := Members.outlines?_member_iff.mp hm
    rw [membersOutline, Node.Shows.outline_eq hnode hj, Members.Shows.outlines_eq hrest hm']
    rfl
end

/-- The text of a value says what the value says. -/
theorem Document.holds_write {v : Value} (hv : v.Exact) :
    Document.Holds (Utf8.bytes v.write) v.outline := by
  obtain ⟨root, hshows, hparse⟩ := Document.parse_write hv
  have hroot : (Document.parse (Utf8.bytes v.write)).root.flaw? = none := by
    rw [hparse]
    exact hshows.flaw?
  obtain ⟨j, hj⟩ := Document.exists_outline hroot
  rw [hparse] at hj
  rw [Document.Holds, hparse, ← hshows.outline_eq hj]
  exact ⟨hj, rfl⟩

end ImageBot.Json
