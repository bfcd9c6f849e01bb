import ImageBot.Proofs.Json.Records
/-!
# Documents that tell a text

An answer that is asked for one text has it as a member of an object, once and among any others,
or as the only item of an array. `Outline.Tells` says so of what a document holds, and is just what
a record with this one field reads from the document.
-/
namespace ImageBot.Json

/-- What tells a text under a name: an object with one member of this name, or an array with the
text and nothing else. -/
inductive Outline.Tells (name text : String) : Outline → Prop
  | member {before after : List (Option String × Outline)}
    (others : ∀ m ∈ before ++ after, ∃ other, m.1 = some other ∧ other ≠ name) :
    Tells name text (.object (before ++ (some name, .string (some text)) :: after))
  | item : Tells name text (.array [.string (some text)])

/-- A document tells a text under a name. -/
def Document.Tells (name text : String) (bytes : List UInt8) : Prop :=
  ∃ j, Document.Holds bytes j ∧ j.Tells name text

theorem Outline.tells_object_iff {name text : String} {m : List (Option String × Outline)} :
    (object m).Tells name text ↔
      ∃ before after, m = before ++ (some name, string (some text)) :: after ∧
      ∀ member ∈ before ++ after, ∃ other, member.1 = some other ∧ other ≠ name := by
  constructor
  · rintro ⟨others⟩
    exact ⟨_, _, rfl, others⟩
  · rintro ⟨before, after, rfl, others⟩
    exact .member others

/-! ### Arrays of one item -/

/-- An array that can be left behind an item ends there. -/
theorem closed_of_parseItem {fuel : Nat} {c : Cursor} {v : Node} {leave : Leave} {rest : Items}
    (h : (parseItem (fuel + 2) c).1 = .item v leave rest) (hv : v.flaw? = none)
    (hleave : leave.fault = none) : rest.flaw? = none := by
  rw [parseItem] at h
  have htidy := (parsesTidily (fuel + 1)).node c
  split at h
  · next v' f hparse =>
    rw [hparse] at htidy
    cases h
    cases hv.symm.trans htidy
  · next v' after hparse =>
    cases h
    obtain ⟨rest, hrest⟩ := (leaveArray_fault_iff after).mp hleave
    simp only [hrest]
    rfl

/-- What an array holds is parsed behind its bracket. -/
theorem exists_parseItems_of_array {fuel start : Nat} {c : Cursor} {items : Items}
    (h : (parseNode (fuel + 1) c).1 = .array start items) :
    ∃ d, (parseItems fuel true d).1 = items := by
  rw [parseNode] at h
  split at h
  · cases h
  · next b rest hrest =>
    split at h
    · unfold wordLeaf at h
      split at h <;> cases h
    split at h
    · unfold wordLeaf at h
      split at h <;> cases h
    split at h
    · unfold wordLeaf at h
      split at h <;> cases h
    split at h
    · unfold leaf at h
      split at h <;> cases h
    split at h
    · unfold leaf at h
      split at h <;> cases h
    split at h
    · cases h
      exact ⟨_, rfl⟩
    split at h <;> cases h

/-- The first item of an array is parsed as one. -/
theorem exists_parseItem_of_item {fuel : Nat} {c : Cursor} {v : Node} {leave : Leave}
    {rest : Items} (h : (parseItems (fuel + 1) true c).1 = .item v leave rest) :
    ∃ d, (parseItem fuel d).1 = .item v leave rest := by
  rw [parseItems] at h
  split at h
  · cases h
  · cases h
  · exact ⟨_, h⟩

/-- A document with an array that can be left behind its first item has no flaw. -/
theorem Document.flaw?_of_single {bytes : List UInt8} {start : Nat} {v : Node} {leave : Leave}
    {rest : Items} (hroot : (Document.parse bytes).root = .array start (.item v leave rest))
    (hv : v.flaw? = none) (hleave : leave.fault = none) :
    (Document.parse bytes).root.flaw? = none := by
  have hnode : (parseNode (3 * bytes.length + 1) ⟨0, bytes⟩).1 =
      .array start (.item v leave rest) := by
    rw [← hroot, parse]
    rcases parseNode (3 * bytes.length + 1) ⟨0, bytes⟩ with ⟨root, f | after⟩ <;> rfl
  rw [hroot]
  show rest.flaw? = none
  cases bytes with
  | nil => cases hnode
  | cons b bytes =>
    have hfuel : 3 * (b :: bytes).length + 1 = 3 * bytes.length + 3 + 1 := by
      rw [List.length_cons]
      omega
    rw [hfuel] at hnode
    obtain ⟨d, hitems⟩ := exists_parseItems_of_array hnode
    obtain ⟨d, hitem⟩ := exists_parseItem_of_item hitems
    exact closed_of_parseItem hitem hv hleave

/-! ### Records of one text -/

namespace Record

variable {r : Record (Option String)} {name : String}

/-- The field of a text that may be missing or `null`. -/
def textField (name : String) : Field (Option String) :=
  ⟨name, fun depth node _ => Decoder.optional .string depth node, false, true⟩

theorem read_textField_eq_some_iff {depth : Nat} {j : Outline} {s : Option String}
    {text : String} : (textField name).read depth j.node s = .ok (some text) ↔
      j = .string (some text) := by
  cases j with
  | string read =>
    simp only [textField, Outline.node, Decoder.optional, Decoder.string, map_eq_ok_iff,
      Outline.string.injEq]
    cases read <;> simp [readingOf, Reading.get]
  | null | bool | number | array | object =>
    simp [textField, Outline.node, Decoder.optional, Decoder.string, map_eq_ok_iff]

theorem placeless_textField (name : String) : (textField name).Placeless := by
  intro depth node j hj s t
  have hread := @Decoder.placeless_string depth node j hj
  cases Node.form hj with
  | null stop => exact Iff.rfl
  | bool | number | string | array | object =>
    simp only [Outline.node] at hread
    simp only [textField, Decoder.optional, Outline.node, map_eq_ok_iff, hread]

section

variable (hfields : r.fields = [textField name])

include hfields

theorem field?_textField (other : String) :
    r.field? other = if other = name then some (textField name) else none := by
  by_cases h : other = name
  · simp [field?, hfields, textField, h]
  · simp [field?, hfields, textField, h, eq_comm (a := name)]

/-- Whoever reads a text passes over the members with other names. -/
theorem ofMembers_cons_iff {depth : Nat} {seen : List String} {s t : Option String}
    {key : Option String} {j : Outline} {m : List (Option String × Outline)} :
    r.ofMembers depth seen s (.ofOutlines ((key, j) :: m)) = .ok t ↔ ∃ other, key = some other ∧
      (other ≠ name ∧ r.ofMembers depth seen s (.ofOutlines m) = .ok t ∨
        other = name ∧ name ∉ seen ∧ ∃ s', (textField name).read depth j.node s = .ok s' ∧
          r.ofMembers depth (name :: seen) s' (.ofOutlines m) = .ok t) := by
  have hkey (other : String) : readingOf .loneSurrogate key = .ok other ↔ key = some other := by
    cases key <;> simp [readingOf]
  have hflaw : j.node.flaw? = none := Node.flaw?_of_outline (Outline.outline?_node j)
  rw [Members.ofOutlines, ofMembers_member_iff]
  simp only [hkey, hflaw, field?_textField hfields, true_and]
  refine exists_congr fun other => and_congr_right fun _ => ?_
  by_cases hother : other = name
  · simp [hother]
  · simp [hother]

theorem ofMembers_nil_iff {depth : Nat} {seen : List String} {s t : Option String} :
    r.ofMembers depth seen s (.ofOutlines []) = .ok t ↔ t = s := by
  simp [Members.ofOutlines, ofMembers, hfields, textField, eq_comm]

/-- Behind the text nothing else has its name. -/
theorem ofMembers_of_seen {depth : Nat} {seen : List String} {s t : Option String}
    (hseen : name ∈ seen) (m : List (Option String × Outline)) :
    r.ofMembers depth seen s (.ofOutlines m) = .ok t ↔
      t = s ∧ ∀ member ∈ m, ∃ other, member.1 = some other ∧ other ≠ name := by
  induction m with
  | nil => simp [ofMembers_nil_iff hfields]
  | cons member m ih =>
    obtain ⟨key, j⟩ := member
    rw [ofMembers_cons_iff hfields, List.forall_mem_cons]
    simp only [hseen, not_true, false_and, and_false, or_false, ih]
    constructor
    · rintro ⟨other, hkey, hother, rfl, hrest⟩
      exact ⟨rfl, ⟨other, hkey, hother⟩, hrest⟩
    · rintro ⟨rfl, ⟨other, hkey, hother⟩, hrest⟩
      exact ⟨other, hkey, hother, rfl, hrest⟩

/-- A text is read from an object exactly if it is told there. -/
theorem ofMembers_eq_some_iff {depth : Nat} {text : String} (m : List (Option String × Outline)) :
    r.ofMembers depth [] none (.ofOutlines m) = .ok (some text) ↔
      (Outline.object m).Tells name text := by
  rw [Outline.tells_object_iff]
  induction m with
  | nil => simp [ofMembers_nil_iff hfields]
  | cons member m ih =>
    obtain ⟨key, j⟩ := member
    simp only [ofMembers_cons_iff hfields, ofMembers_of_seen hfields List.mem_cons_self, ih]
    constructor
    · rintro ⟨other, rfl, ⟨hother, before, after, rfl, hothers⟩ | ⟨rfl, -, s', hread, rfl, hrest⟩⟩
      · refine ⟨(some other, j) :: before, after, rfl, ?_⟩
        rw [List.cons_append, List.forall_mem_cons]
        exact ⟨⟨other, rfl, hother⟩, hothers⟩
      · rw [read_textField_eq_some_iff] at hread
        subst hread
        exact ⟨[], m, rfl, hrest⟩
    · rintro ⟨before, after, hm, hothers⟩
      cases before with
      | nil =>
        cases hm
        exact ⟨name, rfl, .inr ⟨rfl, List.not_mem_nil, _, read_textField_eq_some_iff.mpr rfl, rfl,
          hothers⟩⟩
      | cons first before =>
        cases hm
        rw [List.cons_append, List.forall_mem_cons] at hothers
        obtain ⟨⟨other, rfl, hother⟩, hrest⟩ := hothers
        exact ⟨other, rfl, .inl ⟨hother, before, after, rfl, hrest⟩⟩

/-- A text is read from an array exactly if it is the only item. -/
theorem ofItems_eq_some_iff {depth : Nat} {text : String} (l : List Outline) :
    r.ofItems depth 0 r.fields none none (.ofOutlines l) = .ok (some text) ↔
      (Outline.array l).Tells name text := by
  have htells : (Outline.array l).Tells name text ↔ l = [.string (some text)] := by
    constructor
    · rintro ⟨-⟩
      rfl
    · rintro rfl
      exact .item
  rw [htells, hfields]
  cases l with
  | nil => simp [Items.ofOutlines, ofItems, textField]
  | cons j l =>
    rw [Items.ofOutlines, ofItems_item_iff]
    cases l with
    | nil => simp [ofItems, read_textField_eq_some_iff]
    | cons j' l => simp [ofItems]

/-- What a record of one text makes of an outline. -/
theorem decode_node_eq_some_iff (hempty : r.empty = none) {depth : Nat} (hdepth : 1 < depth)
    {text : String} (j : Outline) :
    r.decode depth j.node = .ok (some text) ↔ j.Tells name text := by
  cases j with
  | array l =>
    rw [Outline.node, decode_array_iff, hempty, ofItems_eq_some_iff hfields]
    exact and_iff_right hdepth
  | object m =>
    rw [Outline.node, decode_object_iff, hempty, ofMembers_eq_some_iff hfields]
    exact and_iff_right hdepth
  | null | bool | number | string =>
    refine iff_of_false (by simp [Outline.node, decode]) ?_
    rintro ⟨-⟩

/-- A document of which a text is read has no flaw. -/
theorem flaw?_of_decode {bytes : List UInt8} {depth : Nat} {text : String}
    (h : r.decode depth (Document.parse bytes).root = .ok (some text)) :
    (Document.parse bytes).root.flaw? = none := by
  cases hroot : (Document.parse bytes).root with
  | object start members =>
    rw [hroot, decode_object_iff] at h
    exact flaw?_of_ofMembers h.2
  | array start items =>
    rw [hroot, decode_array_iff, hfields] at h
    cases items with
    | closed | broken => simp [ofItems, textField] at h
    | item v leave rest =>
      obtain ⟨-, h⟩ := h
      obtain ⟨s, hread, hlast⟩ := ofItems_item_iff.mp h
      have hv : v.flaw? = none := by
        cases v with
        | array | object | broken =>
          simp [textField, Decoder.optional, Decoder.string, map_eq_ok_iff] at hread
        | null | bool | number | string => rfl
      have hleave : leave.fault = none := by
        cases hfault : leave.fault with
        | none => rfl
        | some f => simp [hfault, ofItems] at hlast
      rw [← hroot]
      exact Document.flaw?_of_single hroot hv hleave
  | null | bool | number | string | broken => simp [hroot, decode] at h

/-- **A text is read from a document** by a record that has no field but it exactly if the document
tells it. -/
theorem decode_eq_some_iff (hempty : r.empty = none) {bytes : List UInt8} {text : String} :
    Json.decode r.decode bytes = .ok (some text) ↔ Document.Tells name text bytes := by
  have hplaceless : r.decode.Placeless := by
    apply placeless_decode
    intro f hf
    rw [hfields, List.mem_singleton] at hf
    subst hf
    exact placeless_textField name
  rw [decode_eq_ok_iff, Document.Tells]
  constructor
  · rintro ⟨hroot, htrailing⟩
    obtain ⟨j, hj⟩ := Document.exists_outline (flaw?_of_decode hfields hroot)
    rw [hplaceless hj, decode_node_eq_some_iff hfields hempty (by decide)] at hroot
    exact ⟨j, ⟨hj, htrailing⟩, hroot⟩
  · rintro ⟨j, ⟨hj, htrailing⟩, htells⟩
    rw [hplaceless hj, decode_node_eq_some_iff hfields hempty (by decide)]
    exact ⟨htells, htrailing⟩

end

end Record

end ImageBot.Json
