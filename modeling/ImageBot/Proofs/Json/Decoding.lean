import ImageBot.Json.Decode
import ImageBot.Proofs.Json.Reading
import ImageBot.Proofs.Json.Sorting
/-!
# Decoding documents that were written

What a decoder makes of a tree that shows a value depends on the value, not on the places.
`Decoder.Reads` says what it makes of it, `Record.Takes` the same for the members of a record
from some point on. A document is decoded as its value is read.
-/
namespace ImageBot.Json

open Text

/-! ### Trees by the values they show -/

/-- What a tree is that shows a value, for each kind of value. -/
theorem Node.shows_iff {node : Node} {v : Value} : node.Shows v ↔ match v with
    | .null => ∃ stop, node = .null stop
    | .bool b => ∃ stop, node = .bool b stop
    | .number n => ∃ stop, node = .number (.ok n) stop
    | .string s => ∃ stop, node = .string (.ok s) stop
    | .array l => ∃ start items, node = .array start items ∧ items.Shows l
    | .object l => ∃ start members, node = .object start members ∧ members.Shows l := by
  cases v <;> cases node <;> simp [Node.Shows]

namespace Items

variable {items : Items}

theorem shows_nil_iff : items.Shows [] ↔ ∃ stop, items = .closed stop := by
  cases items <;> simp [Shows]

theorem shows_cons_iff {v : Value} {l : List Value} :
    items.Shows (v :: l) ↔ ∃ node leave rest,
      items = .item node leave rest ∧ node.Shows v ∧ rest.Shows l := by
  cases items with
  | item node leave rest =>
    simp only [Shows, item.injEq]
    constructor
    · rintro ⟨hnode, hrest⟩
      exact ⟨node, leave, rest, ⟨rfl, rfl, rfl⟩, hnode, hrest⟩
    · rintro ⟨_, _, _, ⟨rfl, rfl, rfl⟩, hnode, hrest⟩
      exact ⟨hnode, hrest⟩
  | closed _ | broken _ => simp [Shows]

end Items

namespace Members

variable {members : Members}

theorem shows_nil_iff : members.Shows [] ↔ ∃ stop, members = .closed stop := by
  cases members <;> simp [Shows]

theorem shows_cons_iff {name : String} {v : Value} {l : List (String × Value)} :
    members.Shows ((name, v) :: l) ↔ ∃ mark node leave rest,
      members = .member (.ok name) mark node leave rest ∧ node.Shows v ∧ rest.Shows l := by
  cases members with
  | member key mark node leave rest =>
    simp only [Shows, member.injEq]
    constructor
    · rintro ⟨rfl, hnode, hrest⟩
      exact ⟨mark, node, leave, rest, ⟨rfl, rfl, rfl, rfl, rfl⟩, hnode, hrest⟩
    · rintro ⟨_, _, _, _, ⟨rfl, rfl, rfl, rfl, rfl⟩, hnode, hrest⟩
      exact ⟨rfl, hnode, hrest⟩
  | closed _ | broken _ | keyOnly _ _ _ => simp [Shows]

end Members

mutual
/-- A value from which a tree is made is shown by it. -/
theorem Node.shows_ofValue (v : Value) : (Node.ofValue v).Shows v := by
  cases v with
  | null => trivial
  | bool b => rfl
  | number n => rfl
  | string s => rfl
  | array items => exact Items.shows_ofValues items.length 1 items
  | object members => exact Members.shows_ofValues members
/-- The same for items. -/
theorem Items.shows_ofValues (length number : Nat) (values : List Value) :
    (Items.ofValues length number values).Shows values := by
  cases values with
  | nil => trivial
  | cons v rest => exact ⟨Node.shows_ofValue v, Items.shows_ofValues length (number + 1) rest⟩
/-- The same for members. -/
theorem Members.shows_ofValues : (values : List (String × Value)) →
    (Members.ofValues values).Shows values
  | [] => trivial
  | (_, v) :: rest => ⟨rfl, Node.shows_ofValue v, Members.shows_ofValues rest⟩
end

mutual
/-- How deep the containers of a value are nested. -/
def Value.height : Value → Nat
  | .array items => itemsHeight items + 1
  | .object members => membersHeight members + 1
  | _ => 0
/-- The same for items. -/
def itemsHeight : List Value → Nat
  | [] => 0
  | v :: rest => max v.height (itemsHeight rest)
/-- The same for members. -/
def membersHeight : List (String × Value) → Nat
  | [] => 0
  | (_, v) :: rest => max v.height (membersHeight rest)
end

theorem enter_of_lt {depth : Nat} (h : 1 < depth) (start : Nat) :
    enter depth start = .ok (depth - 1) := by
  rw [enter, if_neg (by omega)]

mutual
/-- The value that a tree shows can be taken from it as a whole, if it is not too deep. -/
theorem Node.Shows.toValue {v : Value} {node : Node} (h : node.Shows v) (depth : Nat)
    (hdepth : v.height < depth) : node.toValue depth = .ok v := by
  cases v with
  | null =>
    obtain ⟨stop, rfl⟩ := Node.shows_iff.mp h
    rfl
  | bool b =>
    obtain ⟨stop, rfl⟩ := Node.shows_iff.mp h
    rfl
  | number n =>
    obtain ⟨stop, rfl⟩ := Node.shows_iff.mp h
    rfl
  | string s =>
    obtain ⟨stop, rfl⟩ := Node.shows_iff.mp h
    rfl
  | array values =>
    obtain ⟨start, items, rfl, hitems⟩ := Node.shows_iff.mp h
    rw [Value.height] at hdepth
    have hvalues := Items.Shows.toValues hitems (depth - 1) (by omega)
    simp only [Node.toValue, enter_of_lt (show 1 < depth by omega), hvalues]
    rfl
  | object values =>
    obtain ⟨start, members, rfl, hmembers⟩ := Node.shows_iff.mp h
    rw [Value.height] at hdepth
    have hvalues := Members.Shows.toValues hmembers (depth - 1) (by omega)
    simp only [Node.toValue, enter_of_lt (show 1 < depth by omega), hvalues]
    rfl
/-- The same for items. -/
theorem Items.Shows.toValues {values : List Value} {items : Items} (h : items.Shows values)
    (depth : Nat) (hdepth : itemsHeight values < depth) : items.toValues depth = .ok values := by
  cases values with
  | nil =>
    obtain ⟨stop, rfl⟩ := Items.shows_nil_iff.mp h
    rfl
  | cons v rest =>
    obtain ⟨node, leave, items, rfl, hnode, hitems⟩ := Items.shows_cons_iff.mp h
    rw [itemsHeight] at hdepth
    have hvalue := Node.Shows.toValue hnode depth (by omega)
    have hvalues := Items.Shows.toValues hitems depth (by omega)
    simp only [Items.toValues, hvalue, hvalues]
    rfl
/-- The same for members. -/
theorem Members.Shows.toValues {values : List (String × Value)} {members : Members}
    (h : members.Shows values) (depth : Nat) (hdepth : membersHeight values < depth) :
    members.toValues depth = .ok values := by
  match values, h, hdepth with
  | [], h, _ =>
    obtain ⟨stop, rfl⟩ := Members.shows_nil_iff.mp h
    rfl
  | (name, v) :: rest, h, hdepth =>
    obtain ⟨mark, node, leave, members, rfl, hnode, hmembers⟩ := Members.shows_cons_iff.mp h
    rw [membersHeight] at hdepth
    have hvalue := Node.Shows.toValue hnode depth (by omega)
    have hvalues := Members.Shows.toValues hmembers depth (by omega)
    simp only [Members.toValues, hvalue, hvalues]
    rfl
end

theorem Items.Shows.flaw? {values : List Value} {items : Items} (h : items.Shows values) :
    items.flaw? = none := by
  induction values generalizing items with
  | nil =>
    obtain ⟨stop, rfl⟩ := Items.shows_nil_iff.mp h
    rfl
  | cons v rest ih =>
    obtain ⟨node, leave, items, rfl, -, hitems⟩ := Items.shows_cons_iff.mp h
    rw [Items.flaw?]
    exact ih hitems

theorem Members.Shows.flaw? {values : List (String × Value)} {members : Members}
    (h : members.Shows values) : members.flaw? = none := by
  induction values generalizing members with
  | nil =>
    obtain ⟨stop, rfl⟩ := Members.shows_nil_iff.mp h
    rfl
  | cons m rest ih =>
    obtain ⟨mark, node, leave, members, rfl, -, hmembers⟩ := Members.shows_cons_iff.mp h
    rw [Members.flaw?]
    exact ih hmembers

/-- A tree that shows a value can be passed over. -/
theorem Node.Shows.flaw? {v : Value} {node : Node} (h : node.Shows v) : node.flaw? = none := by
  cases node with
  | array start items =>
    cases v with
    | array values => exact Items.Shows.flaw? h
    | _ => exact h.elim
  | object start members =>
    cases v with
    | object values => exact Members.Shows.flaw? h
    | _ => exact h.elim
  | broken f => cases v <;> exact h.elim
  | _ => rfl

/-! ### Sorted values -/

theorem exact_insertMember {name : String} {v : Value} {l : List (String × Value)} (hv : v.Exact)
    (hl : MembersExact l) : MembersExact (Value.insertMember name v l) := by
  induction l with
  | nil => exact ⟨hv, trivial⟩
  | cons m rest ih =>
    obtain ⟨hm, hrest⟩ := hl
    simp only [Value.insertMember]
    split
    · exact ⟨hv, hm, hrest⟩
    · split
      · exact ⟨hv, hrest⟩
      · exact ⟨hm, ih hrest⟩

theorem exact_sortMembers {l : List (String × Value)} (hl : MembersExact l) :
    MembersExact (Value.sortMembers l) := by
  have hfold (sorted : List (String × Value)) (hsorted : MembersExact sorted) :
      MembersExact (l.foldl (fun sorted m => Value.insertMember m.1 m.2 sorted) sorted) := by
    induction l generalizing sorted with
    | nil => exact hsorted
    | cons m rest ih =>
      obtain ⟨hm, hrest⟩ := hl
      exact ih hrest _ (exact_insertMember hm hsorted)
  exact hfold [] trivial

mutual
/-- Sorting leaves numbers as they are. -/
theorem Value.Exact.sorted {v : Value} (hv : v.Exact) : v.sorted.Exact := by
  cases v with
  | array items => exact ItemsExact.sortedItems hv
  | object members => exact exact_sortMembers (MembersExact.sortedMembers members hv)
  | _ => exact hv
/-- The same for items. -/
theorem ItemsExact.sortedItems {items : List Value} (hv : ItemsExact items) :
    ItemsExact (Value.sortedItems items) := by
  cases items with
  | nil => trivial
  | cons v rest => exact ⟨hv.1.sorted, ItemsExact.sortedItems hv.2⟩
/-- The same for members. -/
theorem MembersExact.sortedMembers : (members : List (String × Value)) → MembersExact members →
    MembersExact (Value.sortedMembers members)
  | [], _ => trivial
  | (_, _) :: rest, hv => ⟨hv.1.sorted, MembersExact.sortedMembers rest hv.2⟩
end

/-! ### Decoders by the values they read -/

/-- What a decoder makes of a value, wherever this stands. -/
def Decoder.Reads {α : Type} (read : Decoder α) (depth : Nat) (v : Value) (a : α) : Prop :=
  ∀ node, node.Shows v → read depth node = .ok a

/-- What a field makes of a record, when it has a value. -/
def Field.Reads {σ : Type} (f : Field σ) (depth : Nat) (v : Value) (s t : σ) : Prop :=
  ∀ node, node.Shows v → f.read depth node s = .ok t

namespace Decoder

variable {α σ : Type} {read : Decoder α} {depth : Nat} {v : Value} {a : α}

theorem reads_string (depth : Nat) (s : String) : string.Reads depth (.string s) s := by
  intro node hnode
  obtain ⟨stop, rfl⟩ := Node.shows_iff.mp hnode
  rfl

theorem reads_nat32 {n : Nat} (hn : n < 2 ^ 32) (depth : Nat) :
    nat32.Reads depth (.number (.int n)) n := by
  intro node hnode
  obtain ⟨stop, rfl⟩ := Node.shows_iff.mp hnode
  have hbounds : 0 ≤ (n : Int) ∧ (n : Int) ≤ 2 ^ 32 - 1 := by omega
  simp only [nat32, integer, hbounds, and_self, if_true]
  rfl

theorem reads_optional_null (read : Decoder α) (depth : Nat) :
    (optional read).Reads depth .null none := by
  intro node hnode
  obtain ⟨stop, rfl⟩ := Node.shows_iff.mp hnode
  rfl

theorem Reads.optional (h : read.Reads depth v a) (hv : v ≠ .null) :
    (optional read).Reads depth v (some a) := by
  intro node hnode
  have hread := h node hnode
  cases node with
  | null stop =>
    cases v with
    | null => exact (hv rfl).elim
    | _ => exact hnode.elim
  | _ => simp only [Decoder.optional, hread, Except.map]

/-- A field puts into a record what is read from its value. -/
theorem Reads.required (h : read.Reads depth v a) {name : String} {put : α → σ → σ} {s : σ} :
    (Field.required name read put).Reads depth v s (put a s) := by
  intro node hnode
  simp only [Field.required, h node hnode, Except.map]

/-- **A document that was written is decoded as its value is read.** -/
theorem Reads.decode (h : read.Reads 128 v a) (hv : v.Exact) :
    Json.decode read (Utf8.bytes v.write) = .ok a := by
  obtain ⟨node, hshows, hparse⟩ := Document.parse_write hv
  simp only [Json.decode, hparse, h node hshows]

end Decoder

namespace Record

variable {σ : Type} {r : Record σ} {f : Field σ} {depth : Nat} {seen : List String} {s s' t : σ}
  {name : String} {v : Value} {l : List (String × Value)}

/-- What a record takes from members, if some fields were seen before. -/
def Takes (r : Record σ) (depth : Nat) (seen : List String) (s : σ) (l : List (String × Value))
    (t : σ) : Prop :=
  ∀ members, members.Shows l → r.ofMembers depth seen s members = .ok t

theorem Takes.nil (h : (r.fields.find? fun f => f.inObject && !seen.contains f.name) = none) :
    r.Takes depth seen s [] s := by
  intro members hmembers
  obtain ⟨stop, rfl⟩ := Members.shows_nil_iff.mp hmembers
  simp only [ofMembers, h]

theorem Takes.field (hf : r.field? name = some f) (hseen : seen.contains name = false)
    (hread : f.Reads depth v s s')
    (hrest : r.Takes depth (name :: seen) s' l t) : r.Takes depth seen s ((name, v) :: l) t := by
  intro members hmembers
  obtain ⟨mark, node, leave, members, rfl, hnode, hmembers⟩ := Members.shows_cons_iff.mp hmembers
  simp only [ofMembers, hf, hseen, Bool.false_eq_true, if_false, hread node hnode]
  exact hrest members hmembers

theorem Takes.unknown (hf : r.field? name = none) (hrest : r.Takes depth seen s l t) :
    r.Takes depth seen s ((name, v) :: l) t := by
  intro members hmembers
  obtain ⟨mark, node, leave, members, rfl, hnode, hmembers⟩ := Members.shows_cons_iff.mp hmembers
  simp only [ofMembers, hf, hnode.flaw?]
  exact hrest members hmembers

/-- A record is read from an object as it takes the members. -/
theorem Takes.reads (h : r.Takes (depth - 1) [] r.empty l t) (hdepth : 1 < depth) :
    Decoder.Reads r.decode depth (.object l) t := by
  intro node hnode
  obtain ⟨start, members, rfl, hmembers⟩ := Node.shows_iff.mp hnode
  simp only [decode, enter_of_lt hdepth, bind, Except.bind]
  exact h members hmembers

/-- A record is read from a value as from its text. -/
theorem ofValue_of_reads (h : Decoder.Reads r.decode 128 v t) : r.ofValue v = .ok t := by
  rw [ofValue, h _ (Node.shows_ofValue v)]

end Record

end ImageBot.Json
