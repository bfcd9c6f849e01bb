import ImageBot.Proofs.Json.Places
import ImageBot.Proofs.Json.Records
/-!
# Records with one value left open

A tree with a slot is a record of which one value may be anything. If that is the value of the
first field, and the other fields are read without regard to it, then what the record is decoded to
is told by what one value in the slot makes of it and by how any other value is read.
-/
namespace ImageBot.Json

/-- The members of an object, with a slot for the value of a name. -/
inductive Members.Slot (name : String) : (Node → Members) → Prop
  | here (mark leave : Nat) (rest : Members) :
    Slot name fun v => .member (.ok name) mark v leave rest
  | later {slot : Node → Members} (h : Slot name slot) (key : Reading String) (mark : Nat)
    (other : Node) (leave : Nat) : Slot name fun v => .member key mark other leave (slot v)

/-- An object with a slot for the value of a name, or an array with one in the first place. -/
inductive Node.Slot (name : String) : (Node → Node) → Prop
  | object {slot : Node → Members} (h : Members.Slot name slot) (start : Nat) :
    Slot name fun v => .object start (slot v)
  | array (start : Nat) (leave : Leave) (rest : Items) :
    Slot name fun v => .array start (.item v leave rest)

section

variable {name : String} {document : List UInt8} {v : Node}

/-- A value in a slot stands in the document. -/
theorem Members.Slot.spelled {slot : Node → Members} (h : Members.Slot name slot) :
    (slot v).Spelled document → v.Spelled document := by
  induction h with
  | here => exact And.left
  | later _ _ _ _ _ ih => exact fun hspelled => ih hspelled.2

theorem Node.Slot.spelled {slot : Node → Node} (h : Node.Slot name slot) :
    (slot v).Spelled document → v.Spelled document := by
  cases h with
  | object hmembers => exact hmembers.spelled
  | array => exact And.left

/-- What has a slot is not `null`. -/
theorem Node.Slot.orElse {slot : Node → Node} (h : Node.Slot name slot) {α : Type} (default : α)
    (read : Decoder α) (depth : Nat) (a : α) :
    Decoder.orElse default read depth (slot v) = .ok a ↔ read depth (slot v) = .ok a := by
  cases h <;> simp only [Decoder.orElse, Decoder.optional, map_eq_ok_iff] <;> simp

end

/-- The first field of a record: how it is read and put into the record. The other fields are read
without regard to it. -/
structure Record.First {σ α : Type} (r : Record σ) (f : Field σ) (read : Decoder α)
    (put : α → σ → σ) : Prop where
  fields : ∃ others, r.fields = f :: others ∧
    ∀ g ∈ others, ∀ depth v a s, g.read depth v (put a s) = (g.read depth v s).map (put a)
  read : ∀ depth v s, f.read depth v s = (read depth v).map (put · s)
  put_put : ∀ a b s, put a (put b s) = put a s

namespace Record

variable {σ α : Type} {r : Record σ} {f g : Field σ} {read : Decoder α} {put : α → σ → σ}
  {depth : Nat} {seen : List String} {a : α} {s t : σ}

theorem First.field? (h : r.First f read put) : r.field? f.name = some f := by
  obtain ⟨others, hfields, -⟩ := h.fields
  simp [Record.field?, hfields]

theorem First.read_put (h : r.First f read put) {name : String} (hg : r.field? name = some g)
    (hname : name ≠ f.name) (depth : Nat) (v : Node) (a : α) (s : σ) :
    g.read depth v (put a s) = (g.read depth v s).map (put a) := by
  obtain ⟨others, hfields, hothers⟩ := h.fields
  have hmem := List.mem_of_find?_eq_some hg
  have hgname : g.name = name := by simpa using List.find?_some hg
  rw [hfields, List.mem_cons] at hmem
  rcases hmem with rfl | hmem
  · exact absurd hgname.symm hname
  · exact hothers g hmem depth v a s

/-- Members behind the first field are read without regard to it. -/
theorem First.ofMembers_put (h : r.First f read put) : (members : Members) → ∀ {seen s},
    f.name ∈ seen → r.ofMembers depth seen (put a s) members =
      (r.ofMembers depth seen s members).map (put a)
  | .closed _, seen, s, _ => by
    simp only [ofMembers]
    split <;> rfl
  | .broken _, _, _, _ => rfl
  | .keyOnly key _ _, seen, _, _ => by
    simp only [ofMembers]
    split
    · rfl
    · split <;> rfl
  | .member key mark v leave rest, seen, s, hseen => by
    simp only [ofMembers]
    cases key with
    | error fault => rfl
    | ok name =>
      dsimp only
      cases hg : r.field? name with
      | none =>
        cases v.flaw? with
        | some flaw => rfl
        | none => exact h.ofMembers_put rest hseen
      | some g =>
        by_cases hname : name ∈ seen
        · simp [hname, Except.map]
        · have hne : name ≠ f.name := fun heq => hname (heq ▸ hseen)
          simp only [List.contains_eq_mem, hname, decide_false, h.read_put hg hne]
          cases g.read depth v s with
          | error p => rfl
          | ok s' => exact h.ofMembers_put rest (List.mem_cons_of_mem _ hseen)

/-- The same for items. -/
theorem ofItems_put : (left : List (Field σ)) →
    (∀ g ∈ left, ∀ depth v a s, g.read depth v (put a s) = (g.read depth v s).map (put a)) →
    ∀ {index fault s} (items : Items), r.ofItems depth index left fault (put a s) items =
      (r.ofItems depth index left fault s items).map (put a)
  | [], _, _, fault, _, _ => by cases fault <;> rfl
  | _ :: _, _, _, _, _, .closed _ => by
    simp only [ofItems]
    split <;> rfl
  | _ :: _, _, _, _, _, .broken _ => rfl
  | g :: left, h, index, fault, s, .item v leave rest => by
    obtain ⟨hg, hleft⟩ := List.forall_mem_cons.mp h
    simp only [ofItems, hg]
    cases g.read depth v s with
    | error p => rfl
    | ok s' => exact ofItems_put left hleft rest

variable {v w : Node} {rest : Members} {name : String} {mark leave : Nat}

theorem ofMembers_unknown (hg : r.field? name = none) (hv : v.flaw? = none) :
    r.ofMembers depth seen s (.member (.ok name) mark v leave rest) =
      r.ofMembers depth seen s rest := by
  simp [ofMembers, hg, hv]

theorem ofMembers_field (hg : r.field? name = some g) (hseen : name ∉ seen)
    (hread : g.read depth v s = .ok t) :
    r.ofMembers depth seen s (.member (.ok name) mark v leave rest) =
      r.ofMembers depth (name :: seen) t rest := by
  simp [ofMembers, hg, hseen, hread]

theorem First.read_eq_ok_iff (h : r.First f read put) :
    f.read depth v s = .ok t ↔ ∃ a, read depth v = .ok a ∧ put a s = t := by
  rw [h.read, map_eq_ok_iff]

/-- What members are read to is told by what they are read to with another value in the slot. -/
theorem First.ofMembers_slot (h : r.First f read put) {slot : Node → Members}
    (hslot : Members.Slot f.name slot) : ∀ {seen s},
      r.ofMembers depth seen s (slot w) = .ok t → ∀ {t'},
        (r.ofMembers depth seen s (slot v) = .ok t' ↔
          ∃ a, read depth v = .ok a ∧ put a t = t') := by
  induction hslot with
  | here mark leave rest =>
    intro seen s hw t'
    obtain ⟨_, ⟨⟩, ⟨hnone, -⟩ | ⟨g, s', hg, hseen, hread, hrest⟩⟩ := ofMembers_member_iff.mp hw
    · rw [h.field?] at hnone
      cases hnone
    obtain rfl : f = g := Option.some.inj (h.field?.symm.trans hg)
    obtain ⟨a₀, -, rfl⟩ := h.read_eq_ok_iff.mp hread
    rw [h.ofMembers_put rest List.mem_cons_self, map_eq_ok_iff] at hrest
    obtain ⟨u, hu, rfl⟩ := hrest
    have hbehind (a : α) : r.ofMembers depth (f.name :: seen) (put a s) rest = .ok (put a u) := by
      rw [h.ofMembers_put rest List.mem_cons_self, hu]
      rfl
    simp only [h.put_put]
    constructor
    · intro hv
      obtain ⟨_, ⟨⟩, ⟨hnone, -⟩ | ⟨g, s', hg, -, hread, hrest⟩⟩ := ofMembers_member_iff.mp hv
      · rw [h.field?] at hnone
        cases hnone
      obtain rfl : f = g := Option.some.inj (h.field?.symm.trans hg)
      obtain ⟨a, ha, rfl⟩ := h.read_eq_ok_iff.mp hread
      exact ⟨a, ha, Except.ok.inj ((hbehind a).symm.trans hrest)⟩
    · rintro ⟨a, ha, rfl⟩
      rw [ofMembers_field h.field? hseen (h.read_eq_ok_iff.mpr ⟨a, ha, rfl⟩), hbehind]
  | later hslot key mark other leave ih =>
    intro seen s hw t'
    obtain ⟨name, rfl, ⟨hnone, hflaw, hrest⟩ | ⟨g, s', hg, hseen, hread, hrest⟩⟩ :=
      ofMembers_member_iff.mp hw
    · rw [ofMembers_unknown hnone hflaw]
      exact ih hrest
    · rw [ofMembers_field hg hseen hread]
      exact ih hrest

/-- **What one value makes of a record.** If a record can be decoded with some value in the slot,
then with another one it can be exactly if this one can be read, and differs only in what is
read. -/
theorem First.decode_slot (h : r.First f read put) {slot : Node → Node}
    (hslot : Node.Slot f.name slot) (hw : r.decode depth (slot w) = .ok t) {t' : σ} :
    r.decode depth (slot v) = .ok t' ↔ ∃ a, read (depth - 1) v = .ok a ∧ put a t = t' := by
  cases hslot with
  | object hmembers start =>
    rw [decode_object_iff] at hw ⊢
    rw [h.ofMembers_slot hmembers hw.2]
    exact and_iff_right hw.1
  | array start leave rest =>
    obtain ⟨others, hfields, hothers⟩ := h.fields
    rw [decode_array_iff, hfields, ofItems_item_iff] at hw ⊢
    obtain ⟨hdepth, s', hread, hrest⟩ := hw
    obtain ⟨a₀, -, rfl⟩ := h.read_eq_ok_iff.mp hread
    rw [ofItems_put others hothers, map_eq_ok_iff] at hrest
    obtain ⟨u, hu, rfl⟩ := hrest
    simp only [h.read_eq_ok_iff, h.put_put]
    constructor
    · rintro ⟨-, _, ⟨a, ha, rfl⟩, hv⟩
      rw [ofItems_put others hothers, hu] at hv
      exact ⟨a, ha, Except.ok.inj hv⟩
    · rintro ⟨a, ha, rfl⟩
      refine ⟨hdepth, _, ⟨a, ha, rfl⟩, ?_⟩
      rw [ofItems_put others hothers, hu]
      rfl

end Record

end ImageBot.Json
