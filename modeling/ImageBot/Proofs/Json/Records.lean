import ImageBot.Json.Decode
import ImageBot.Proofs.Json.Outline
import ImageBot.Proofs.Result
import Mathlib.Data.List.Pairwise
import Mathlib.Data.List.Perm.Basic
/-!
# Records of which nothing is required

A decoder that succeeds on a tree does so for what the tree says: it is `Placeless`. So it is
enough to know what it makes of outlines. A record is `Loose` if no field is required, `null`
leaves a field empty, and fields can be read in any order; then an object can be rearranged, and
lose or gain what says nothing to the record, and is still read as the same.
-/
namespace ImageBot.Json

/-! ### Decoders that do not depend on places -/

/-- What is read from a tree is what is read from any other that says the same. -/
def Decoder.Placeless {α : Type} (read : Decoder α) : Prop :=
  ∀ ⦃depth node j⦄, node.outline? = some j →
    ∀ a, read depth node = .ok a ↔ read depth j.node = .ok a

/-- What a field makes of a tree is what it makes of any other that says the same. -/
def Field.Placeless {σ : Type} (f : Field σ) : Prop :=
  ∀ ⦃depth node j⦄, node.outline? = some j → ∀ s t,
    f.read depth node s = .ok t ↔ f.read depth j.node s = .ok t

theorem readingOf_eq_ok_iff {α : Type} {cause : Cause} {reading : Reading α} {a : α} :
    readingOf cause reading.toOption = .ok a ↔ reading = .ok a := by
  cases reading <;> simp [readingOf, Except.toOption]

theorem get_readingOf {α : Type} {cause : Cause} {reading : Reading α} {a : α} :
    (readingOf cause reading.toOption).get = .ok a ↔ reading.get = .ok a := by
  cases reading <;> simp [readingOf, Except.toOption, Reading.get]

/-- A container is entered if there is depth left, wherever it starts. -/
theorem enter_bind_eq_ok_iff {α : Type} {depth start : Nat} {f : Nat → Except Problem α} {a : α} :
    enter depth start >>= f = .ok a ↔ 1 < depth ∧ f (depth - 1) = .ok a := by
  rw [enter]
  split
  · next h => simp [bind, Except.bind, Nat.not_lt.mpr h]
  · next h => simp [bind, Except.bind, Nat.lt_of_not_le h]

/-- A document is decoded if its value is and nothing follows. -/
theorem decode_eq_ok_iff {α : Type} {read : Decoder α} {document : List UInt8} {a : α} :
    decode read document = .ok a ↔ read 128 (Document.parse document).root = .ok a ∧
      (Document.parse document).trailing = none := by
  rw [decode]
  cases read 128 (Document.parse document).root with
  | error p => simp
  | ok b => cases (Document.parse document).trailing <;> simp

namespace Decoder

variable {α : Type} {read : Decoder α}

theorem placeless_string : Placeless string := by
  intro depth node j hj a
  cases Node.form hj with
  | string s stop => exact get_readingOf.symm
  | null | bool | number | array | object => simp [string, Outline.node]

theorem placeless_float : Placeless float := by
  intro depth node j hj a
  cases Node.form hj with
  | number n stop => simp only [float, Outline.node, map_eq_ok_iff, get_readingOf]
  | null | bool | string | array | object => simp [float, Outline.node]

theorem placeless_integer (title : String) (least greatest : Int) :
    Placeless (integer title least greatest) := by
  intro depth node j hj a
  cases Node.form hj with
  | number n stop =>
    rcases n with f | n | x
    · simp [integer, Outline.node, readingOf, Except.toOption]
    · simp only [integer, Outline.node, readingOf, Except.toOption]
      split <;> simp
    · simp [integer, Outline.node, readingOf, Except.toOption]
  | null | bool | string | array | object => simp [integer, Outline.node]

theorem Placeless.orElse (h : Placeless read) (default : α) : Placeless (orElse default read) := by
  intro depth node j hj a
  have hread := @h depth node j hj
  cases Node.form hj with
  | null stop => exact Iff.rfl
  | bool | number | string | array | object =>
    simp only [Outline.node] at hread
    simp only [Decoder.orElse, optional, Outline.node, map_eq_ok_iff, hread]

theorem items_item_iff {depth index : Nat} {v : Node} {leave : Leave} {rest : Items}
    {as : List α} : items read depth index (.item v leave rest) = .ok as ↔
      ∃ a more, read depth v = .ok a ∧ items read depth (index + 1) rest = .ok more ∧
        as = a :: more := by
  rw [items]
  cases read depth v with
  | error p => simp
  | ok a => simp [map_eq_ok_iff, eq_comm (a := as)]

theorem Placeless.items (h : Placeless read) {depth : Nat} : {xs : Items} → {l : List Outline} →
    xs.outlines? = some l → ∀ index as, items read depth index xs = .ok as ↔
      items read depth index (.ofOutlines l) = .ok as
  | .closed _, _, hl, _, _ => by
    cases hl
    exact Iff.rfl
  | .broken _, _, hl, _, _ => by cases hl
  | .item v leave rest, _, hl, index, as => by
    obtain ⟨j, l, hj, hrest, -, rfl⟩ := Items.outlines?_item_iff.mp hl
    simp only [Items.ofOutlines, items_item_iff, h hj, h.items hrest (index + 1)]

theorem list_array_iff {depth start : Nat} {xs : Items} {as : List α} :
    list read depth (.array start xs) = .ok as ↔
      1 < depth ∧ items read (depth - 1) 0 xs = .ok as := by
  rw [list, enter_bind_eq_ok_iff]

theorem Placeless.list (h : Placeless read) : Placeless (list read) := by
  intro depth node j hj as
  cases Node.form hj with
  | array start hl => simp only [Outline.node, list_array_iff, h.items hl]
  | null | bool | number | string | object => simp [Decoder.list, Outline.node]

end Decoder

namespace Field

variable {σ α : Type} {read : Decoder α}

theorem placeless_defaulted (h : read.Placeless) (name : String) (default : α)
    (put : α → σ → σ) : (defaulted name default read put).Placeless := by
  intro depth node j hj s t
  simp only [defaulted, map_eq_ok_iff, h.orElse default hj]

end Field

namespace Record

variable {σ : Type} {r : Record σ}

theorem ofMembers_member_iff {depth mark offset : Nat} {seen : List String} {key : Reading String}
    {v : Node} {rest : Members} {s t : σ} :
    r.ofMembers depth seen s (.member key mark v offset rest) = .ok t ↔ ∃ name, key = .ok name ∧
      ((r.field? name = none ∧ v.flaw? = none ∧ r.ofMembers depth seen s rest = .ok t) ∨
        ∃ f s', r.field? name = some f ∧ name ∉ seen ∧ f.read depth v s = .ok s' ∧
          r.ofMembers depth (name :: seen) s' rest = .ok t) := by
  cases key with
  | error f => simp [ofMembers]
  | ok name =>
    simp only [ofMembers]
    cases hf : r.field? name with
    | none => cases hv : v.flaw? <;> simp [hf]
    | some f =>
      by_cases hseen : name ∈ seen
      · simp [hf, hseen]
      · cases hread : f.read depth v s <;> simp [hf, hseen, hread]

/-- An object is read to its end. -/
theorem flaw?_of_ofMembers {depth : Nat} {t : σ} : {members : Members} → ∀ {seen s},
    r.ofMembers depth seen s members = .ok t → members.flaw? = none
  | .closed _, _, _, _ => rfl
  | .broken _, _, _, h => by cases h
  | .keyOnly key _ _, seen, _, h => by
    cases key with
    | error f => cases h
    | ok name =>
      simp only [ofMembers] at h
      split at h <;> cases h
  | .member _ _ _ _ rest, _, _, h => by
    rw [Members.flaw?]
    obtain ⟨name, -, ⟨-, -, hrest⟩ | ⟨f, s', -, -, -, hrest⟩⟩ := ofMembers_member_iff.mp h
    · exact flaw?_of_ofMembers hrest
    · exact flaw?_of_ofMembers hrest

theorem placeless_ofMembers (h : ∀ f ∈ r.fields, f.Placeless) {depth : Nat} : {members : Members} →
    {m : List (Option String × Outline)} → members.outlines? = some m → ∀ seen s t,
      r.ofMembers depth seen s members = .ok t ↔ r.ofMembers depth seen s (.ofOutlines m) = .ok t
  | .closed _, _, hm, seen, s, t => by
    cases hm
    simp only [Members.ofOutlines, ofMembers]
    split <;> simp
  | .broken _, _, hm, _, _, _ => by cases hm
  | .keyOnly _ _ _, _, hm, _, _, _ => by cases hm
  | .member key mark v offset rest, _, hm, seen, s, t => by
    obtain ⟨j, m, hj, hrest, rfl⟩ := Members.outlines?_member_iff.mp hm
    simp only [Members.ofOutlines, ofMembers_member_iff, readingOf_eq_ok_iff]
    refine exists_congr fun name => and_congr_right fun _ => or_congr ?_ ?_
    · rw [placeless_ofMembers h hrest, Node.flaw?_of_outline hj,
        Node.flaw?_of_outline (Outline.outline?_node j)]
    · refine exists_congr fun f => exists_congr fun s' => and_congr_right fun hf =>
        and_congr_right fun _ => and_congr ?_ (placeless_ofMembers h hrest _ _ _)
      exact h f (List.mem_of_find?_eq_some hf) hj s s'

theorem ofItems_item_iff {depth index : Nat} {f : Field σ} {left : List (Field σ)}
    {fault : Option Fault} {v : Node} {leave : Leave} {rest : Items} {s t : σ} :
    r.ofItems depth index (f :: left) fault s (.item v leave rest) = .ok t ↔ ∃ s',
      f.read depth v s = .ok s' ∧ r.ofItems depth (index + 1) left leave.fault s' rest = .ok t := by
  rw [ofItems]
  cases f.read depth v s <;> simp

theorem placeless_ofItems {depth : Nat} : {left : List (Field σ)} → (∀ f ∈ left, f.Placeless) →
    {xs : Items} → {l : List Outline} → xs.outlines? = some l → ∀ index fault fault' s t,
      (fault = none ↔ fault' = none) → (r.ofItems depth index left fault s xs = .ok t ↔
        r.ofItems depth index left fault' s (.ofOutlines l) = .ok t)
  -- a fault in leaving the array shows only here, and the outline tells whether there is one
  | [], _, _, _, _, index, fault, fault', s, t, hfault => by
    cases fault <;> cases fault' <;> simp_all [ofItems]
  | f :: left, _, .closed _, _, hl, index, _, _, s, t, _ => by
    cases hl
    simp only [Items.ofOutlines, ofItems]
    split <;> simp
  | _ :: _, _, .broken _, _, hl, _, _, _, _, _, _ => by cases hl
  | f :: left, h, .item v leave rest, _, hl, index, _, _, s, t, _ => by
    obtain ⟨j, l, hj, hrest, hleave, rfl⟩ := Items.outlines?_item_iff.mp hl
    obtain ⟨hf, hleft⟩ := List.forall_mem_cons.mp h
    simp only [Items.ofOutlines, ofItems_item_iff]
    refine exists_congr fun s' =>
      and_congr (hf hj s s') (placeless_ofItems hleft hrest _ _ _ _ _ ?_)
    cases l <;> simp [hleave]

theorem decode_object_iff {depth start : Nat} {members : Members} {t : σ} :
    r.decode depth (.object start members) = .ok t ↔
      1 < depth ∧ r.ofMembers (depth - 1) [] r.empty members = .ok t := by
  rw [decode, enter_bind_eq_ok_iff]

theorem decode_array_iff {depth start : Nat} {xs : Items} {t : σ} :
    r.decode depth (.array start xs) = .ok t ↔
      1 < depth ∧ r.ofItems (depth - 1) 0 r.fields none r.empty xs = .ok t := by
  rw [decode, enter_bind_eq_ok_iff]

/-- A document with an object of which a record is decoded holds what this says. -/
theorem exists_holds_of_decode {document : List UInt8} {start : Nat} {members : Members} {t : σ}
    (hobject : (Document.parse document).root = .object start members)
    (h : Json.decode r.decode document = .ok t) : ∃ m, Document.Holds document (.object m) := by
  rw [decode_eq_ok_iff, hobject, decode_object_iff] at h
  obtain ⟨⟨-, hmembers⟩, htrailing⟩ := h
  have hflaw : (Document.parse document).root.flaw? = none := by
    rw [hobject]
    exact flaw?_of_ofMembers hmembers
  obtain ⟨j, hj⟩ := Document.exists_outline hflaw
  rw [hobject] at hj
  obtain ⟨m, hm, -⟩ := Node.outline?_object_iff.mp hj
  exact ⟨m, by rw [hobject]; exact Node.outline?_object_iff.mpr ⟨m, hm, rfl⟩, htrailing⟩

/-- A record whose fields do not depend on places does not depend on them either. -/
theorem placeless_decode (h : ∀ f ∈ r.fields, f.Placeless) : r.decode.Placeless := by
  intro depth node j hj t
  cases Node.form hj with
  | array start hl =>
    simp only [Outline.node, decode_array_iff, placeless_ofItems h hl 0 none none _ _ Iff.rfl]
  | object start hm => simp only [Outline.node, decode_object_iff, placeless_ofMembers h hm]
  | null | bool | number | string => simp [decode, Outline.node]

end Record

/-! ### Records that can be rearranged -/

/-- Two fields can be read in any order. -/
def Field.Commutes {σ : Type} (f g : Field σ) : Prop :=
  ∀ depth v w s t, (∃ s', f.read depth v s = .ok s' ∧ g.read depth w s' = .ok t) ↔
    ∃ s', g.read depth w s = .ok s' ∧ f.read depth v s' = .ok t

instance {σ : Type} : Std.Symm (@Field.Commutes σ) :=
  ⟨fun _ _ h depth v w s t => (h depth w v s t).symm⟩

namespace Record

variable {σ : Type}

/-- A record of which nothing is required, whose fields keep their empty values at `null` and can
be read in any order. -/
structure Loose (r : Record σ) : Prop where
  optional : ∀ f ∈ r.fields, f.inObject = false
  null : ∀ f ∈ r.fields, ∀ depth, f.read depth (.null 0) r.empty = .ok r.empty
  commutes : r.fields.Pairwise Field.Commutes

variable {r : Record σ}

/-- The names of fields among those of members. -/
def known (r : Record σ) (m : List (Option String × Outline)) : List String :=
  m.filterMap fun member => member.1.filter fun name => (r.field? name).isSome

/-- What the members of an object make of a record, one after the other. -/
inductive Collects (r : Record σ) (depth : Nat) : σ → List (Option String × Outline) → σ → Prop
  | nil (s : σ) : Collects r depth s [] s
  | unknown {name : String} {j : Outline} {m : List (Option String × Outline)} {s t : σ}
    (hf : r.field? name = none) (rest : Collects r depth s m t) :
    Collects r depth s ((some name, j) :: m) t
  | field {name : String} {f : Field σ} {j : Outline} {m : List (Option String × Outline)}
    {s s' t : σ} (hf : r.field? name = some f) (hread : f.read depth j.node s = .ok s')
    (rest : Collects r depth s' m t) : Collects r depth s ((some name, j) :: m) t

variable {depth : Nat} {m m' : List (Option String × Outline)} {name : String} {j : Outline}
  {f : Field σ} {s t : σ}

theorem known_cons_unknown (hf : r.field? name = none) :
    r.known ((some name, j) :: m) = r.known m := by
  simp [known, hf]

theorem known_cons_field (hf : r.field? name = some f) :
    r.known ((some name, j) :: m) = name :: r.known m := by
  simp [known, hf, Option.filter]

theorem collects_unknown_iff (hf : r.field? name = none) :
    r.Collects depth s ((some name, j) :: m) t ↔ r.Collects depth s m t := by
  constructor
  · intro h
    cases h with
    | unknown _ rest => exact rest
    | field hf' => rw [hf] at hf'; cases hf'
  · exact .unknown hf

theorem collects_field_iff (hf : r.field? name = some f) :
    r.Collects depth s ((some name, j) :: m) t ↔
      ∃ s', f.read depth j.node s = .ok s' ∧ r.Collects depth s' m t := by
  constructor
  · intro h
    cases h with
    | unknown hf' => rw [hf] at hf'; cases hf'
    | field hf' hread rest =>
      rw [hf, Option.some.injEq] at hf'
      exact ⟨_, hf' ▸ hread, rest⟩
  · rintro ⟨s', hread, rest⟩
    exact .field hf hread rest

theorem Loose.find?_eq_none (h : r.Loose) (seen : List String) :
    (r.fields.find? fun f => f.inObject && !seen.contains f.name) = none := by
  rw [List.find?_eq_none]
  intro f hf
  simp [h.optional f hf]

/-- Members are read onto a loose record if none of its fields is among them twice. -/
theorem Loose.ofMembers_iff (h : r.Loose) {seen : List String} {s : σ} :
    r.ofMembers depth seen s (.ofOutlines m) = .ok t ↔
      r.Collects depth s m t ∧ (r.known m).Nodup ∧ ∀ name ∈ r.known m, name ∉ seen := by
  induction m generalizing seen s with
  | nil =>
    simp only [Members.ofOutlines, ofMembers, h.find?_eq_none, Except.ok.injEq, known,
      List.filterMap_nil, List.nodup_nil, List.not_mem_nil, false_implies, implies_true, and_true]
    exact ⟨fun hs => hs ▸ .nil s, fun hs => by cases hs; rfl⟩
  | cons member m ih =>
    obtain ⟨key, j⟩ := member
    rw [Members.ofOutlines, ofMembers_member_iff]
    cases key with
    | none =>
      refine iff_of_false ?_ ?_
      · rintro ⟨name, hname, -⟩
        cases hname
      · rintro ⟨hcollects, -⟩
        cases hcollects
    | some name =>
      have hflaw : j.node.flaw? = none := Node.flaw?_of_outline (Outline.outline?_node j)
      simp only [readingOf, Except.ok.injEq, exists_eq_left', hflaw, true_and]
      cases hf : r.field? name with
      | none =>
        simp [collects_unknown_iff hf, known_cons_unknown hf, ih]
      | some f =>
        simp only [reduceCtorEq, false_and, false_or, collects_field_iff hf, known_cons_field hf,
          Option.some.injEq, exists_and_left, exists_eq_left', ih, List.nodup_cons,
          List.forall_mem_cons]
        constructor
        · rintro ⟨hseen, s', hread, hcollects, hnodup, hfresh⟩
          refine ⟨⟨s', hread, hcollects⟩, ⟨?_, hnodup⟩, hseen, ?_⟩
          · exact fun hmem => hfresh name hmem List.mem_cons_self
          · exact fun other hmem hother => hfresh other hmem (List.mem_cons_of_mem _ hother)
        · rintro ⟨⟨s', hread, hcollects⟩, ⟨hnot, hnodup⟩, hseen, hfresh⟩
          refine ⟨hseen, s', hread, hcollects, hnodup, ?_⟩
          intro other hmem hother
          rcases List.mem_cons.mp hother with rfl | hother
          · exact hnot hmem
          · exact hfresh other hmem hother

/-- A loose record is read from an object if its fields are, each at most once. -/
theorem Loose.decode_iff (h : r.Loose) : r.decode depth (Outline.object m).node = .ok t ↔
    1 < depth ∧ r.Collects (depth - 1) r.empty m t ∧ (r.known m).Nodup := by
  simp [Outline.node, decode_object_iff, h.ofMembers_iff]

theorem field?_eq_some {name : String} {f : Field σ} (hf : r.field? name = some f) :
    f ∈ r.fields ∧ f.name = name := by
  have hname := List.find?_some hf
  exact ⟨List.mem_of_find?_eq_some hf, by simpa using hname⟩

/-- What members make of a loose record does not depend on their order, if no field is among them
twice. -/
theorem Loose.collects_perm (h : r.Loose) (hperm : m.Perm m') :
    ∀ {s}, (r.known m).Nodup → r.Collects depth s m t → r.Collects depth s m' t := by
  induction hperm with
  | nil => exact fun _ hcollects => hcollects
  | cons member _ ih =>
    intro s hnodup hcollects
    cases hcollects with
    | unknown hf rest =>
      rw [known_cons_unknown hf] at hnodup
      exact .unknown hf (ih hnodup rest)
    | field hf hread rest =>
      rw [known_cons_field hf] at hnodup
      exact .field hf hread (ih hnodup.of_cons rest)
  | swap x y m =>
    intro s hnodup hcollects
    cases hcollects with
    | unknown hf rest =>
      cases rest with
      | unknown hf' rest => exact .unknown hf' (.unknown hf rest)
      | field hf' hread rest => exact .field hf' hread (.unknown hf rest)
    | @field name f j _ _ s₁ _ hf hread rest =>
      cases rest with
      | unknown hf' rest => exact .unknown hf' (.field hf hread rest)
      | @field name' g j' _ _ s₂ _ hf' hread' rest =>
        -- a name has one field, so these two are different
        rw [known_cons_field hf, known_cons_field hf'] at hnodup
        have hne : f ≠ g := by
          rintro rfl
          have hsame : name = name' := (field?_eq_some hf).2.symm.trans (field?_eq_some hf').2
          exact (List.nodup_cons.mp hnodup).1 (hsame ▸ List.mem_cons_self)
        have hcommutes : f.Commutes g :=
          h.commutes.forall (field?_eq_some hf).1 (field?_eq_some hf').1 hne
        obtain ⟨s₃, hread₃, hread₂⟩ := (hcommutes depth j.node j'.node s s₂).mp ⟨s₁, hread, hread'⟩
        exact .field hf' hread₃ (.field hf hread₂ rest)
  | trans hperm _ ih ih' =>
    intro s hnodup hcollects
    exact ih' ((hperm.filterMap _).nodup hnodup) (ih hnodup hcollects)

end Record

theorem Field.commutes_defaulted {σ α β : Type} {read : Decoder α} {read' : Decoder β}
    {put : α → σ → σ} {put' : β → σ → σ} {name name' : String} {a : α} {b : β}
    (h : ∀ a b s, put' b (put a s) = put a (put' b s)) :
    (defaulted name a read put).Commutes (defaulted name' b read' put') := by
  intro depth v w s t
  simp only [defaulted, map_eq_ok_iff]
  constructor
  · rintro ⟨_, ⟨x, hx, rfl⟩, y, hy, rfl⟩
    exact ⟨_, ⟨y, hy, rfl⟩, x, hx, (h x y s).symm⟩
  · rintro ⟨_, ⟨y, hy, rfl⟩, x, hx, rfl⟩
    exact ⟨_, ⟨x, hx, rfl⟩, y, hy, h x y s⟩

/-! ### Outlines of which as much is read -/

/-- Whatever a decoder reads from an outline it reads from another. -/
def Decoder.Follows {α : Type} (read : Decoder α) (j j' : Outline) : Prop :=
  ∀ ⦃depth a⦄, read depth j.node = .ok a → read depth j'.node = .ok a

/-- Whatever a field makes of an outline it makes of another. -/
def Field.Follows {σ : Type} (f : Field σ) (j j' : Outline) : Prop :=
  ∀ ⦃depth s t⦄, f.read depth j.node s = .ok t → f.read depth j'.node s = .ok t

namespace Record

variable {σ : Type} {r : Record σ} {m m' : List (Option String × Outline)} {name : String}
  {j j' : Outline} {f : Field σ}

/-- The members of an object can be rearranged. -/
theorem Loose.follows_perm (h : r.Loose) (hperm : m.Perm m') :
    r.decode.Follows (.object m) (.object m') := by
  intro depth t hread
  obtain ⟨hdepth, hcollects, hnodup⟩ := h.decode_iff.mp hread
  exact h.decode_iff.mpr
    ⟨hdepth, h.collects_perm hperm hnodup hcollects, (hperm.filterMap _).nodup hnodup⟩

/-- A member that is no field makes no difference. -/
theorem Loose.decode_cons_unknown_iff (h : r.Loose) (hf : r.field? name = none) {depth : Nat}
    {t : σ} : r.decode depth (Outline.object ((some name, j) :: m)).node = .ok t ↔
      r.decode depth (Outline.object m).node = .ok t := by
  rw [h.decode_iff, h.decode_iff, collects_unknown_iff hf, known_cons_unknown hf]

/-- A field at `null` makes no difference, but must not be there twice. -/
theorem Loose.decode_cons_null_iff (h : r.Loose) (hf : r.field? name = some f) {depth : Nat}
    {t : σ} : r.decode depth (Outline.object ((some name, .null) :: m)).node = .ok t ↔
      r.decode depth (Outline.object m).node = .ok t ∧ name ∉ r.known m := by
  rw [h.decode_iff, h.decode_iff, collects_field_iff hf, known_cons_field hf, List.nodup_cons,
    Outline.node, h.null f (field?_eq_some hf).1]
  simp only [Except.ok.injEq, exists_eq_left']
  tauto

/-- A field can get another value that is read as the first one was. -/
theorem Loose.follows_member (h : r.Loose) (hf : r.field? name = some f)
    (hfollows : f.Follows j j') :
    r.decode.Follows (.object ((some name, j) :: m)) (.object ((some name, j') :: m)) := by
  intro depth t hread
  obtain ⟨hdepth, hcollects, hnodup⟩ := h.decode_iff.mp hread
  obtain ⟨s', hread', rest⟩ := (collects_field_iff hf).mp hcollects
  rw [known_cons_field hf] at hnodup
  exact h.decode_iff.mpr ⟨hdepth, .field hf (hfollows hread') rest, by rwa [known_cons_field hf]⟩

theorem field?_isSome_iff : (r.field? name).isSome ↔ name ∈ r.fields.map Field.name := by
  simp [field?, List.find?_isSome]

theorem mem_known_iff : name ∈ r.known m ↔
    (∃ j, (some name, j) ∈ m) ∧ (r.field? name).isSome := by
  simp [known]

theorem follows_ofItems (hfollows : f.Follows j j') (after : List Outline) {depth : Nat} :
    ∀ {before left index fault s t}, left[before.length]? = some f →
      r.ofItems depth index left fault s (.ofOutlines (before ++ j :: after)) = .ok t →
      r.ofItems depth index left fault s (.ofOutlines (before ++ j' :: after)) = .ok t
  | [], [], _, _, _, _, hf, _ => by cases hf
  | _ :: _, [], _, _, _, _, hf, _ => by cases hf
  | [], g :: left, index, fault, s, t, hf, hread => by
    cases hf
    rw [List.nil_append, Items.ofOutlines, ofItems_item_iff] at hread ⊢
    obtain ⟨s', hread', rest⟩ := hread
    exact ⟨s', hfollows hread', rest⟩
  | b :: before, g :: left, index, fault, s, t, hf, hread => by
    rw [List.cons_append, Items.ofOutlines, ofItems_item_iff] at hread ⊢
    obtain ⟨s', hread', rest⟩ := hread
    have hmore (k : Outline) : (before ++ k :: after).isEmpty = false := by simp
    rw [hmore] at rest ⊢
    exact ⟨s', hread', follows_ofItems hfollows after hf rest⟩

/-- The value of a field can be replaced in an array of the fields as well. -/
theorem follows_array {before : List Outline} (hf : r.fields[before.length]? = some f)
    (hfollows : f.Follows j j') (after : List Outline) :
    r.decode.Follows (.array (before ++ j :: after)) (.array (before ++ j' :: after)) := by
  intro depth t hread
  rw [Outline.node, decode_array_iff] at hread ⊢
  exact ⟨hread.1, follows_ofItems hfollows after hf hread.2⟩

end Record

namespace Decoder

variable {α σ : Type} {read : Decoder α} {j j' : Outline}

theorem orElse_eq_ok_iff (hj : j ≠ .null) {default : α} {depth : Nat} {a : α} :
    orElse default read depth j.node = .ok a ↔ read depth j.node = .ok a := by
  cases j with
  | null => exact absurd rfl hj
  | bool | number | string | array | object =>
    simp [orElse, optional, Outline.node, map_eq_ok_iff]

theorem Follows.orElse (h : read.Follows j j') (hnull : j = .null ↔ j' = .null) (default : α) :
    (orElse default read).Follows j j' := by
  intro depth a hread
  by_cases hj : j = .null
  · rw [hnull.mp hj]
    rwa [hj] at hread
  · rw [orElse_eq_ok_iff hj] at hread
    exact (orElse_eq_ok_iff fun hj' => hj (hnull.mpr hj')).mpr (h hread)

theorem Follows.items (h : read.Follows j j') (after : List Outline) {depth : Nat} :
    ∀ {before index as}, items read depth index (.ofOutlines (before ++ j :: after)) = .ok as →
      items read depth index (.ofOutlines (before ++ j' :: after)) = .ok as
  | [], index, as, hread => by
    rw [List.nil_append, Items.ofOutlines, items_item_iff] at hread ⊢
    obtain ⟨a, more, hread', rest⟩ := hread
    exact ⟨a, more, h hread', rest⟩
  | b :: before, index, as, hread => by
    rw [List.cons_append, Items.ofOutlines, items_item_iff] at hread ⊢
    obtain ⟨a, more, hread', rest, hall⟩ := hread
    exact ⟨a, more, hread', h.items after rest, hall⟩

/-- An item of a list can be replaced by one that is read as it was. -/
theorem Follows.list (h : read.Follows j j') (before after : List Outline) :
    (list read).Follows (.array (before ++ j :: after)) (.array (before ++ j' :: after)) := by
  intro depth as hread
  rw [Outline.node, list_array_iff] at hread ⊢
  exact ⟨hread.1, h.items after hread.2⟩

theorem Follows.defaulted {default : α} (h : (Decoder.orElse default read).Follows j j')
    (name : String) (put : α → σ → σ) : (Field.defaulted name default read put).Follows j j' := by
  intro depth s t hread
  simp only [Field.defaulted, map_eq_ok_iff] at hread ⊢
  obtain ⟨a, hread', hput⟩ := hread
  exact ⟨a, h hread', hput⟩

end Decoder

end ImageBot.Json
