import ImageBot.Yaml.Decode
import Mathlib.Data.List.Nodup
/-!
# What a mapping tells of a record

A mapping is a list of entries by name, as far as a record is concerned. `Given` says what such a
list tells of one field, whatever else is in it. For a record that is made of independent parts,
what is decoded from a mapping is what the mapping tells of every part.
-/
namespace ImageBot.Yaml

/-! ### Entries by name -/

/-- The entries of a mapping by name, if it is told to its end and every key is a scalar. -/
def Entries.named? (anchors : Anchors) : Entries → Option (List (String × Node))
  | .closed => some []
  | .broken _ => none
  | .entry key value rest =>
    match key.resolve anchors, rest.named? anchors with
    | .scalar _ _ s, some l => some ((s.text, value) :: l)
    | _, _ => none

/-- A mapping with entries by name. Of the given names none is there twice, and what stands under
other names can be passed over. -/
structure Node.IsMapping (anchors : Anchors) (names : List String) (node : Node)
    (l : List (String × Node)) : Prop where
  entries : ∃ mark anchor entries, node.resolve anchors = .mapping mark anchor entries ∧
    entries.named? anchors = some l
  once : ((l.map Prod.fst).filter (· ∈ names)).Nodup
  others : ∀ name v, (name, v) ∈ l → name ∉ names → v.fault? = none

/-- A place where there is nothing. -/
def Node.IsNothing (anchors : Anchors) (node : Node) : Prop :=
  ∃ mark anchor s, node.resolve anchors = .scalar mark anchor s ∧ s.style = .plain ∧ s.text = ""

/-- What a node tells by the entries of a mapping. Nothing at all is a mapping without entries. -/
def Node.Tells (anchors : Anchors) (names : List String) (content : List (String × Node) → Prop)
    (node : Node) : Prop :=
  (∃ l, node.IsMapping anchors names l ∧ content l) ∨ node.IsNothing anchors ∧ content []

/-- What entries tell of a field: its value if it is there, and else that nothing is told. -/
def Given {α : Type} (means : Node → α → Prop) (l : List (String × Node)) (name : String)
    (otherwise a : α) : Prop :=
  (∀ v, (name, v) ∈ l → means v a) ∧ ((∀ v, (name, v) ∉ l) → a = otherwise)

/-- What a decoder takes a node for. -/
def Decoder.Reads {α : Type} (read : Decoder α) (anchors : Anchors) (v : Node) (a : α) : Prop :=
  read anchors v = .ok a

/-- A node that a decoder can read. -/
def Decoder.Takes {α : Type} (read : Decoder α) (anchors : Anchors) (v : Node) : Prop :=
  ∃ a, read.Reads anchors v a

/-- Entries that are of the right kind wherever they have one of some names. -/
def Suits (kinds : List (String × (Node → Prop))) (l : List (String × Node)) : Prop :=
  ∀ kind ∈ kinds, ∀ v, (kind.1, v) ∈ l → kind.2 v

/-- A mapping whose entries are of the right kind. -/
def Node.HasKinds (anchors : Anchors) (kinds : List (String × (Node → Prop))) (node : Node) :
    Prop :=
  node.Tells anchors (kinds.map Prod.fst) (Suits kinds)

section

variable {α : Type} {means : Node → α → Prop} {l : List (String × Node)} {name other : String}
  {v : Node} {otherwise a : α}

theorem given_nil_iff : Given means [] name otherwise a ↔ a = otherwise := by
  simp [Given]

theorem given_of_absent (h : ∀ v, (name, v) ∉ l) :
    Given means l name otherwise a ↔ a = otherwise :=
  ⟨fun htold => htold.2 h, fun ha => ⟨fun v hv => absurd hv (h v), fun _ => ha⟩⟩

/-- An entry of another name makes no difference. -/
theorem given_cons_of_ne (h : name ≠ other) :
    Given means ((other, v) :: l) name otherwise a ↔ Given means l name otherwise a := by
  simp [Given, h]

/-- The only entry of a name tells the value. -/
theorem given_cons_self (h : ∀ v, (name, v) ∉ l) :
    Given means ((name, v) :: l) name otherwise a ↔ means v a := by
  constructor
  · exact fun htold => htold.1 v List.mem_cons_self
  · intro hv
    refine ⟨?_, fun habsent => absurd List.mem_cons_self (habsent v)⟩
    intro w hw
    rcases List.mem_cons.mp hw with hw | hw
    · cases hw
      exact hv
    · exact absurd hw (h w)

/-- If an entry is there at most once and can be read, then something is told. -/
theorem exists_given (honce : ∀ v w, (name, v) ∈ l → (name, w) ∈ l → v = w)
    (h : ∀ v, (name, v) ∈ l → ∃ a, means v a) (otherwise : α) :
    ∃ a, Given means l name otherwise a := by
  by_cases hin : ∃ v, (name, v) ∈ l
  · obtain ⟨v, hv⟩ := hin
    obtain ⟨a, ha⟩ := h v hv
    refine ⟨a, ?_, fun habsent => absurd hv (habsent v)⟩
    intro w hw
    rwa [honce w v hw hv]
  · exact ⟨otherwise, (given_of_absent (not_exists.mp hin)).mpr rfl⟩

theorem Given.congr {means' : Node → α → Prop} (h : ∀ v, means v a ↔ means' v a) :
    Given means l name otherwise a ↔ Given means' l name otherwise a := by
  simp only [Given, h]

theorem Node.IsMapping.eq_of_name {anchors : Anchors} {names : List String} {node w : Node}
    (h : node.IsMapping anchors names l) (hname : name ∈ names) (hv : (name, v) ∈ l)
    (hw : (name, w) ∈ l) : v = w := by
  have hnodup : ((l.filter (·.1 ∈ names)).map Prod.fst).Nodup := by
    have honce := h.once
    rwa [List.filter_map] at honce
  have hmem {u : Node} (hu : (name, u) ∈ l) : (name, u) ∈ l.filter (·.1 ∈ names) :=
    List.mem_filter.mpr ⟨hu, by simpa using hname⟩
  have heq := List.inj_on_of_nodup_map hnodup (hmem hv) (hmem hw) rfl
  exact congrArg Prod.snd heq

/-- What a mapping tells it tells by its entries. -/
theorem Node.IsMapping.tells_iff {anchors : Anchors} {names : List String} {node : Node}
    {content : List (String × Node) → Prop} (h : node.IsMapping anchors names l) :
    node.Tells anchors names content ↔ content l := by
  obtain ⟨mark, anchor, entries, hres, hl⟩ := h.entries
  constructor
  · rintro (⟨l', ⟨⟨mark', anchor', entries', hres', hl'⟩, -, -⟩, hcontent⟩ |
      ⟨⟨mark', anchor', s, hres', -⟩, -⟩)
    · rw [hres] at hres'
      cases hres'
      cases hl.symm.trans hl'
      exact hcontent
    · rw [hres] at hres'
      cases hres'
  · exact fun hcontent => .inl ⟨l, h, hcontent⟩

theorem Node.Tells.congr {anchors : Anchors} {names : List String} {node : Node}
    {content content' : List (String × Node) → Prop} (h : ∀ l, content l ↔ content' l) :
    node.Tells anchors names content ↔ node.Tells anchors names content' := by
  simp only [Tells, h]

end

/-! ### Records that are made of parts -/

/-- A part of a record, how it is read, and how it is put into the record and got from it. -/
structure Piece (σ : Type) where
  {α : Type}
  name : String
  read : Decoder α
  put : α → σ → σ
  get : σ → α

/-- The field of a part. -/
def Piece.field {σ : Type} (p : Piece σ) : Field σ := .of p.name p.read p.put

/-- A record is made of parts that have different names, do not touch each other, and are all
there is to it. -/
structure Record.MadeOf {σ : Type} (r : Record σ) (parts : List (Piece σ)) : Prop where
  fields : r.fields = parts.map Piece.field
  nodup : (parts.map Piece.name).Nodup
  get_put : ∀ p ∈ parts, ∀ a s, p.get (p.put a s) = a
  get_put_of_ne : ∀ p ∈ parts, ∀ q ∈ parts, p.name ≠ q.name → ∀ a s, p.get (q.put a s) = p.get s
  ext : ∀ s t, (∀ p ∈ parts, p.get s = p.get t) → s = t

namespace Record

variable {σ : Type} {r : Record σ} {parts : List (Piece σ)} {anchors : Anchors} {seen : List String}
  {key v : Node} {rest : Entries} {name : String} {l : List (String × Node)} {s t : σ}

theorem named?_entry_iff : (Entries.entry key v rest).named? anchors = some l ↔
    ∃ name more, keyName anchors key = .ok name ∧ rest.named? anchors = some more ∧
      l = (name, v) :: more := by
  rw [Entries.named?, keyName]
  cases key.resolve anchors with
  | scalar mark anchor s => cases rest.named? anchors <;> simp [eq_comm]
  | _ => simp

theorem ofEntries_entry_iff : r.ofEntries anchors seen s (.entry key v rest) = .ok t ↔
    ∃ name, keyName anchors key = .ok name ∧
      ((r.field? name = none ∧ v.fault? = none ∧ r.ofEntries anchors seen s rest = .ok t) ∨
        ∃ f s', r.field? name = some f ∧ name ∉ seen ∧ f.read anchors v s = .ok s' ∧
          r.ofEntries anchors (name :: seen) s' rest = .ok t) := by
  rw [ofEntries]
  cases keyName anchors key with
  | error p => simp
  | ok name =>
    cases hf : r.field? name with
    | none => cases hv : v.fault? <;> simp [hf]
    | some f =>
      by_cases hseen : name ∈ seen
      · simp [hf, hseen]
      · cases hread : f.read anchors v s <;> simp [hf, hseen, hread]

theorem MadeOf.field?_eq_none_iff (h : r.MadeOf parts) :
    r.field? name = none ↔ name ∉ parts.map Piece.name := by
  simp [field?, h.fields, Piece.field, Field.of]

theorem MadeOf.eq_of_name (h : r.MadeOf parts) {p q : Piece σ} (hp : p ∈ parts) (hq : q ∈ parts)
    (hname : p.name = q.name) : p = q :=
  List.inj_on_of_nodup_map h.nodup hp hq hname

theorem MadeOf.field?_eq_some (h : r.MadeOf parts) {p : Piece σ} (hp : p ∈ parts) :
    r.field? p.name = some p.field := by
  cases hf : r.field? p.name with
  | none => exact absurd (List.mem_map_of_mem hp) (h.field?_eq_none_iff.mp hf)
  | some f =>
    have hmem := List.mem_of_find?_eq_some hf
    rw [h.fields] at hmem
    obtain ⟨q, hq, rfl⟩ := List.mem_map.mp hmem
    have hname : q.name = p.name := by simpa [Piece.field, Field.of] using List.find?_some hf
    rw [h.eq_of_name hq hp hname]

theorem read_field_iff {p : Piece σ} :
    p.field.read anchors v s = .ok t ↔ ∃ a, p.read anchors v = .ok a ∧ p.put a s = t := by
  simp only [Piece.field, Field.of]
  cases p.read anchors v <;> simp [Except.map]

/-- What entries make of a record, from `s` to `t`, if the fields that were `seen` may not come
again. -/
structure Fills (parts : List (Piece σ)) (anchors : Anchors) (seen : List String)
    (l : List (String × Node)) (s t : σ) : Prop where
  once : ((l.map Prod.fst).filter (· ∈ parts.map Piece.name)).Nodup
  fresh : ∀ name ∈ seen, name ∈ parts.map Piece.name → ∀ v, (name, v) ∉ l
  others : ∀ name v, (name, v) ∈ l → name ∉ parts.map Piece.name → v.fault? = none
  told : ∀ p ∈ parts, Given (p.read.Reads anchors) l p.name (p.get s) (p.get t)

theorem MadeOf.fills_nil_iff (h : r.MadeOf parts) : Fills parts anchors seen [] s t ↔ t = s := by
  constructor
  · exact fun hfills => h.ext t s fun p hp => given_nil_iff.mp (hfills.told p hp)
  · rintro rfl
    exact ⟨by simp, by simp, by simp, fun p _ => given_nil_iff.mpr rfl⟩

theorem fills_cons_unknown_iff (hname : name ∉ parts.map Piece.name) :
    Fills parts anchors seen ((name, v) :: l) s t ↔
      v.fault? = none ∧ Fills parts anchors seen l s t := by
  have hne : ∀ p ∈ parts, p.name ≠ name := fun p hp heq => hname (heq ▸ List.mem_map_of_mem hp)
  have hfilter : (((name, v) :: l).map Prod.fst).filter (· ∈ parts.map Piece.name) =
      (l.map Prod.fst).filter (· ∈ parts.map Piece.name) := by
    rw [List.map_cons, List.filter_cons_of_neg (by simpa using hname)]
  constructor
  · rintro ⟨honce, hfresh, hothers, htold⟩
    refine ⟨hothers name v List.mem_cons_self hname, hfilter ▸ honce, ?_, ?_, ?_⟩
    · exact fun n hn hmem w hw => hfresh n hn hmem w (List.mem_cons_of_mem _ hw)
    · exact fun n w hw => hothers n w (List.mem_cons_of_mem _ hw)
    · exact fun p hp => (given_cons_of_ne (hne p hp)).mp (htold p hp)
  · rintro ⟨hv, honce, hfresh, hothers, htold⟩
    refine ⟨hfilter ▸ honce, ?_, ?_, ?_⟩
    · intro n hn hmem w hw
      rcases List.mem_cons.mp hw with hw | hw
      · cases hw
        exact hname hmem
      · exact hfresh n hn hmem w hw
    · intro n w hw hn
      rcases List.mem_cons.mp hw with hw | hw
      · cases hw
        exact hv
      · exact hothers n w hw hn
    · exact fun p hp => (given_cons_of_ne (hne p hp)).mpr (htold p hp)

theorem MadeOf.fills_cons_part_iff (h : r.MadeOf parts) {p : Piece σ} (hp : p ∈ parts) :
    Fills parts anchors seen ((p.name, v) :: l) s t ↔ p.name ∉ seen ∧
      ∃ a, p.read anchors v = .ok a ∧ Fills parts anchors (p.name :: seen) l (p.put a s) t := by
  have hmem : p.name ∈ parts.map Piece.name := List.mem_map_of_mem hp
  have hfilter : (((p.name, v) :: l).map Prod.fst).filter (· ∈ parts.map Piece.name) =
      p.name :: (l.map Prod.fst).filter (· ∈ parts.map Piece.name) := by
    rw [List.map_cons, List.filter_cons_of_pos (by simpa using hmem)]
  constructor
  · rintro ⟨honce, hfresh, hothers, htold⟩
    rw [hfilter, List.nodup_cons] at honce
    have habsent : ∀ w, (p.name, w) ∉ l := by
      intro w hw
      exact honce.1 (List.mem_filter.mpr ⟨List.mem_map_of_mem hw, by simpa using hmem⟩)
    refine ⟨fun hseen => hfresh _ hseen hmem v List.mem_cons_self, p.get t,
      (given_cons_self habsent).mp (htold p hp), honce.2, ?_, ?_, ?_⟩
    · intro n hn hnames w hw
      rcases List.mem_cons.mp hn with rfl | hn
      · exact habsent w hw
      · exact hfresh n hn hnames w (List.mem_cons_of_mem _ hw)
    · exact fun n w hw => hothers n w (List.mem_cons_of_mem _ hw)
    · intro q hq
      by_cases hname : q.name = p.name
      · obtain rfl := h.eq_of_name hq hp hname
        rw [given_of_absent habsent, h.get_put q hq]
      · rw [h.get_put_of_ne q hq p hp hname]
        exact (given_cons_of_ne hname).mp (htold q hq)
  · rintro ⟨hseen, a, ha, honce, hfresh, hothers, htold⟩
    have habsent : ∀ w, (p.name, w) ∉ l := hfresh p.name List.mem_cons_self hmem
    refine ⟨?_, ?_, ?_, ?_⟩
    · rw [hfilter, List.nodup_cons]
      refine ⟨?_, honce⟩
      intro hin
      obtain ⟨⟨n, w⟩, hw, hn⟩ := List.mem_map.mp (List.mem_filter.mp hin).1
      obtain rfl : n = p.name := hn
      exact habsent w hw
    · intro n hn hnames w hw
      rcases List.mem_cons.mp hw with hw | hw
      · cases hw
        exact hseen hn
      · exact hfresh n (List.mem_cons_of_mem _ hn) hnames w hw
    · intro n w hw hn
      rcases List.mem_cons.mp hw with hw | hw
      · cases hw
        exact absurd hmem hn
      · exact hothers n w hw hn
    · intro q hq
      by_cases hname : q.name = p.name
      · obtain rfl := h.eq_of_name hq hp hname
        have hlast := (given_of_absent habsent).mp (htold q hq)
        rw [h.get_put q hq] at hlast
        rw [given_cons_self habsent, hlast]
        exact ha
      · rw [given_cons_of_ne hname, ← h.get_put_of_ne q hq p hp hname a s]
        exact htold q hq

/-- The first entry is passed over or read as a field. -/
theorem MadeOf.fills_cons_iff (h : r.MadeOf parts) :
    Fills parts anchors seen ((name, v) :: l) s t ↔
      (r.field? name = none ∧ v.fault? = none ∧ Fills parts anchors seen l s t) ∨
        ∃ f s', r.field? name = some f ∧ name ∉ seen ∧ f.read anchors v s = .ok s' ∧
          Fills parts anchors (name :: seen) l s' t := by
  by_cases hname : name ∈ parts.map Piece.name
  · obtain ⟨p, hp, rfl⟩ := List.mem_map.mp hname
    rw [h.fills_cons_part_iff hp]
    simp only [h.field?_eq_some hp, reduceCtorEq, false_and, false_or, Option.some.injEq,
      exists_and_left, exists_eq_left', read_field_iff]
    refine and_congr_right fun _ => ⟨?_, ?_⟩
    · rintro ⟨a, ha, hrest⟩
      exact ⟨_, ⟨a, ha, rfl⟩, hrest⟩
    · rintro ⟨_, ⟨a, ha, rfl⟩, hrest⟩
      exact ⟨a, ha, hrest⟩
  · have hf := h.field?_eq_none_iff.mpr hname
    simp [fills_cons_unknown_iff hname, hf]

/-- What is read from entries is what they make of the record. -/
theorem MadeOf.ofEntries_iff (h : r.MadeOf parts) : (entries : Entries) → ∀ {seen s},
    r.ofEntries anchors seen s entries = .ok t ↔
      ∃ l, entries.named? anchors = some l ∧ Fills parts anchors seen l s t
  | .closed, seen, s => by
    simp [ofEntries, Entries.named?, h.fills_nil_iff, eq_comm]
  | .broken f, seen, s => by simp [ofEntries, Entries.named?]
  | .entry key v rest, seen, s => by
    simp only [ofEntries_entry_iff, named?_entry_iff, h.ofEntries_iff rest]
    constructor
    · rintro ⟨name, hname, ⟨hf, hv, l, hl, hfills⟩ | ⟨f, s', hf, hseen, hread, l, hl, hfills⟩⟩
      · exact ⟨_, ⟨name, l, hname, hl, rfl⟩, h.fills_cons_iff.mpr (.inl ⟨hf, hv, hfills⟩)⟩
      · exact ⟨_, ⟨name, l, hname, hl, rfl⟩,
          h.fills_cons_iff.mpr (.inr ⟨f, s', hf, hseen, hread, hfills⟩)⟩
    · rintro ⟨_, ⟨name, l, hname, hl, rfl⟩, hfills⟩
      refine ⟨name, hname, ?_⟩
      rcases h.fills_cons_iff.mp hfills with ⟨hf, hv, hrest⟩ | ⟨f, s', hf, hseen, hread, hrest⟩
      · exact .inl ⟨hf, hv, l, hl, hrest⟩
      · exact .inr ⟨f, s', hf, hseen, hread, l, hl, hrest⟩

/-- If every part can have some value of a property, then all parts of a record can. -/
theorem MadeOf.exists_forall_get (h : r.MadeOf parts) {P : (p : Piece σ) → p.α → Prop} (s : σ) :
    (ps : List (Piece σ)) → ps ⊆ parts → (∀ p ∈ ps, ∃ a, P p a) → ∃ t, ∀ p ∈ ps, P p (p.get t)
  | [], _, _ => ⟨s, by simp⟩
  | p :: ps, hsub, hP => by
    obtain ⟨hp, hps⟩ := List.cons_subset.mp hsub
    obtain ⟨a, ha⟩ := hP p List.mem_cons_self
    obtain ⟨t, ht⟩ := h.exists_forall_get s ps hps fun q hq => hP q (List.mem_cons_of_mem _ hq)
    refine ⟨p.put a t, ?_⟩
    have hself : P p (p.get (p.put a t)) := by rwa [h.get_put p hp]
    intro q hq
    rcases List.mem_cons.mp hq with rfl | hq
    · exact hself
    · by_cases hname : q.name = p.name
      · rwa [h.eq_of_name (hps hq) hp hname]
      · rw [h.get_put_of_ne q (hps hq) p hp hname]
        exact ht q hq

theorem decode_eq_ok_iff {node : Node} : r.decode anchors node = .ok t ↔
    (∃ mark anchor entries, node.resolve anchors = .mapping mark anchor entries ∧
      r.ofEntries anchors [] r.empty entries = .ok t) ∨
    node.IsNothing anchors ∧ t = r.empty := by
  rw [decode, Node.IsNothing]
  cases node.resolve anchors with
  | mapping mark anchor entries =>
    cases hread : r.ofEntries anchors [] r.empty entries <;> simp [hread]
  | scalar mark anchor s =>
    by_cases hs : s.style = .plain ∧ s.text = ""
    · simp [hs, eq_comm (a := t)]
    · simp [hs]
  | _ => simp

/-- **What is decoded as a record.** It is what the node tells of each part of the record. -/
theorem MadeOf.decode_iff (h : r.MadeOf parts) {node : Node} :
    r.decode anchors node = .ok t ↔ node.Tells anchors (parts.map Piece.name) fun l =>
      ∀ p ∈ parts, Given (p.read.Reads anchors) l p.name (p.get r.empty) (p.get t) := by
  have hempty : (∀ p ∈ parts, Given (p.read.Reads anchors) [] p.name (p.get r.empty) (p.get t)) ↔
      t = r.empty := by
    simp only [given_nil_iff]
    exact ⟨h.ext t r.empty, fun ht p _ => by rw [ht]⟩
  rw [Node.Tells, hempty, decode_eq_ok_iff]
  refine or_congr ?_ Iff.rfl
  constructor
  · rintro ⟨mark, anchor, entries, hres, hread⟩
    obtain ⟨l, hl, hfills⟩ := (h.ofEntries_iff entries).mp hread
    exact ⟨l, ⟨⟨mark, anchor, entries, hres, hl⟩, hfills.once, hfills.others⟩, hfills.told⟩
  · rintro ⟨l, ⟨⟨mark, anchor, entries, hres, hl⟩, honce, hothers⟩, htold⟩
    exact ⟨mark, anchor, entries, hres,
      (h.ofEntries_iff entries).mpr ⟨l, hl, honce, by simp, hothers, htold⟩⟩

/-- What can be decoded as a record: the entries of its parts are all that matters. -/
theorem MadeOf.takes_iff (h : r.MadeOf parts) {node : Node} : r.decode.Takes anchors node ↔
    node.HasKinds anchors (parts.map fun p => (p.name, p.read.Takes anchors)) := by
  have hnames : (parts.map fun p => (p.name, p.read.Takes anchors)).map Prod.fst =
      parts.map Piece.name := by rw [List.map_map]; rfl
  have hsuits (l : List (String × Node)) :
      Suits (parts.map fun p => (p.name, p.read.Takes anchors)) l ↔
        ∀ p ∈ parts, ∀ v, (p.name, v) ∈ l → p.read.Takes anchors v := List.forall_mem_map
  rw [Node.HasKinds, hnames, Node.Tells.congr hsuits]
  constructor
  · rintro ⟨t, ht⟩
    rcases h.decode_iff.mp ht with ⟨l, hl, htold⟩ | ⟨hnothing, -⟩
    · exact .inl ⟨l, hl, fun p hp v hv => ⟨_, (htold p hp).1 v hv⟩⟩
    · exact .inr ⟨hnothing, by simp⟩
  · rintro (⟨l, hl, htakes⟩ | ⟨hnothing, -⟩)
    · obtain ⟨t, ht⟩ := h.exists_forall_get r.empty parts (List.Subset.refl _) fun p hp =>
        exists_given (fun v w => hl.eq_of_name (List.mem_map_of_mem hp)) (htakes p hp)
          (p.get r.empty)
      exact ⟨t, h.decode_iff.mpr (.inl ⟨l, hl, ht⟩)⟩
    · exact ⟨r.empty, h.decode_iff.mpr (.inr ⟨hnothing, fun p _ => given_nil_iff.mpr rfl⟩)⟩

end Record

end ImageBot.Yaml
