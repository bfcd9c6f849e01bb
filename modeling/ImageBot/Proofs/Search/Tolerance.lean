import ImageBot.Proofs.Json.Records
import ImageBot.Proofs.Relay.Stages
import ImageBot.Search.Result
/-!
# What an answer may look like

The parts of an answer may stand in any order, parts of other names may come or go, and so may
parts that are `null`. `Rewrites` says so for each of the four kinds of objects in an answer; no
number of such changes makes a difference to what is decoded.
-/
namespace ImageBot.Search

open Decimal Http Json Text

/-- The kinds of objects in an answer. -/
inductive Level
  | answer
  | information
  | item
  | image
  deriving Repr, DecidableEq

namespace Level

/-- The names of the parts of an object. -/
def names : Level → List String
  | answer => ["searchInformation", "items"]
  | information => ["totalResults"]
  | item => ["title", "htmlTitle", "link", "displayLink", "snippet", "htmlSnippet", "mime",
      "fileFormat", "image"]
  | image => ["contextLink", "height", "width", "byteSize", "thumbnailLink", "thumbnailHeight",
      "thumbnailWidth"]

/-- What an object is decoded into. -/
def Result : Level → Type
  | answer => Answer
  | information => Information
  | item => Item
  | image => Descriptor

/-- How an object is decoded. -/
def record : (level : Level) → Record level.Result
  | answer => answerRecord
  | information => informationRecord
  | item => itemRecord
  | image => descriptorRecord

end Level

/-- One object is made into another, in any number of steps. A part that comes or goes is the
first one; any other can be brought there. An item may also be an array of its parts, of which
the image is the ninth. -/
inductive Rewrites : Level → Outline → Outline → Prop
  | refl (level : Level) (j : Outline) : Rewrites level j j
  | trans {level : Level} {i j k : Outline} (h : Rewrites level i j) (h' : Rewrites level j k) :
    Rewrites level i k
  | permute (level : Level) {m m' : List (Option String × Outline)} (h : m.Perm m') :
    Rewrites level (.object m) (.object m')
  | addUnknown {level : Level} {name : String} (h : name ∉ level.names) (j : Outline)
    (m : List (Option String × Outline)) :
    Rewrites level (.object m) (.object ((some name, j) :: m))
  | dropUnknown {level : Level} {name : String} (h : name ∉ level.names) (j : Outline)
    (m : List (Option String × Outline)) :
    Rewrites level (.object ((some name, j) :: m)) (.object m)
  | addNull {level : Level} {name : String} {m : List (Option String × Outline)}
    (h : name ∈ level.names) (habsent : ∀ j, (some name, j) ∉ m) :
    Rewrites level (.object m) (.object ((some name, .null) :: m))
  | dropNull {level : Level} {name : String} (h : name ∈ level.names)
    (m : List (Option String × Outline)) :
    Rewrites level (.object ((some name, .null) :: m)) (.object m)
  | information {j j' : Outline} (h : Rewrites .information j j')
    (m : List (Option String × Outline)) :
    Rewrites .answer (.object ((some "searchInformation", j) :: m))
      (.object ((some "searchInformation", j') :: m))
  | item {j j' : Outline} (h : Rewrites .item j j') (before after : List Outline)
    (m : List (Option String × Outline)) :
    Rewrites .answer (.object ((some "items", .array (before ++ j :: after)) :: m))
      (.object ((some "items", .array (before ++ j' :: after)) :: m))
  | image {j j' : Outline} (h : Rewrites .image j j') (m : List (Option String × Outline)) :
    Rewrites .item (.object ((some "image", j) :: m)) (.object ((some "image", j') :: m))
  | ninth {j j' : Outline} (h : Rewrites .image j j') {before : List Outline}
    (hlength : before.length = 8) (after : List Outline) :
    Rewrites .item (.array (before ++ j :: after)) (.array (before ++ j' :: after))

/-! ### The records of an answer -/

/-- A number of results is no container. -/
theorem totalResults_array_ne_ok {depth start : Nat} {items : Items} {n : Int} :
    totalResults depth (.array start items) ≠ .ok n := by
  simp only [totalResults, Node.toValue]
  cases enter depth start with
  | error p => simp
  | ok inner =>
    dsimp only
    cases items.toValues inner <;> simp [Except.map]

theorem totalResults_object_ne_ok {depth start : Nat} {members : Members} {n : Int} :
    totalResults depth (.object start members) ≠ .ok n := by
  simp only [totalResults, Node.toValue]
  cases enter depth start with
  | error p => simp
  | ok inner =>
    dsimp only
    cases members.toValues inner <;> simp [Except.map]

theorem placeless_totalResults : totalResults.Placeless := by
  intro depth node j hj n
  cases Node.form hj with
  | null | bool => exact Iff.rfl
  | number reading stop =>
    cases reading with
    | error f => exact iff_of_false nofun nofun
    | ok number => exact Iff.rfl
  | string reading stop =>
    cases reading with
    | error f => exact iff_of_false nofun nofun
    | ok text => exact Iff.rfl
  | array start hl => exact iff_of_false totalResults_array_ne_ok totalResults_array_ne_ok
  | object start hm => exact iff_of_false totalResults_object_ne_ok totalResults_object_ne_ok

theorem placeless_textField {σ : Type} (name : String) (put : String → σ → σ) :
    (textField name put).Placeless :=
  Field.placeless_defaulted Decoder.placeless_string name "" put

theorem placeless_floatField {σ : Type} (name : String) (put : Binary64 → σ → σ) :
    (floatField name put).Placeless :=
  Field.placeless_defaulted Decoder.placeless_float name .zero put

theorem placeless_descriptorRecord : descriptorRecord.decode.Placeless := by
  apply Record.placeless_decode
  intro f hf
  simp only [descriptorRecord, List.mem_cons, List.not_mem_nil, or_false] at hf
  rcases hf with rfl | rfl | rfl | rfl | rfl | rfl | rfl
  case inr.inr.inr.inl =>
    exact Field.placeless_defaulted (Decoder.placeless_integer _ _ _) _ _ _
  all_goals first | exact placeless_textField _ _ | exact placeless_floatField _ _

theorem placeless_itemRecord : itemRecord.decode.Placeless := by
  apply Record.placeless_decode
  intro f hf
  simp only [itemRecord, List.mem_cons, List.not_mem_nil, or_false] at hf
  rcases hf with rfl | rfl | rfl | rfl | rfl | rfl | rfl | rfl | rfl
  case inr.inr.inr.inr.inr.inr.inr.inr =>
    exact Field.placeless_defaulted placeless_descriptorRecord _ _ _
  all_goals exact placeless_textField _ _

theorem placeless_informationRecord : informationRecord.decode.Placeless := by
  apply Record.placeless_decode
  intro f hf
  rw [List.mem_singleton.mp hf]
  intro depth node j hj s t
  simp only [map_eq_ok_iff, placeless_totalResults hj]

theorem placeless_answerRecord : answerRecord.decode.Placeless := by
  apply Record.placeless_decode
  intro f hf
  simp only [answerRecord, List.mem_cons, List.not_mem_nil, or_false] at hf
  rcases hf with rfl | rfl
  · exact Field.placeless_defaulted placeless_informationRecord _ _ _
  · exact Field.placeless_defaulted placeless_itemRecord.list _ _ _

theorem loose_descriptorRecord : descriptorRecord.Loose where
  optional := by decide
  null := by
    intro f hf depth
    simp only [descriptorRecord, List.mem_cons, List.not_mem_nil, or_false] at hf
    rcases hf with rfl | rfl | rfl | rfl | rfl | rfl | rfl <;> rfl
  commutes := by
    simp only [descriptorRecord, textField, floatField, List.pairwise_cons, List.forall_mem_cons]
    and_intros
    all_goals first
      | exact Field.commutes_defaulted fun _ _ _ => rfl
      | simp

theorem loose_itemRecord : itemRecord.Loose where
  optional := by decide
  null := by
    intro f hf depth
    simp only [itemRecord, List.mem_cons, List.not_mem_nil, or_false] at hf
    rcases hf with rfl | rfl | rfl | rfl | rfl | rfl | rfl | rfl | rfl <;> rfl
  commutes := by
    simp only [itemRecord, textField, List.pairwise_cons, List.forall_mem_cons]
    and_intros
    all_goals first
      | exact Field.commutes_defaulted fun _ _ _ => rfl
      | simp

theorem loose_informationRecord : informationRecord.Loose where
  optional := by decide
  null := by
    intro f hf depth
    rw [List.mem_singleton.mp hf]
    rfl
  commutes := List.pairwise_singleton _ _

theorem loose_answerRecord : answerRecord.Loose where
  optional := by decide
  null := by
    intro f hf depth
    simp only [answerRecord, List.mem_cons, List.not_mem_nil, or_false] at hf
    rcases hf with rfl | rfl <;> rfl
  commutes := by
    refine List.pairwise_pair.mpr ?_
    exact Field.commutes_defaulted fun _ _ _ => rfl

namespace Level

theorem loose_record (level : Level) : level.record.Loose := by
  cases level with
  | answer => exact loose_answerRecord
  | information => exact loose_informationRecord
  | item => exact loose_itemRecord
  | image => exact loose_descriptorRecord

theorem names_eq (level : Level) : level.names = level.record.fields.map Field.name := by
  cases level <;> rfl

theorem field?_eq_none {level : Level} {name : String} (h : name ∉ level.names) :
    level.record.field? name = none := by
  rw [names_eq, ← Record.field?_isSome_iff] at h
  exact Option.not_isSome_iff_eq_none.mp h

theorem exists_field?_eq {level : Level} {name : String} (h : name ∈ level.names) :
    ∃ f, level.record.field? name = some f := by
  rw [names_eq, ← Record.field?_isSome_iff] at h
  exact Option.isSome_iff_exists.mp h

end Level

/-! ### Answers that are rewritten -/

theorem Rewrites.null_iff {level : Level} {j j' : Outline} (h : Rewrites level j j') :
    j = .null ↔ j' = .null := by
  induction h with
  | refl => exact Iff.rfl
  | trans _ _ ih ih' => exact ih.trans ih'
  | permute | addUnknown | dropUnknown | addNull | dropNull => exact iff_of_false nofun nofun
  | information | item | image | ninth => exact iff_of_false nofun nofun

/-- What is decoded from an object is decoded from what it is made into. -/
theorem Rewrites.follows {level : Level} {j j' : Outline} (h : Rewrites level j j') :
    level.record.decode.Follows j j' := by
  induction h with
  | refl level j => exact fun _ _ hread => hread
  | trans _ _ ih ih' => exact fun _ _ hread => ih' (ih hread)
  | permute level h => exact level.loose_record.follows_perm h
  | @addUnknown level name h j m =>
    intro depth t
    exact (level.loose_record.decode_cons_unknown_iff (Level.field?_eq_none h)).mpr
  | @dropUnknown level name h j m =>
    intro depth t
    exact (level.loose_record.decode_cons_unknown_iff (Level.field?_eq_none h)).mp
  | @addNull level name m h habsent =>
    intro depth t hread
    obtain ⟨f, hf⟩ := Level.exists_field?_eq h
    refine (level.loose_record.decode_cons_null_iff hf).mpr ⟨hread, ?_⟩
    rw [Record.mem_known_iff]
    rintro ⟨⟨j, hj⟩, -⟩
    exact habsent j hj
  | @dropNull level name h m =>
    intro depth t hread
    obtain ⟨f, hf⟩ := Level.exists_field?_eq h
    exact ((level.loose_record.decode_cons_null_iff hf).mp hread).1
  | information h m ih =>
    exact loose_answerRecord.follows_member rfl ((ih.orElse h.null_iff _).defaulted _ _)
  | item h before after m ih =>
    refine loose_answerRecord.follows_member rfl (Decoder.Follows.defaulted ?_ _ _)
    exact (ih.list before after).orElse (iff_of_false nofun nofun) _
  | image h m ih =>
    exact loose_itemRecord.follows_member rfl ((ih.orElse h.null_iff _).defaulted _ _)
  | @ninth j j' h before hlength after ih =>
    have hninth : itemRecord.fields[before.length]? = some (.defaulted "image"
        descriptorRecord.empty descriptorRecord.decode fun a i => { i with image := a }) := by
      rw [hlength]
      rfl
    exact Record.follows_array hninth ((ih.orElse h.null_iff _).defaulted _ _) after

/-- A document is decoded as what it says, wherever the parts of it stand. -/
theorem Answer.decode_eq_ok_iff {document : List UInt8} {j : Outline}
    (hj : Document.Holds document j) {a : Answer} :
    Answer.decode document = .ok a ↔ answerRecord.decode 128 j.node = .ok a := by
  rw [Answer.decode, Json.decode_eq_ok_iff, placeless_answerRecord hj.1, hj.2]
  exact and_iff_left rfl

/-- **What an answer may look like.** An object from which an answer is decoded is a JSON text, and
every JSON text that it can be made into by bringing parts of its objects in another order, by
adding or dropping parts of unknown names, and by adding or dropping parts that are `null`, is
decoded to the same answer. So the same item is found in it, whatever the status is. -/
theorem Answer.decode_tolerant {document : List UInt8} {start : Nat} {members : Members}
    (hobject : (Document.parse document).root = .object start members) {a : Answer}
    (hdecode : Answer.decode document = .ok a) :
    ∃ m, Document.Holds document (.object m) ∧ ∀ j' document', Rewrites .answer (.object m) j' →
      Document.Holds document' j' → Answer.decode document' = .ok a ∧
        ∀ status headers headers',
          (∀ item, ImageSearch.firstResult ⟨status, headers, document⟩ = .ok item ↔
            ImageSearch.firstResult ⟨status, headers', document'⟩ = .ok item) ∧
          (status ≤ 200 → ImageSearch.firstResult ⟨status, headers, document⟩ =
            ImageSearch.firstResult ⟨status, headers', document'⟩) := by
  obtain ⟨m, hm⟩ := Record.exists_holds_of_decode hobject hdecode
  refine ⟨m, hm, ?_⟩
  intro j' document' hrewrites hj'
  have hread : answerRecord.decode 128 (Outline.object m).node = .ok a :=
    (Answer.decode_eq_ok_iff hm).mp hdecode
  have hdecode' : Answer.decode document' = .ok a :=
    (Answer.decode_eq_ok_iff hj').mpr (hrewrites.follows hread)
  refine ⟨hdecode', fun status headers headers' => ⟨?_, ?_⟩⟩
  · intro item
    simp only [ImageSearch.firstResult_eq_ok_iff, hdecode, hdecode']
  · intro hstatus
    simp only [ImageSearch.firstResult, if_neg (Nat.not_lt.mpr hstatus), hdecode, hdecode']

/-- A sparse answer in which parts of all kinds come and go. -/
theorem Answer.decode_tolerant_example :
    let item := Value.object [("mime", .null), ("link", .string "u")]
    let item' := Value.object [("link", .string "u"), ("image", .null), ("x", .bool true)]
    let document := Utf8.bytes (Value.object [("items", .array [item])]).write
    let document' := Utf8.bytes (Value.object [("kind", .array []), ("items", .array [item']),
      ("searchInformation", .null)]).write
    let answer : Answer := ⟨⟨0⟩, [{ itemRecord.empty with link := "u" }]⟩
    Answer.decode document = .ok answer ∧ Answer.decode document' = .ok answer := by
  intro item item' document document' answer
  have hholds : Document.Holds document _ := Document.holds_write (by simp [item, Value.Exact,
    MembersExact, ItemsExact])
  have hholds' : Document.Holds document' _ := Document.holds_write (by simp [item', Value.Exact,
    MembersExact, ItemsExact])
  have hitem : Rewrites .item (.object [(some "mime", .null), (some "link", .string (some "u"))])
      (.object [(some "link", .string (some "u")), (some "image", .null),
        (some "x", .bool true)]) :=
    .trans (.dropNull (by decide) _) <|
    .trans (.addNull (by decide) (by simp)) <|
    .trans (.addUnknown (by decide) (.bool true) _) <|
    .permute _ (List.reverse_perm _).symm
  have hsearch : "searchInformation" ∈ Level.answer.names := by decide
  have hkind : "kind" ∉ Level.answer.names := by decide
  have hrewrites := Rewrites.trans (.item hitem [] [] []) <|
    .trans (.addNull hsearch (by simp)) <|
    .trans (.addUnknown hkind (.array []) _) <|
    .permute _ (.cons _ (.swap _ _ _))
  obtain ⟨start, members, hobject⟩ := Node.eq_object_of_outline hholds.1
  have hdecode : Answer.decode document = .ok answer := toOption_eq_some_iff.mp (by decide +kernel)
  obtain ⟨m, hm, htolerant⟩ := Answer.decode_tolerant hobject hdecode
  have hsame : Outline.object m = _ := Option.some.inj (hm.1.symm.trans hholds.1)
  exact ⟨hdecode, (htolerant _ _ (hsame ▸ hrewrites) hholds').1⟩

end ImageBot.Search
