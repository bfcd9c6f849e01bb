import ImageBot.Http.Reply
import ImageBot.Proofs.Json.Sorting
import ImageBot.Proofs.Text.Utf8
import Mathlib.Data.List.Nodup
/-!
# Headers that are received

Of the headers received under one name, in any letter case, a response has the last one whose value
can be shown. So a name is found in it exactly if there is such a header, unless it is about the
coding of a body that was decoded.
-/
namespace ImageBot.Http

open Text

variable {received : List (String × List UInt8)} {name text : String} {value : List UInt8}

/-- A byte that may be shown is an ASCII character that can be sent. -/
theorem isVisible_spec {b : UInt8} (h : isVisible b) : (Char.ofNat b.toNat).toNat < 0x80 ∧
    (Char.ofNat b.toNat).toNat.toUInt8 = b ∧ (b == 0x09 || (0x20 ≤ b && b != 0x7F)) := by
  have hall : ∀ n < 0x80, isVisible (UInt8.ofNat n) → (Char.ofNat n).toNat < 0x80 ∧
      (Char.ofNat n).toNat.toUInt8 = UInt8.ofNat n ∧
      (UInt8.ofNat n == 0x09 || (0x20 ≤ UInt8.ofNat n && UInt8.ofNat n != 0x7F)) := by decide
  have hlt : b.toNat < 0x80 := by
    simp only [isVisible, Bool.or_eq_true, Bool.and_eq_true, decide_eq_true_eq, beq_iff_eq,
      UInt8.le_iff_toNat_le, UInt8.lt_iff_toNat_lt, ← UInt8.toNat_inj, UInt8.reduceToNat] at h
    omega
  have hb := hall b.toNat hlt
  rw [UInt8.ofNat_toNat] at hb
  exact hb h

/-- A header value is shown as the text of which it is the bytes. -/
theorem headerText?_eq_some_iff :
    headerText? value = some text ↔ (∀ b ∈ value, isVisible b) ∧ Utf8.bytes text = value := by
  have hbytes (hvisible : ∀ b ∈ value, isVisible b) :
      Utf8.bytes (String.ofList (value.map fun b => Char.ofNat b.toNat)) = value := by
    rw [Utf8.bytes, String.toList_ofList, Utf8.encode_ascii, List.map_map]
    · exact (List.map_congr_left fun b hb => (isVisible_spec (hvisible b hb)).2.1).trans
        (List.map_id _)
    · intro c hc
      obtain ⟨b, hb, rfl⟩ := List.mem_map.mp hc
      exact (isVisible_spec (hvisible b hb)).1
  rw [headerText?]
  by_cases hall : ∀ b ∈ value, isVisible b
  · rw [if_pos (List.all_eq_true.mpr hall), Option.some.injEq]
    constructor
    · rintro rfl
      exact ⟨hall, hbytes hall⟩
    · rintro ⟨-, htext⟩
      exact Utf8.bytes_injective ((hbytes hall).trans htext.symm)
  · rw [if_neg (mt List.all_eq_true.mp hall)]
    exact iff_of_false (by simp) fun h => hall h.1

theorem headerText?_eq_none_iff : headerText? value = none ↔ ∃ b ∈ value, ¬isVisible b := by
  simp [headerText?]

theorem lookup_putHeader (name value : String) (kept : List (String × String)) (k : String) :
    (putHeader name value kept).lookup k = if k = name then some value else kept.lookup k := by
  induction kept with
  | nil => by_cases hk : k = name <;> simp [putHeader, hk, List.lookup_cons, beq_eq_decide]
  | cons first kept ih =>
    obtain ⟨other, v⟩ := first
    rw [putHeader]
    by_cases hother : other = name
    · subst hother
      by_cases hk : k = other <;> simp [hk, List.lookup_cons, beq_eq_decide]
    · by_cases hk : k = other
      · have hname : k ≠ name := hk ▸ hother
        simp [hother, hk]
      · simp [hother, hk, List.lookup_cons, beq_eq_decide, ih]

/-- Only a name that is not there yet is added, at the end. -/
theorem names_putHeader (name value : String) (kept : List (String × String)) :
    (putHeader name value kept).map Prod.fst =
      if name ∈ kept.map Prod.fst then kept.map Prod.fst else kept.map Prod.fst ++ [name] := by
  induction kept with
  | nil => simp [putHeader]
  | cons first kept ih =>
    obtain ⟨other, v⟩ := first
    by_cases hother : other = name
    · simp [putHeader, hother]
    · simp only [putHeader, hother, if_false, List.map_cons, ih, List.mem_cons, Ne.symm hother,
        false_or]
      split <;> rfl

theorem nodup_names_putHeader (name value : String) {kept : List (String × String)}
    (h : (kept.map Prod.fst).Nodup) : ((putHeader name value kept).map Prod.fst).Nodup := by
  rw [names_putHeader]
  split
  · exact h
  · next hfresh =>
    rw [← List.concat_eq_append]
    exact List.Nodup.concat hfresh h

/-- What a header shows under a name. -/
def shown? (name : String) (header : String × List UInt8) : Option String :=
  if lower header.1 = name then headerText? header.2 else none

/-- The headers that are kept once another one is received. -/
def keepShown (kept : List (String × String)) (header : String × List UInt8) :
    List (String × String) :=
  (headerText? header.2).elim kept fun text => putHeader (lower header.1) text kept

theorem collectHeaders_eq (received : List (String × List UInt8)) :
    collectHeaders received = received.foldl keepShown [] := by
  rw [collectHeaders]
  congr
  funext kept (name, value)
  dsimp only [keepShown]
  cases headerText? value <;> rfl

/-- A response has each name once. -/
theorem nodup_names_collectHeaders (received : List (String × List UInt8)) :
    ((collectHeaders received).map Prod.fst).Nodup := by
  rw [collectHeaders_eq]
  refine List.foldlRecOn (motive := fun (kept : List (String × String)) =>
    (kept.map Prod.fst).Nodup) received keepShown List.nodup_nil ?_
  intro kept hkept header _
  rw [keepShown]
  cases headerText? header.2 with
  | none => exact hkept
  | some text => exact nodup_names_putHeader _ _ hkept

theorem lookup_keepShown (kept : List (String × String)) (header : String × List UInt8)
    (name : String) : (keepShown kept header).lookup name =
      (shown? name header).or (kept.lookup name) := by
  rw [keepShown, shown?]
  cases headerText? header.2 with
  | none => simp
  | some text =>
    by_cases hname : lower header.1 = name
    · simp [lookup_putHeader, hname]
    · simp [lookup_putHeader, hname, Ne.symm hname]

/-- What is kept under a name is what the last header shows that shows something. -/
theorem lookup_collectHeaders (received : List (String × List UInt8)) (name : String) :
    (collectHeaders received).lookup name = received.reverse.findSome? (shown? name) := by
  have hfold (kept : List (String × String)) : (received.foldl keepShown kept).lookup name =
      (received.reverse.findSome? (shown? name)).or (kept.lookup name) := by
    induction received generalizing kept with
    | nil => simp
    | cons header rest ih =>
      rw [List.foldl_cons, ih, lookup_keepShown, List.reverse_cons, List.findSome?_append,
        Option.or_assoc]
      simp
  rw [collectHeaders_eq, hfold, List.lookup_nil, Option.or_none]

/-- The last header under a name whose value can be shown has this text. -/
inductive LastShown (name text : String) : List (String × List UInt8) → Prop
  | intro {before after : List (String × List UInt8)} {header : String × List UInt8}
    (hname : lower header.1 = name) (hvisible : ∀ b ∈ header.2, isVisible b)
    (htext : Utf8.bytes text = header.2)
    (hafter : ∀ h ∈ after, lower h.1 = name → ∃ b ∈ h.2, ¬isVisible b) :
    LastShown name text (before ++ header :: after)

theorem shown?_eq_some_iff {header : String × List UInt8} : shown? name header = some text ↔
    lower header.1 = name ∧ (∀ b ∈ header.2, isVisible b) ∧ Utf8.bytes text = header.2 := by
  rw [shown?, ← headerText?_eq_some_iff]
  split <;> simp [*]

theorem shown?_eq_none_iff {header : String × List UInt8} : shown? name header = none ↔
    (lower header.1 = name → ∃ b ∈ header.2, ¬isVisible b) := by
  rw [shown?, ← headerText?_eq_none_iff]
  split <;> simp [*]

/-- **A response has the last header of each name that can be shown.** -/
theorem lookup_collectHeaders_eq_some_iff :
    (collectHeaders received).lookup name = some text ↔ LastShown name text received := by
  rw [lookup_collectHeaders, List.findSome?_eq_some_iff]
  constructor
  · rintro ⟨after, header, before, hreverse, hshown, hafter⟩
    have hreceived : received = before.reverse ++ header :: after.reverse := by
      rw [← List.reverse_reverse received, hreverse]
      simp
    obtain ⟨hname, hvisible, htext⟩ := shown?_eq_some_iff.mp hshown
    rw [hreceived]
    refine .intro hname hvisible htext fun h hh => ?_
    exact shown?_eq_none_iff.mp (hafter h (List.mem_reverse.mp hh))
  · rintro ⟨hname, hvisible, htext, hafter⟩
    rename_i before after header
    refine ⟨after.reverse, header, before.reverse, by simp,
      shown?_eq_some_iff.mpr ⟨hname, hvisible, htext⟩, fun h hh => ?_⟩
    exact shown?_eq_none_iff.mpr (hafter h (List.mem_reverse.mp hh))

/-- A response has no header of a name exactly if none can be shown. -/
theorem lookup_collectHeaders_eq_none_iff : (collectHeaders received).lookup name = none ↔
    ∀ h ∈ received, lower h.1 = name → ∃ b ∈ h.2, ¬isVisible b := by
  simp only [lookup_collectHeaders, List.findSome?_eq_none_iff, List.mem_reverse,
    shown?_eq_none_iff]

/-- A response has a header exactly if it is the last one of its name that can be shown. -/
theorem mem_collectHeaders_iff :
    (name, text) ∈ collectHeaders received ↔ LastShown name text received := by
  rw [← Json.Value.lookup_eq_some_iff_mem (nodup_names_collectHeaders received),
    lookup_collectHeaders_eq_some_iff]

/-- A response lacks a name exactly if no header of this name can be shown. -/
theorem not_mem_names_collectHeaders_iff : name ∉ (collectHeaders received).map Prod.fst ↔
    ∀ h ∈ received, lower h.1 = name → ∃ b ∈ h.2, ¬isVisible b := by
  rw [← lookup_collectHeaders_eq_none_iff, List.lookup_eq_none_iff, List.mem_map, not_exists]
  refine forall_congr' fun header => ?_
  rw [not_and, bne_iff_ne, ne_comm]

/-! ### Headers about the coding of a body -/

/-- A name stands for the coding of a body that was decoded, and of which the headers tell it no
more. -/
def TellsCoding (received : List (String × List UInt8)) (name : String) : Prop :=
  isCoded received ∧ (name = "content-encoding" ∨ name = "content-length")

/-- What is passed on shows what was received, but for the coding of a body that was decoded. -/
theorem lookup_collectHeaders_passed_of_not (h : ¬TellsCoding received name) :
    (collectHeaders (passed received)).lookup name = (collectHeaders received).lookup name := by
  rw [passed]
  split
  · next hcoded =>
    have hname : name ≠ "content-encoding" ∧ name ≠ "content-length" :=
      not_or.mp fun hname => h ⟨hcoded, hname⟩
    have hdropped : ∀ header, (if lower header.1 != "content-encoding" &&
        lower header.1 != "content-length" then shown? name header else none) =
          shown? name header := by
      intro header
      by_cases hheader : lower header.1 = name
      · simp [hheader, hname]
      · simp [shown?, hheader]
    rw [lookup_collectHeaders, lookup_collectHeaders, withoutCoding, ← List.filter_reverse,
      ← List.head?_filterMap, ← List.head?_filterMap, List.filterMap_filter, funext hdropped]
  · rfl

theorem lookup_collectHeaders_passed_of_tellsCoding (h : TellsCoding received name) :
    (collectHeaders (passed received)).lookup name = none := by
  obtain ⟨hcoded, hname⟩ := h
  rw [passed, if_pos hcoded, lookup_collectHeaders_eq_none_iff]
  intro header hheader hlower
  rw [withoutCoding, List.mem_filter, hlower] at hheader
  rcases hname with rfl | rfl <;> simp at hheader

/-- A response has a header exactly if it is the last one of its name that can be shown, and not
about the coding of a body that was decoded. -/
theorem mem_collectHeaders_passed_iff : (name, text) ∈ collectHeaders (passed received) ↔
    LastShown name text received ∧ ¬TellsCoding received name := by
  rw [← Json.Value.lookup_eq_some_iff_mem (nodup_names_collectHeaders _),
    ← lookup_collectHeaders_eq_some_iff]
  by_cases h : TellsCoding received name
  · simp [lookup_collectHeaders_passed_of_tellsCoding h, h]
  · simp [lookup_collectHeaders_passed_of_not h, h]

/-- The type of a body does not stand for its coding. -/
theorem lookup_contentType_passed (received : List (String × List UInt8)) :
    (collectHeaders (passed received)).lookup "content-type" =
      (collectHeaders received).lookup "content-type" :=
  lookup_collectHeaders_passed_of_not fun h => absurd h.2 (by decide)

end ImageBot.Http
