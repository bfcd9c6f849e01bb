import ImageBot.Proofs.Json.Slots
import ImageBot.Proofs.Search.Tolerance
/-!
# The number of results

How many results a search has is told by an integer or by its text. What counts is how a number is
written, not its value: a fraction or an exponent makes it unfit even where the value is whole. One
unfit value there makes the whole answer unfit.
-/
namespace ImageBot.Search

open Decimal Json Text

/-- An integer of 64 bits. -/
def IsInt64 (n : Int) : Prop := -(2 ^ 63) ≤ n ∧ n ≤ 2 ^ 63 - 1

/-- A value in a document tells a number of results: as an integer of 64 bits or as the text of
one, with nothing for zero. -/
inductive TellsTotal (document : List UInt8) : Node → Int → Prop
  | null (stop : Nat) : TellsTotal document (.null stop) 0
  | number {reading : Reading Number} {stop : Nat} {n : Int}
    (hwrites : WritesInt (numberAt document stop) n) (hn : IsInt64 n) :
    TellsTotal document (.number reading stop) n
  | empty (stop : Nat) : TellsTotal document (.string (.ok "") stop) 0
  | text {s : String} {stop : Nat} {n : Int} (hdenotes : DenotesInt s.toList n) (hn : IsInt64 n) :
    TellsTotal document (.string (.ok s) stop) n

section

variable {document : List UInt8} {v : Node} {reading : Reading Number} {s : String}
  {depth stop : Nat} {n : Int}

theorem tellsTotal_number_iff : TellsTotal document (.number reading stop) n ↔
    WritesInt (numberAt document stop) n ∧ IsInt64 n := by
  constructor
  · rintro (_ | ⟨hwrites, hn⟩)
    exact ⟨hwrites, hn⟩
  · rintro ⟨hwrites, hn⟩
    exact .number hwrites hn

theorem tellsTotal_text_iff : TellsTotal document (.string (.ok s) stop) n ↔
    s = "" ∧ n = 0 ∨ DenotesInt s.toList n ∧ IsInt64 n := by
  constructor
  · rintro (_ | _ | _ | ⟨hdenotes, hn⟩)
    · exact .inl ⟨rfl, rfl⟩
    · exact .inr ⟨hdenotes, hn⟩
  · rintro (⟨rfl, rfl⟩ | ⟨hdenotes, hn⟩)
    · exact .empty stop
    · exact .text hdenotes hn

theorem totalOfText_eq_ok_iff :
    totalOfText s = .ok n ↔ s = "" ∧ n = 0 ∨ DenotesInt s.toList n ∧ IsInt64 n := by
  rw [totalOfText]
  by_cases hs : s = ""
  · subst hs
    rw [if_pos (by decide), Except.ok.injEq, or_iff_left fun h => not_denotesInt_nil h.1,
      and_iff_right rfl, eq_comm]
  · have hread : readInt 64 s.toList = .ok n ↔ DenotesInt s.toList n ∧ IsInt64 n :=
      readInt_eq_ok_iff
    rw [if_neg (by simpa using hs), or_iff_right fun h => hs h.1, ← hread]
    cases readInt 64 s.toList <;> simp

theorem totalResults_number_iff : totalResults depth (.number reading stop) = .ok n ↔
    reading = .ok (.int n) ∧ n < 2 ^ 63 := by
  rcases reading with f | m | x
  · exact iff_of_false (by rintro ⟨⟩) (by rintro ⟨⟨⟩, -⟩)
  · have hread : totalResults depth (.number (.ok (.int m)) stop) =
        if m < 2 ^ 63 then .ok m else .error totalResults.noVariant := rfl
    rw [hread, ite_eq_iff]
    simp only [Except.ok.injEq, Number.int.injEq, reduceCtorEq, and_false, or_false]
    constructor
    · rintro ⟨hm, rfl⟩
      exact ⟨rfl, hm⟩
    · rintro ⟨rfl, hm⟩
      exact ⟨hm, rfl⟩
  · exact iff_of_false (by rintro ⟨⟩) (by rintro ⟨⟨⟩, -⟩)

/-- What is read as a number of results is what a value tells. -/
theorem totalResults_eq_ok_iff (hv : v.Spelled document) :
    totalResults depth v = .ok n ↔ TellsTotal document v n := by
  cases v with
  | null stop =>
    constructor
    · intro h
      cases h
      exact .null stop
    · rintro ⟨⟩
      rfl
  | bool b stop => exact iff_of_false (by rintro ⟨⟩) (by rintro ⟨⟩)
  | number reading stop =>
    have hint (m : Int) : reading = .ok (.int m) ↔ WritesInt (numberAt document stop) m ∧
        Number.Fits m := Number.Spells.integer hv m
    rw [totalResults_number_iff, hint, tellsTotal_number_iff, and_assoc, IsInt64, Number.Fits]
    refine and_congr_right fun _ => ?_
    omega
  | string reading stop =>
    cases reading with
    | error f => exact iff_of_false (by rintro ⟨⟩) (by rintro ⟨⟩)
    | ok s =>
      rw [tellsTotal_text_iff, ← totalOfText_eq_ok_iff]
      exact Iff.rfl
  | array start items =>
    exact iff_of_false totalResults_array_ne_ok (by rintro ⟨⟩)
  | object start members => exact iff_of_false totalResults_object_ne_ok (by rintro ⟨⟩)
  | broken f => exact iff_of_false (by rintro ⟨⟩) (by rintro ⟨⟩)

end

/-! ### Answers with a number of results left open -/

theorem informationRecord_first : ∃ f, f.name = "totalResults" ∧
    informationRecord.First f totalResults fun n i => { i with totalResults := n } :=
  ⟨_, rfl, ⟨[], rfl, by simp⟩, fun _ _ _ => rfl, fun _ _ _ => rfl⟩

theorem answerRecord_first : ∃ f, f.name = "searchInformation" ∧
    answerRecord.First f (.orElse informationRecord.empty informationRecord.decode)
      fun i a => { a with information := i } := by
  refine ⟨_, rfl, ⟨_, rfl, ?_⟩, fun _ _ _ => rfl, fun _ _ _ => rfl⟩
  intro g hg depth v i a
  rw [List.mem_singleton.mp hg]
  simp only [Field.defaulted]
  cases Decoder.orElse [] (.list itemRecord.decode) depth v <;> rfl

variable {document : List UInt8} {outer inner : Node → Node} {v w : Node} {a b : Answer}

/-- What a value makes of an answer that can be decoded with some other value. -/
theorem Answer.decode_slots_iff (houter : Node.Slot "searchInformation" outer)
    (hinner : Node.Slot "totalResults" inner)
    (hw : answerRecord.decode 128 (outer (inner w)) = .ok a) :
    answerRecord.decode 128 (outer (inner v)) = .ok b ↔
      ∃ n, totalResults 126 v = .ok n ∧ b = { a with information := ⟨n⟩ } := by
  obtain ⟨f, hf, hanswer⟩ := answerRecord_first
  obtain ⟨g, hg, hinformation⟩ := informationRecord_first
  rw [← hf] at houter
  rw [← hg] at hinner
  obtain ⟨i, hi, -⟩ := (hanswer.decode_slot houter hw).mp hw
  rw [hinner.orElse] at hi
  simp only [hanswer.decode_slot houter hw, hinner.orElse, hinformation.decode_slot hinner hi]
  constructor
  · rintro ⟨_, ⟨n, hn, rfl⟩, rfl⟩
    exact ⟨n, hn, rfl⟩
  · rintro ⟨n, hn, rfl⟩
    exact ⟨_, ⟨n, hn, rfl⟩, rfl⟩

/-- **Which numbers of results are accepted.** Take an answer that can be decoded with `null` for
its number of results. With another value there it can be decoded exactly if the value tells a
number, which is then all that differs; with any other value a search fails for want of an answer,
if the status does not make it fail before. An integer tells the same as its text. -/
theorem Answer.decode_total (houter : Node.Slot "searchInformation" outer)
    (hinner : Node.Slot "totalResults" inner)
    (hroot : (Document.parse document).root = outer (inner v))
    (htrailing : (Document.parse document).trailing = none)
    (hothers : answerRecord.decode 128 (outer (inner (.null 0))) = .ok a) :
    (∀ b, Answer.decode document = .ok b ↔
      ∃ n, TellsTotal document v n ∧ b = { a with information := ⟨n⟩ }) ∧
    ((∀ n, ¬TellsTotal document v n) → ∀ status headers, status ≤ 200 →
      ∃ e, ImageSearch.firstResult ⟨status, headers, document⟩ = .error (.decode e)) ∧
    ∀ n, IsInt64 n →
      (∀ reading stop, v = .number reading stop →
        numberAt document stop = Utf8.bytes (toString n) →
          Answer.decode document = .ok { a with information := ⟨n⟩ }) ∧
      ∀ stop, v = .string (.ok (toString n)) stop →
        Answer.decode document = .ok { a with information := ⟨n⟩ } := by
  have hspelled : v.Spelled document := by
    have hdocument := Document.spelled document
    rw [hroot] at hdocument
    exact hinner.spelled (houter.spelled hdocument)
  have hdecode (b : Answer) : Answer.decode document = .ok b ↔
      ∃ n, TellsTotal document v n ∧ b = { a with information := ⟨n⟩ } := by
    rw [Answer.decode, Json.decode_eq_ok_iff, hroot, htrailing, and_iff_left rfl,
      Answer.decode_slots_iff houter hinner hothers]
    simp only [totalResults_eq_ok_iff hspelled]
  refine ⟨hdecode, ?_, ?_⟩
  · intro hnone status headers hstatus
    cases hread : Answer.decode document with
    | ok b =>
      obtain ⟨n, hn, -⟩ := (hdecode b).mp hread
      exact absurd hn (hnone n)
    | error e =>
      exact ⟨e, by simp only [ImageSearch.firstResult, if_neg (Nat.not_lt.mpr hstatus), hread]⟩
  · intro n hn
    refine ⟨?_, ?_⟩
    · rintro reading stop rfl hnumber
      exact (hdecode _).mpr ⟨n, .number (hnumber ▸ writesInt_toString n) hn, rfl⟩
    · rintro stop rfl
      exact (hdecode _).mpr ⟨n, .text (denotesInt_toString n) hn, rfl⟩

/-- An answer with nothing but a number of results. -/
def totalDocument (number : String) : List UInt8 :=
  Utf8.bytes ("\x7b\"searchInformation\":\x7b\"totalResults\":" ++ number ++ "\x7d\x7d")

/-- The tree of such an answer, if the number has two bytes. -/
def totalTree (number : Node) : Node :=
  .object 0 (.member (.ok "searchInformation") 20
    (.object 21 (.member (.ok "totalResults") 36 number 40 (.closed 40))) 41 (.closed 41))

deriving instance DecidableEq for Node, Items, Members

/-- A number below zero is accepted, and a zero with a minus sign is not. -/
theorem Answer.decode_total_minus :
    Answer.decode (totalDocument "-7") = .ok ⟨⟨-7⟩, []⟩ ∧
    ∃ e, ImageSearch.firstResult ⟨200, [], totalDocument "-0"⟩ = .error (.decode e) := by
  have houter : Node.Slot "searchInformation" fun v =>
      .object 0 (.member (.ok "searchInformation") 20 v 41 (.closed 41)) := .object (.here _ _ _) _
  have hinner : Node.Slot "totalResults" fun v =>
      .object 21 (.member (.ok "totalResults") 36 v 40 (.closed 40)) := .object (.here _ _ _) _
  have hseven : (Document.parse (totalDocument "-7")).root =
      totalTree (.number (.ok (.int (-7))) 39) := by decide +kernel
  have hzero : (Document.parse (totalDocument "-0")).root =
      totalTree (.number (.ok (.float ⟨0x8000000000000000⟩)) 39) := by decide +kernel
  have htrailing : (Document.parse (totalDocument "-7")).trailing = none ∧
      (Document.parse (totalDocument "-0")).trailing = none := by decide +kernel
  have hwritten : numberAt (totalDocument "-7") 39 = 0x2D :: digitBytes ['7'] ∧
      numberAt (totalDocument "-0") 39 = 0x2D :: digitBytes ['0'] := by decide +kernel
  have hothers : answerRecord.decode 128 (totalTree (.null 0)) = .ok ⟨⟨0⟩, []⟩ := rfl
  refine ⟨?_, ?_⟩
  · have hdecode := (Answer.decode_total houter hinner hseven htrailing.1 hothers).1
    refine (hdecode _).mpr ⟨-7, .number ?_ ⟨by decide, by decide⟩, rfl⟩
    rw [hwritten.1]
    exact .negative ⟨by simp, List.forall_mem_singleton.mpr rfl, rfl⟩ (by decide)
  · have hrefuse := (Answer.decode_total houter hinner hzero htrailing.2 hothers).2.1
    refine hrefuse ?_ 200 [] (Nat.le_refl 200)
    intro n hn
    have hwrites := (tellsTotal_number_iff.mp hn).1
    rw [hwritten.2, writesInt_minus_iff (List.forall_mem_singleton.mpr rfl)] at hwrites
    obtain ⟨k, hk, hne, -⟩ := hwrites
    exact hne hk.value.symm

end ImageBot.Search
