import ImageBot.Proofs.Command.Addressing
import ImageBot.Proofs.Command.Execution
import ImageBot.Proofs.Command.Selection
import ImageBot.Proofs.Text.Phrases
import Mathlib.Logic.Relation
/-!
# The phrase that a body asks for

Behind its marker a body is read as words, so the phrase it asks for does not tell how the words
were kept apart, nor how the name of the command was written. `Respells` has these changes of a
body. The phrase itself is written with single spaces, and a body that is written with the phrase
asks for it again.
-/
namespace ImageBot

open Text

/-- One change to how a body is written: to the blanks in front of its marker, behind the marker or
at the end, to a run of blanks somewhere behind the marker, or to the letter case of the name
`google`. -/
inductive Respells (marker : String) : String → String → Prop
  | before (lead lead' rest : String) (hlead : IsGap lead) (hlead' : IsGap lead') :
    Respells marker (lead ++ marker ++ rest) (lead' ++ marker ++ rest)
  | behind (lead gap gap' rest : String) (hlead : IsGap lead) (hgap : IsGap gap)
    (hgap' : IsGap gap') :
    Respells marker (lead ++ marker ++ (gap ++ rest)) (lead ++ marker ++ (gap' ++ rest))
  | between (lead front gap gap' back : String) (hlead : IsGap lead) (hgap : IsGap gap)
    (hgap' : IsGap gap') (hne : gap ≠ "") (hne' : gap' ≠ "") :
    Respells marker (lead ++ marker ++ (front ++ (gap ++ back)))
      (lead ++ marker ++ (front ++ (gap' ++ back)))
  | atEnd (lead rest gap gap' : String) (hlead : IsGap lead) (hgap : IsGap gap)
    (hgap' : IsGap gap') :
    Respells marker (lead ++ marker ++ (rest ++ gap)) (lead ++ marker ++ (rest ++ gap'))
  | name (lead gap google google' back : String) (hlead : IsGap lead) (hgap : IsGap gap)
    (hname : lower google = "google") (hname' : lower google' = "google")
    (hend : ∀ c ∈ back.toList.head?, isBlank c) :
    Respells marker (lead ++ marker ++ (gap ++ (google ++ back)))
      (lead ++ marker ++ (gap ++ (google' ++ back)))

namespace Invocation

theorem ofArgs_eq_image_iff {args : List String} {phrase : String} :
    ofArgs args = .image phrase ↔
      ∃ ws, args = "image" :: ws ∧ ws ≠ [] ∧ phrase = String.intercalate " " ws := by
  constructor
  · intro h
    by_cases husage : args.length < 2 ∨ args.head? ≠ some "image"
    · simp [ofArgs_eq_usage husage] at h
    · obtain ⟨hlength, hhead⟩ := not_or.mp husage
      rw [ne_eq, Classical.not_not] at hhead
      obtain ⟨ws, rfl⟩ := List.head?_eq_some_iff.mp hhead
      have hne : ws ≠ [] := by
        rintro rfl
        simp at hlength
      rw [ofArgs_image hne] at h
      exact ⟨ws, rfl, hne, (Invocation.image.inj h).symm⟩
  · rintro ⟨ws, rfl, hne, rfl⟩
    exact ofArgs_image hne

end Invocation

namespace Registry

variable {marker lead lead' rest rest' body body' phrase : String} {relay : Relay}

/-- A body asks for a phrase: the arguments of the command that it addresses do. -/
def Asks (r : Registry) (body phrase : String) : Prop :=
  ∃ c args, r.parse body = some (c, args) ∧ Invocation.ofArgs args = .image phrase

/-- Some words are the name, `image` and the words of a phrase. -/
def Spell (ws : List String) (phrase : String) : Prop :=
  ∃ name rest, ws = name :: "image" :: rest ∧ lower name = "google" ∧ rest ≠ [] ∧
    phrase = String.intercalate " " rest

/-- The name may be another one, as long as it differs in letter case only. -/
theorem Spell.rename {name name' : String} {ws : List String} (h : Spell (name :: ws) phrase)
    (hname' : lower name' = "google") : Spell (name' :: ws) phrase := by
  obtain ⟨_, rest, heq, -, hne, hphrase⟩ := h
  obtain ⟨-, rfl⟩ := List.cons.inj heq
  exact ⟨name', rest, rfl, hname', hne, hphrase⟩

theorem fits_google_iff {ws : List String} :
    fits ["google"] ws ↔ ∃ name rest, ws = name :: rest ∧ lower name = "google" := by
  have hlower : lower "google" = "google" := by decide
  rw [fits_iff_exists]
  constructor
  · rintro ⟨args, hne, hsame⟩
    cases hsame with
    | cons hname hnil =>
      cases hnil
      exact ⟨_, args, rfl, hname.symm.trans hlower⟩
  · rintro ⟨name, rest, rfl, hname⟩
    have hsame : List.Forall₂ (fun p w => lower p = lower w) ["google"] [name] :=
      .cons (hlower.trans hname.symm) .nil
    exact ⟨rest, .intro (by simp) hsame⟩

theorem imageArgs?_eq_some_iff {args : List String} : imageArgs? marker body = some args ↔
    ∃ name, (empty marker).addressed? body = some (name :: args) ∧ lower name = "google" := by
  rw [imageArgs?, Option.bind_eq_some_iff]
  constructor
  · rintro ⟨ws, hws, hargs⟩
    by_cases hfits : fits ["google"] ws
    · obtain ⟨name, rest, rfl, hname⟩ := fits_google_iff.mp hfits
      rw [if_pos hfits, Option.some.injEq, List.drop_one, List.tail_cons] at hargs
      subst hargs
      exact ⟨name, hws, hname⟩
    · simp [hfits] at hargs
  · rintro ⟨name, hws, hname⟩
    exact ⟨name :: args, hws, if_pos (fits_google_iff.mpr ⟨name, args, rfl, hname⟩)⟩

/-- A body asks for a phrase if its words spell it. -/
theorem asks_iff : Asks ⟨marker, [imageCommand relay]⟩ body phrase ↔
    ∃ ws, (empty marker).addressed? body = some ws ∧ Spell ws phrase := by
  simp only [Asks, parse_image, Option.map_eq_some_iff, imageArgs?_eq_some_iff,
    Invocation.ofArgs_eq_image_iff]
  constructor
  · rintro ⟨c, args, ⟨_, ⟨name, hws, hname⟩, heq⟩, rest, rfl, hne, hphrase⟩
    obtain ⟨-, rfl⟩ := Prod.mk.inj heq
    exact ⟨_, hws, name, rest, rfl, hname, hne, hphrase⟩
  · rintro ⟨_, hws, name, rest, rfl, hname, hne, hphrase⟩
    exact ⟨_, "image" :: rest, ⟨_, ⟨name, hws, hname⟩, rfl⟩, rest, rfl, hne, hphrase⟩

theorem Asks.not_startsBlank (h : Asks ⟨marker, [imageCommand relay]⟩ body phrase) :
    ¬StartsBlank marker := by
  intro hm
  obtain ⟨ws, hws, -⟩ := asks_iff.mp h
  rw [addressed?_eq_none hm body] at hws
  cases hws

theorem asks_marked_iff (hm : ¬StartsBlank marker) (hlead : IsGap lead) :
    Asks ⟨marker, [imageCommand relay]⟩ (lead ++ marker ++ rest) phrase ↔
      Spell ((words rest.toList).map String.ofList) phrase := by
  rw [asks_iff, addressed?_marked hm hlead]
  simp

/-- A name behind blanks is the first word. -/
theorem words_name {gap google back : String} (hgap : IsGap gap) (hname : lower google = "google")
    (hend : ∀ c ∈ back.toList.head?, isBlank c) :
    (words (gap ++ (google ++ back)).toList).map String.ofList =
      google :: (words back.toList).map String.ofList := by
  have hword : IsWord google := isWord_of_lower (hname ▸ by decide)
  rw [String.toList_append, String.toList_append, words_append_of_blanks hgap,
    words_append_of_end hword.toList_ne_nil hword.chars hend, List.map_cons, String.ofList_toList]

/-- A change to how a body is written does not change the phrase. -/
theorem Asks.respell (h : Asks ⟨marker, [imageCommand relay]⟩ body phrase)
    (hr : Respells marker body body') : Asks ⟨marker, [imageCommand relay]⟩ body' phrase := by
  have hm := h.not_startsBlank
  cases hr with
  | before lead lead' rest hlead hlead' =>
    rwa [asks_marked_iff hm hlead', ← asks_marked_iff hm hlead]
  | behind lead gap gap' rest hlead hgap hgap' =>
    rw [asks_marked_iff hm hlead, String.toList_append] at h ⊢
    rwa [words_append_of_blanks hgap', ← words_append_of_blanks hgap]
  | between lead front gap gap' back hlead hgap hgap' hne hne' =>
    have hgaps : gap.toList ≠ [] ∧ gap'.toList ≠ [] := by simp [hne, hne']
    rw [asks_marked_iff hm hlead, String.toList_append, String.toList_append] at h ⊢
    rwa [words_append_gap _ hgaps.2 hgap', ← words_append_gap _ hgaps.1 hgap]
  | atEnd lead rest gap gap' hlead hgap hgap' =>
    rw [asks_marked_iff hm hlead, String.toList_append] at h ⊢
    rwa [words_append_blanks hgap', ← words_append_blanks hgap]
  | name lead gap google google' back hlead hgap hname hname' hend =>
    rw [asks_marked_iff hm hlead] at h ⊢
    rw [words_name hgap hname hend] at h
    rw [words_name hgap hname' hend]
    exact h.rename hname'

/-- The phrase that a body asks for is made of words. -/
theorem Asks.exists_words (h : Asks ⟨marker, [imageCommand relay]⟩ body phrase) :
    ∃ ws, ws ≠ [] ∧ (∀ w ∈ ws, IsWord w) ∧ phrase = String.intercalate " " ws := by
  obtain ⟨_, hws, name, rest, rfl, -, hne, hphrase⟩ := asks_iff.mp h
  obtain ⟨_, -, hsplits⟩ := addressed?_eq_some_iff.mp hws
  obtain ⟨-, hwords⟩ := List.forall_mem_cons.mp hsplits.isWord
  exact ⟨rest, hne, (List.forall_mem_cons.mp hwords).2, hphrase⟩

/-- Behind a marker that starts with no blank the words of a phrase are read back. -/
theorem asks_written {ws : List String} (hm : ¬StartsBlank marker) (hne : ws ≠ [])
    (hws : ∀ w ∈ ws, IsWord w) :
    Asks ⟨marker, [imageCommand relay]⟩ (marker ++ "google image " ++ String.intercalate " " ws)
      (String.intercalate " " ws) := by
  have hlead : IsGap "" := by decide
  have hwords : (words ("google image " ++ String.intercalate " " ws).toList).map String.ofList =
      "google" :: "image" :: ws := by
    have htext : ("google image " ++ String.intercalate " " ws).toList = "google".toList ++
        ' ' :: ("image".toList ++ ' ' :: (String.intercalate " " ws).toList) := by
      rw [String.toList_append]
      rfl
    have hgoogle : IsWord "google" := by decide
    have himage : IsWord "image" := by decide
    rw [htext, words_append_blank hgoogle.toList_ne_nil hgoogle.chars rfl,
      words_append_blank himage.toList_ne_nil himage.chars rfl, words_intercalate hws]
    simp only [List.map_cons, String.ofList_toList, map_ofList_map_toList]
  have hbody : marker ++ "google image " ++ String.intercalate " " ws =
      "" ++ marker ++ ("google image " ++ String.intercalate " " ws) := by
    rw [String.empty_append, String.append_assoc]
  rw [hbody, asks_marked_iff hm hlead, hwords]
  exact ⟨"google", ws, rfl, by decide, hne, rfl⟩

/-- **A phrase is a normal form.** The phrase that a body asks for has no blanks but single spaces
between other characters. It stays the same under all changes to how the body is written, and the
body that is written with it asks for it again. -/
theorem asks_normal_phrase
    (h : ((empty marker).register (imageCommand relay)).Asks body phrase) :
    let r := (empty marker).register (imageCommand relay)
    IsPhrase phrase.toList ∧
    (∀ body', Relation.ReflTransGen (Respells marker) body body' → r.Asks body' phrase) ∧
    r.Asks (marker ++ "google image " ++ phrase) phrase := by
  intro r
  have hasks : Asks ⟨marker, [imageCommand relay]⟩ body phrase := h
  obtain ⟨ws, hne, hws, rfl⟩ := hasks.exists_words
  refine ⟨isPhrase_intercalate hne hws, ?_, asks_written hasks.not_startsBlank hne hws⟩
  intro body' hchanges
  induction hchanges with
  | refl => exact h
  | tail _ hchange ih => exact Asks.respell ih hchange

/-- One change of each kind leads from a body to the one that is written with its phrase. -/
theorem asks_normal_phrase_respelled :
    let relay : Relay := ⟨.ofSettings (.timeouts Settings.defaultOutgoing) Settings.defaultGoogle,
      fun _ => pure (.ok ⟨"mxc://server/abc123"⟩)⟩
    let r := (empty "!").register (imageCommand relay)
    let body := "\t! Google image\u00A0\u3000big cats\n"
    r.Asks body "big cats" ∧ IsPhrase "big cats".toList ∧
    Relation.ReflTransGen (Respells "!") body "!google image big cats" ∧
    r.Asks "!google image big cats" "big cats" ∧
    r.Asks ("!" ++ "google image " ++ "big cats") "big cats" := by
  intro relay r body
  have hasks : r.Asks body "big cats" := by
    have hspell : Spell ["Google", "image", "big", "cats"] "big cats" :=
      ⟨"Google", ["big", "cats"], rfl, by decide, by decide, by decide⟩
    have hlead : IsGap "\t" := by decide
    have hwords : (words " Google image\u00A0\u3000big cats\n".toList).map String.ofList =
        ["Google", "image", "big", "cats"] := by decide +kernel
    have hmarked : body = "\t" ++ "!" ++ " Google image\u00A0\u3000big cats\n" := by decide
    show Asks ⟨"!", [imageCommand relay]⟩ body "big cats"
    rw [hmarked, asks_marked_iff (by decide) hlead, hwords]
    exact hspell
  have hbefore : Respells "!" body "! Google image\u00A0\u3000big cats\n" :=
    .before "\t" "" " Google image\u00A0\u3000big cats\n" (by decide) (by decide)
  have hname : Respells "!" "! Google image\u00A0\u3000big cats\n"
      "! google image\u00A0\u3000big cats\n" :=
    .name "" " " "Google" "google" " image\u00A0\u3000big cats\n" (by decide) (by decide)
      (by decide) (by decide) (by simp [isBlank])
  have hbehind : Respells "!" "! google image\u00A0\u3000big cats\n"
      "!google image\u00A0\u3000big cats\n" :=
    .behind "" " " "" "google image\u00A0\u3000big cats\n" (by decide) (by decide) (by decide)
  have hbetween : Respells "!" "!google image\u00A0\u3000big cats\n"
      "!google image big cats\n" :=
    .between "" "google image" "\u00A0\u3000" " " "big cats\n" (by decide) (by decide) (by decide)
      (by decide) (by decide)
  have hend : Respells "!" "!google image big cats\n" "!google image big cats" :=
    .atEnd "" "google image big cats" "\n" "" (by decide) (by decide) (by decide)
  have hchanges : Relation.ReflTransGen (Respells "!") body "!google image big cats" :=
    ((((Relation.ReflTransGen.single hbefore).tail hname).tail hbehind).tail hbetween).tail hend
  obtain ⟨hphrase, hsame, hagain⟩ := asks_normal_phrase hasks
  exact ⟨hasks, hphrase, hchanges, hsame _ hchanges, hagain⟩

end Registry

end ImageBot
