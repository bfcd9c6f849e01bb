import ImageBot.Proofs.Service.Comparison
import ImageBot.Proofs.Settings.Validation
import ImageBot.Proofs.Text.Words
/-!
# Bodies that address the image command

The marker of the settings is looked for behind the blanks that a body starts with. So any marker
works that starts with no blank itself: the words behind it are the command and its arguments. A
marker that starts with a blank passes validation, but no body at all addresses a command by it.
-/
namespace ImageBot

open Http Text

namespace Registry

/-- Whether a marker starts with a blank. -/
def StartsBlank (marker : String) : Prop := ∃ c ∈ marker.toList.head?, isBlank c

instance (marker : String) : Decidable (StartsBlank marker) :=
  decidable_of_iff (marker.toList.head?.any isBlank) <| by
    cases h : marker.toList.head? <;> simp [StartsBlank, h]

variable {marker lead : String} {ws : List String}

/-- Behind a marker that starts with no blank the words are read, whatever blanks are in front. -/
theorem addressed?_marked (hm : ¬StartsBlank marker) (hlead : IsGap lead) (rest : String) :
    (empty marker).addressed? (lead ++ marker ++ rest) =
      some ((words rest.toList).map String.ofList) := by
  have htrim : trimStart (lead ++ marker ++ rest).toList =
      trimStart (marker.toList ++ rest.toList) := by
    rw [String.append_assoc, String.toList_append, String.toList_append, trimStart,
      List.dropWhile_append_of_pos hlead, trimStart]
  cases hmarker : marker.toList with
  | nil =>
    rw [addressed?, htrim, hmarker, List.nil_append]
    show (afterMarker? marker.toList _).map _ = _
    rw [hmarker, afterMarker?, Option.map_some, words_trimStart]
  | cons c marker' =>
    have hfront : ∀ d ∈ (marker.toList ++ rest.toList).head?, isBlank d = false := by
      intro d hd
      rw [Bool.eq_false_iff]
      intro hblank
      apply hm
      refine ⟨d, ?_, hblank⟩
      simpa [hmarker] using hd
    rw [addressed?, htrim, trimStart_eq_self hfront]
    show (afterMarker? marker.toList _).map _ = _
    rw [afterMarker?_eq_some_iff.mpr rfl, Option.map_some]

/-- No body is behind a marker that starts with a blank. -/
theorem addressed?_eq_none (hm : StartsBlank marker) (body : String) :
    (empty marker).addressed? body = none := by
  obtain ⟨c, hc, hblank⟩ := hm
  obtain ⟨rest, hmarker⟩ := List.head?_eq_some_iff.mp hc
  rw [addressed?, Option.map_eq_none_iff, Option.eq_none_iff_forall_ne_some]
  intro behind hbehind
  have htrim := afterMarker?_eq_some_iff.mp hbehind
  have hfront : (trimStart body.toList).head? = some c := by
    rw [htrim]
    show (marker.toList ++ behind).head? = some c
    rw [hmarker]
    rfl
  rw [head_trimStart hfront] at hblank
  cases hblank

/-- The words behind a marker and the name of the command are its arguments. -/
theorem imageArgs?_append (hm : ¬StartsBlank marker) (hws : ∀ w ∈ ws, IsWord w) :
    imageArgs? marker (marker ++ String.intercalate " " ("google" :: ws)) = some ws := by
  have hall : ∀ w ∈ "google" :: ws, IsWord w := List.forall_mem_cons.mpr ⟨by decide, hws⟩
  have hwords : (words (String.intercalate " " ("google" :: ws)).toList).map String.ofList =
      "google" :: ws := by
    rw [words_intercalate hall, map_ofList_map_toList]
  have hlead : IsGap "" := by decide
  have haddressed := addressed?_marked hm hlead (String.intercalate " " ("google" :: ws))
  rw [String.empty_append, hwords] at haddressed
  have hfits : fits ["google"] ("google" :: ws) := by
    simp [fits, sameLetters]
  rw [imageArgs?, haddressed, Option.bind_some, if_pos hfits]
  rfl

theorem imageArgs?_eq_none (hm : StartsBlank marker) (body : String) :
    imageArgs? marker body = none := by
  rw [imageArgs?, addressed?_eq_none hm body]
  rfl

end Registry

/-- Valid settings with a marker. -/
def Settings.markedBy (marker : String) : Settings :=
  { reaching defaultSearchUrl defaultMatrix.homeserverUrl "token" with
    server := { defaultServer with commandPrefix := marker } }

theorem Settings.validate_markedBy {marker : String} (h : marker ≠ "") :
    (markedBy marker).validate = .ok () := by
  have hvalid : (reaching defaultSearchUrl defaultMatrix.homeserverUrl "token").IsValid :=
    isValid_reaching ⟨_, parse_defaultSearchUrl⟩ ⟨_, parse_defaultHomeserverUrl⟩ (by decide)
  exact validate_eq_ok_iff.mpr { hvalid with commandPrefix := h }

namespace Service

variable {client : Client} {settings : Settings} {s : Service}

/-- A body makes the service run the image command on some words, and so search for the phrase
that they make. -/
structure Runs (s : Service) (r : Relay) (body : String) (ws : List String) : Prop where
  parse : s.registry.parse body = some (imageCommand r, "image" :: ws)
  dispatch : ∀ ctx, s.registry.dispatch ctx body = do
    return some ⟨"google", ← r.handle (String.intercalate " " ws)⟩

/-- What some words behind `image` address is run. -/
theorem runs_of_parse {r : Relay} {body : String} {ws : List String} (hne : ws ≠ [])
    (h : s.registry.parse body = some (imageCommand r, "image" :: ws)) : s.Runs r body ws := by
  refine ⟨h, ?_⟩
  intro ctx
  obtain ⟨w, rest, rfl⟩ := List.exists_cons_of_ne_nil hne
  rw [Registry.dispatch, h]
  rfl

/-- **Which markers work.** Behind the marker of the settings the words `google image` and some
more make the service search for the phrase of those, exactly if the marker starts with no blank.
By a marker that does no body addresses anything. -/
theorem marker_works_iff (hs : ofSettings client settings = .ok s) :
    let marker := settings.server.commandPrefix
    let relay := relay client settings.google s.homeserver
    (¬Registry.StartsBlank marker ↔ ∀ ws, ws ≠ [] → (∀ w ∈ ws, IsWord w) →
      s.Runs relay (marker ++ "google image " ++ String.intercalate " " ws) ws) ∧
    (Registry.StartsBlank marker → ∀ body, s.registry.parse body = none) := by
  obtain ⟨h, -, rfl⟩ := ofSettings_eq_ok_iff.mp hs
  intro marker relay
  have hnone (hm : Registry.StartsBlank marker) (body : String) :
      Registry.parse ⟨marker, [imageCommand relay]⟩ body = none := by
    rw [Registry.parse_image, Registry.imageArgs?_eq_none hm, Option.map_none]
  refine ⟨⟨?_, ?_⟩, hnone⟩
  · intro hm ws hne hws
    have hall : ∀ w ∈ "image" :: ws, IsWord w := List.forall_mem_cons.mpr ⟨by decide, hws⟩
    have hbody : "google image " ++ String.intercalate " " ws =
        String.intercalate " " ("google" :: "image" :: ws) := by
      obtain ⟨w, rest, rfl⟩ := List.exists_cons_of_ne_nil hne
      rw [String.intercalate_cons_cons, String.intercalate_cons_cons]
      simp only [← String.append_assoc]
      rfl
    apply runs_of_parse hne
    rw [String.append_assoc, hbody]
    show Registry.parse ⟨marker, [imageCommand relay]⟩ _ = _
    rw [Registry.parse_image, Registry.imageArgs?_append hm hall, Option.map_some]
  · intro hworks hm
    have hruns := hworks ["cats"] (by decide) (by decide)
    have hparse := hruns.parse
    have hnone' := hnone hm (marker ++ "google image " ++ String.intercalate " " ["cats"])
    cases hnone'.symm.trans hparse

/-- A marker with blanks inside and at its end works. -/
theorem marker_works_with_blanks :
    let settings := Settings.markedBy "hey bot: "
    let client : Client := .timeouts settings.outgoing
    settings.validate = .ok () ∧ ∃ s, ofSettings client settings = .ok s ∧
      ¬Registry.StartsBlank "hey bot: " ∧
      s.Runs (relay client settings.google s.homeserver) "hey bot: google image big cats"
        ["big", "cats"] := by
  intro settings client
  obtain ⟨s, hs⟩ := exists_ofSettings client (rfl : settings.matrix.homeserverUrl = _)
  have hm : ¬Registry.StartsBlank "hey bot: " := by decide
  refine ⟨Settings.validate_markedBy (by decide), s, hs, hm, ?_⟩
  exact (marker_works_iff hs).1.mp hm ["big", "cats"] (by decide) (by decide)

/-- A marker that starts with a blank is valid, and does not work. -/
theorem marker_fails_behind_blank :
    let settings := Settings.markedBy " !"
    let client : Client := .timeouts settings.outgoing
    settings.validate = .ok () ∧ ∃ s, ofSettings client settings = .ok s ∧ IsWord "cats" ∧
      s.registry.parse (" !" ++ "google image " ++ String.intercalate " " ["cats"]) = none := by
  intro settings client
  obtain ⟨s, hs⟩ := exists_ofSettings client (rfl : settings.matrix.homeserverUrl = _)
  refine ⟨Settings.validate_markedBy (by decide), s, hs, by decide, ?_⟩
  obtain ⟨h, -, rfl⟩ := ofSettings_eq_ok_iff.mp hs
  show Registry.parse ⟨" !", [imageCommand (relay client settings.google h)]⟩ _ = _
  rw [Registry.parse_image, Registry.imageArgs?_eq_none (by decide), Option.map_none]

end Service

end ImageBot
