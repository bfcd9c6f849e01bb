import ImageBot.Proofs.Text.Words
import Mathlib.Data.List.Basic
/-!
# Phrases

A phrase is a text whose blanks are single spaces, each with a character on both sides that is no
blank. Words that are joined by single spaces make a phrase, and it is read back as these words.
-/
namespace ImageBot.Text

/-- A text in which every blank is a single space between two characters that are none. -/
structure IsPhrase (s : List Char) : Prop where
  nonempty : s ≠ []
  head : ∀ c ∈ s.head?, isBlank c = false
  last : ∀ c ∈ s.getLast?, isBlank c = false
  space : ∀ front c back, s = front ++ c :: back → isBlank c →
    c = ' ' ∧ (∃ b ∈ front.getLast?, isBlank b = false) ∧ ∃ d ∈ back.head?, isBlank d = false

variable {w s : List Char}

/-- A word is a phrase without blanks. -/
theorem isPhrase_word (hne : w ≠ []) (hw : ∀ c ∈ w, isBlank c = false) : IsPhrase w where
  nonempty := hne
  head c hc := hw c (List.mem_of_mem_head? hc)
  last c hc := hw c (List.mem_of_mem_getLast? hc)
  space front c back hs hc := by
    have hmem : c ∈ w := by simp [hs]
    simp [hw c hmem] at hc

/-- A word in front of a phrase, with a space between them, makes a phrase. -/
theorem IsPhrase.cons (hs : IsPhrase s) (hne : w ≠ []) (hw : ∀ c ∈ w, isBlank c = false) :
    IsPhrase (w ++ ' ' :: s) where
  nonempty := by simp
  head c hc := by
    obtain ⟨d, w, rfl⟩ := List.exists_cons_of_ne_nil hne
    exact hw c (List.mem_of_mem_head? hc)
  last c hc := by
    apply hs.last
    rwa [List.getLast?_append_cons, List.getLast?_cons_of_ne_nil hs.nonempty] at hc
  space front c back heq hc := by
    -- the blank is the space behind the word, or one of the phrase
    have hsplit : (front = w ∧ c = ' ' ∧ back = s) ∨
        ∃ inner, front = w ++ ' ' :: inner ∧ s = inner ++ c :: back := by
      rcases List.append_eq_append_iff.mp heq with ⟨between, hfront, hback⟩ | ⟨rest, hword, hback⟩
      · cases between with
        | nil =>
          obtain ⟨hspace, hrest⟩ := List.cons.inj hback
          exact .inl ⟨by simpa using hfront, hspace.symm, hrest.symm⟩
        | cons d inner =>
          obtain ⟨rfl, hrest⟩ := List.cons.inj hback
          exact .inr ⟨inner, hfront, hrest⟩
      · cases rest with
        | nil =>
          obtain ⟨hspace, hrest⟩ := List.cons.inj hback
          exact .inl ⟨by simpa using hword.symm, hspace, hrest⟩
        | cons d rest =>
          obtain ⟨rfl, -⟩ := List.cons.inj hback
          have hmem : c ∈ w := by simp [hword]
          simp [hw c hmem] at hc
    obtain ⟨rfl, rfl, rfl⟩ | ⟨inner, rfl, hinner⟩ := hsplit
    · refine ⟨rfl, ?_, ?_⟩
      · exact ⟨front.getLast hne, List.getLast?_eq_some_getLast hne, hw _ (List.getLast_mem hne)⟩
      · exact ⟨back.head hs.nonempty, List.head?_eq_some_head hs.nonempty,
          hs.head _ (List.head?_eq_some_head hs.nonempty)⟩
    · obtain ⟨rfl, ⟨b, hb, hblank⟩, hback⟩ := hs.space inner c back hinner hc
      have hinside : inner ≠ [] := by
        rintro rfl
        cases hb
      refine ⟨rfl, ⟨b, ?_, hblank⟩, hback⟩
      rwa [List.getLast?_append_cons, List.getLast?_cons_of_ne_nil hinside]

/-- Words that are joined by single spaces make a phrase. -/
theorem isPhrase_intercalate {ws : List String} (hne : ws ≠ []) (hws : ∀ w ∈ ws, IsWord w) :
    IsPhrase (String.intercalate " " ws).toList := by
  induction ws with
  | nil => exact absurd rfl hne
  | cons w ws ih =>
    obtain ⟨hw, hrest⟩ := List.forall_mem_cons.mp hws
    by_cases hlast : ws = []
    · subst hlast
      rw [String.intercalate_singleton]
      exact isPhrase_word hw.toList_ne_nil hw.chars
    · obtain ⟨v, vs, rfl⟩ := List.exists_cons_of_ne_nil hlast
      have hphrase := (ih hlast hrest).cons hw.toList_ne_nil hw.chars
      simpa [String.intercalate_cons_cons] using hphrase

end ImageBot.Text
