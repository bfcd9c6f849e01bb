import ImageBot.Text.Blank
import Mathlib.Data.List.Basic
/-!
# Words and markers

The words of a text are told by what stands between them: `Splits` says how a text falls into blanks
and words, and there is one way for each text. So words that are joined by single blanks are read
back one by one. A marker is taken off a text exactly if the text starts with it, and a text without
the blanks it started with does not start with a marker that does.
-/
namespace ImageBot.Text

/-- A word: some characters, none of them a blank. -/
structure IsWord (w : String) : Prop where
  nonempty : w ≠ ""
  chars : ∀ c ∈ w.toList, isBlank c = false

instance (w : String) : Decidable (IsWord w) :=
  let _ := List.decidableBAll (fun c => isBlank c = false) w.toList
  decidable_of_iff (w ≠ "" ∧ ∀ c ∈ w.toList, isBlank c = false)
    ⟨fun ⟨hnonempty, hchars⟩ => ⟨hnonempty, hchars⟩, fun h => ⟨h.nonempty, h.chars⟩⟩

/-- A gap: some blanks, or nothing at all. -/
def IsGap (s : String) : Prop := ∀ c ∈ s.toList, isBlank c

instance (s : String) : Decidable (IsGap s) := decidable_of_iff (isAllBlank s) List.all_eq_true

theorem IsWord.toList_ne_nil {w : String} (hw : IsWord w) : w.toList ≠ [] := by
  intro hnil
  exact hw.nonempty (String.toList_eq_nil_iff.mp hnil)

/-- Texts are told by their characters. -/
theorem map_ofList_map_toList (ws : List String) :
    (ws.map String.toList).map String.ofList = ws := by
  rw [List.map_map]
  exact (List.map_congr_left fun w _ => String.ofList_toList).trans (List.map_id _)

variable {w s : List Char}

/-- Behind a blank the words are read anew. -/
theorem leadingWord_blank {c : Char} (hc : isBlank c) (s : List Char) :
    leadingWord (c :: s) = ([], words s) := by
  rw [leadingWord, words]
  simp only [hc, if_true]

/-- What is no blank is added to the run in front. -/
theorem leadingWord_append (hw : ∀ c ∈ w, isBlank c = false) (s : List Char) :
    leadingWord (w ++ s) = (w ++ (leadingWord s).1, (leadingWord s).2) := by
  induction w with
  | nil => rfl
  | cons c w ih =>
    obtain ⟨hc, hrest⟩ := List.forall_mem_cons.mp hw
    rw [List.cons_append, leadingWord, ih hrest]
    simp only [hc, Bool.false_eq_true, if_false, List.cons_append]

/-- A text falls into blanks and words. Two words are kept apart by a blank at least. -/
inductive Splits : List Char → List String → Prop
  | blanks {s : List Char} (hs : ∀ c ∈ s, isBlank c) : Splits s []
  | word {gap rest : List Char} {w : String} {ws : List String} (hgap : ∀ c ∈ gap, isBlank c)
    (hw : IsWord w) (hend : ∀ c ∈ rest.head?, isBlank c) (hrest : Splits rest ws) :
    Splits (gap ++ w.toList ++ rest) (w :: ws)

theorem words_of_chars (hne : w ≠ []) (hw : ∀ c ∈ w, isBlank c = false) : words w = [w] := by
  have hlead := leadingWord_append hw []
  rw [List.append_nil, leadingWord, List.append_nil] at hlead
  rw [words, hlead]
  simp only [List.isEmpty_iff, hne, if_false]

/-- A blank ends the words in front of it. -/
theorem words_append_cons_blank (front : List Char) {c : Char} (hc : isBlank c) (s : List Char) :
    words (front ++ c :: s) = words front ++ words s := by
  have hlead : leadingWord (front ++ c :: s) =
      ((leadingWord front).1, (leadingWord front).2 ++ words s) := by
    induction front with
    | nil => exact leadingWord_blank hc s
    | cons d front ih =>
      rw [List.cons_append, leadingWord, leadingWord, ih]
      by_cases hd : isBlank d
      · by_cases hempty : (leadingWord front).1 = [] <;> simp [hd, hempty]
      · simp [hd]
  have hfront : words front = if (leadingWord front).1.isEmpty then (leadingWord front).2
      else (leadingWord front).1 :: (leadingWord front).2 := rfl
  rw [words, hlead, hfront]
  by_cases hempty : (leadingWord front).1 = [] <;> simp [hempty]

/-- A word and a blank, and then the other words. -/
theorem words_append_blank (hne : w ≠ []) (hw : ∀ c ∈ w, isBlank c = false) {c : Char}
    (hc : isBlank c) (s : List Char) : words (w ++ c :: s) = w :: words s := by
  rw [words_append_cons_blank w hc, words_of_chars hne hw]
  rfl

/-! ### Texts that fall into words -/

theorem IsWord.ofList_iff : IsWord (String.ofList w) ↔ w ≠ [] ∧ ∀ c ∈ w, isBlank c = false := by
  have hempty : String.ofList w = "" ↔ w = [] := by
    rw [← String.toList_eq_nil_iff, String.toList_ofList]
  constructor
  · rintro ⟨hne, hchars⟩
    rw [String.toList_ofList] at hchars
    exact ⟨fun hnil => hne (hempty.mpr hnil), hchars⟩
  · rintro ⟨hne, hchars⟩
    exact ⟨fun hnil => hne (hempty.mp hnil), by rwa [String.toList_ofList]⟩

theorem words_cons_blank {c : Char} (hc : isBlank c) (s : List Char) :
    words (c :: s) = words s := by
  rw [words, leadingWord_blank hc]
  rfl

/-- Blanks in front of a text do not matter. -/
theorem words_append_of_blanks {gap : List Char} (hgap : ∀ c ∈ gap, isBlank c) (s : List Char) :
    words (gap ++ s) = words s := by
  induction gap with
  | nil => rfl
  | cons c gap ih =>
    obtain ⟨hc, hrest⟩ := List.forall_mem_cons.mp hgap
    rw [List.cons_append, words_cons_blank hc, ih hrest]

/-- A word ends where the text does or at a blank. -/
theorem words_append_of_end (hne : w ≠ []) (hw : ∀ c ∈ w, isBlank c = false)
    (hend : ∀ c ∈ s.head?, isBlank c) : words (w ++ s) = w :: words s := by
  cases s with
  | nil => rw [List.append_nil, words_of_chars hne hw]; rfl
  | cons c s =>
    have hc : isBlank c := hend c rfl
    rw [words_append_blank hne hw hc, words_cons_blank hc]

/-- Blanks between two texts keep their words apart. -/
theorem words_append_gap (front : List Char) {gap : List Char} (hne : gap ≠ [])
    (hgap : ∀ c ∈ gap, isBlank c) (back : List Char) :
    words (front ++ (gap ++ back)) = words front ++ words back := by
  obtain ⟨c, gap, rfl⟩ := List.exists_cons_of_ne_nil hne
  obtain ⟨hc, hrest⟩ := List.forall_mem_cons.mp hgap
  rw [List.cons_append, words_append_cons_blank front hc, words_append_of_blanks hrest]

/-- Blanks behind a text do not matter. -/
theorem words_append_blanks {gap : List Char} (hgap : ∀ c ∈ gap, isBlank c) (s : List Char) :
    words (s ++ gap) = words s := by
  by_cases hne : gap = []
  · rw [hne, List.append_nil]
  · have hwords := words_append_gap s hne hgap []
    have hnil : words [] = [] := rfl
    rwa [List.append_nil, hnil, List.append_nil] at hwords

theorem words_trimStart (s : List Char) : words (trimStart s) = words s := by
  have hgap : ∀ c ∈ s.takeWhile isBlank, isBlank c := List.all_eq_true.mp List.all_takeWhile
  rw [trimStart, ← words_append_of_blanks hgap, List.takeWhile_append_dropWhile]

theorem Splits.words_eq {ws : List String} (h : Splits s ws) : words s = ws.map String.toList := by
  induction h with
  | @blanks s hs =>
    have hwords := words_append_of_blanks hs []
    rwa [List.append_nil] at hwords
  | @word gap rest w ws hgap hw hend _ ih =>
    rw [List.append_assoc, words_append_of_blanks hgap,
      words_append_of_end hw.toList_ne_nil hw.chars hend, ih]
    rfl

theorem Splits.isWord {ws : List String} (h : Splits s ws) : ∀ w ∈ ws, IsWord w := by
  induction h with
  | blanks _ => exact List.forall_mem_nil _
  | word _ hw _ _ ih => exact List.forall_mem_cons.mpr ⟨hw, ih⟩

/-- A blank in front makes no difference to how a text falls into words. -/
theorem Splits.cons_blank {c : Char} {ws : List String} (hc : isBlank c) (h : Splits s ws) :
    Splits (c :: s) ws := by
  cases h with
  | blanks hs => exact .blanks (List.forall_mem_cons.mpr ⟨hc, hs⟩)
  | @word gap rest w ws hgap hw hend hrest =>
    have hmore : ∀ d ∈ c :: gap, isBlank d := List.forall_mem_cons.mpr ⟨hc, hgap⟩
    exact .word hmore hw hend hrest

/-- The run in front of a text is followed by its end or a blank, and by the later words. -/
theorem leadingWord_splits (s : List Char) : ∃ rest, s = (leadingWord s).1 ++ rest ∧
    (∀ c ∈ (leadingWord s).1, isBlank c = false) ∧ (∀ c ∈ rest.head?, isBlank c) ∧
    Splits rest ((leadingWord s).2.map String.ofList) := by
  induction s with
  | nil => exact ⟨[], rfl, by simp [leadingWord], by simp, .blanks (by simp)⟩
  | cons c s ih =>
    obtain ⟨rest, hs, hrun, hend, hrest⟩ := ih
    by_cases hc : isBlank c
    · refine ⟨c :: s, ?_⟩
      rw [leadingWord_blank hc, words]
      refine ⟨rfl, by simp, by simpa using hc, ?_⟩
      -- what was in front of `s` is now a word of its own, unless it is empty
      by_cases hempty : (leadingWord s).1 = []
      · rw [hempty, List.nil_append] at hs
        subst hs
        simpa [hempty] using hrest.cons_blank hc
      · have hw : IsWord (String.ofList (leadingWord s).1) := IsWord.ofList_iff.mpr ⟨hempty, hrun⟩
        have hgap : ∀ d ∈ [c], isBlank d := List.forall_mem_singleton.mpr hc
        have hsplit := Splits.word hgap hw hend hrest
        rw [String.toList_ofList, List.append_assoc, ← hs] at hsplit
        simpa [hempty] using hsplit
    · rw [Bool.not_eq_true] at hc
      have hlead := leadingWord_append (w := [c]) (by simpa using hc) s
      rw [List.singleton_append] at hlead
      refine ⟨rest, ?_⟩
      rw [hlead]
      exact ⟨by rw [List.append_assoc, ← hs]; rfl, List.forall_mem_cons.mpr ⟨hc, hrun⟩, hend, hrest⟩

/-- **A text falls into its words**, and into nothing else. -/
theorem splits_iff {ws : List String} : Splits s ws ↔ (words s).map String.ofList = ws := by
  constructor
  · intro h
    rw [h.words_eq, map_ofList_map_toList]
  · rintro rfl
    obtain ⟨rest, hs, hrun, hend, hrest⟩ := leadingWord_splits s
    rw [words]
    by_cases hempty : (leadingWord s).1 = []
    · rw [hempty, List.nil_append] at hs
      subst hs
      simpa [hempty] using hrest
    · have hw : IsWord (String.ofList (leadingWord s).1) := IsWord.ofList_iff.mpr ⟨hempty, hrun⟩
      have hgap : ∀ c ∈ [], isBlank c := List.forall_mem_nil _
      have hsplit := Splits.word hgap hw hend hrest
      rw [String.toList_ofList, List.nil_append, ← hs] at hsplit
      simpa [hempty] using hsplit

/-- Words joined by single blanks are read back. -/
theorem words_intercalate {ws : List String} (hws : ∀ w ∈ ws, IsWord w) :
    words (String.intercalate " " ws).toList = ws.map String.toList := by
  have hblank : (" " : String).toList = [' '] := rfl
  rw [String.toList_intercalate, hblank]
  induction ws with
  | nil => rfl
  | cons w ws ih =>
    obtain ⟨hw, hrest⟩ := List.forall_mem_cons.mp hws
    cases ws with
    | nil =>
      rw [List.map_singleton, List.intercalate_singleton]
      exact words_of_chars hw.toList_ne_nil hw.chars
    | cons v vs =>
      rw [List.map_cons] at ih
      rw [List.map_cons, List.map_cons, List.intercalate_cons_cons, List.append_assoc,
        List.singleton_append, words_append_blank hw.toList_ne_nil hw.chars rfl, ih hrest]

/-- A marker is taken off exactly if it stands in front. -/
theorem afterMarker?_eq_some_iff {marker s rest : List Char} :
    afterMarker? marker s = some rest ↔ s = marker ++ rest := by
  induction marker generalizing s with
  | nil => rw [afterMarker?, Option.some.injEq, List.nil_append]
  | cons m marker ih =>
    cases s with
    | nil => simp [afterMarker?]
    | cons c s =>
      rw [afterMarker?, List.cons_append, List.cons.injEq]
      by_cases hm : m = c
      · rw [if_pos hm, ih, and_iff_right hm.symm]
      · rw [if_neg hm]
        simp [Ne.symm hm]

/-- A text that starts with no blank stays as it is. -/
theorem trimStart_eq_self (hs : ∀ c ∈ s.head?, isBlank c = false) : trimStart s = s := by
  cases s with
  | nil => rfl
  | cons c s => exact List.dropWhile_cons_of_neg (by simp [hs c rfl])

/-- No capital is a blank. -/
theorem lowerChar_of_isBlank {c : Char} (hc : isBlank c) : lowerChar c = c := by
  have hcapital : ¬(65 ≤ c.toNat ∧ c.toNat ≤ 90) := by
    simp only [isBlank, Bool.or_eq_true, Bool.and_eq_true, decide_eq_true_eq, beq_iff_eq] at hc
    omega
  rw [lowerChar, if_neg]
  simpa [Char.le_def, UInt32.le_iff_toNat_le] using hcapital

/-- What is a word in lower case is a word. -/
theorem isWord_of_lower {w : String} (hw : IsWord (lower w)) : IsWord w where
  nonempty := by
    rintro rfl
    exact hw.nonempty rfl
  chars c hc := by
    rw [Bool.eq_false_iff]
    intro hblank
    have hmem : c ∈ (lower w).toList := by
      rw [lower, String.toList_ofList, ← lowerChar_of_isBlank hblank]
      exact List.mem_map_of_mem hc
    simp [hw.chars c hmem] at hblank

/-- A trimmed text starts with no blank. -/
theorem head_trimStart {c : Char} (h : (trimStart s).head? = some c) : isBlank c = false := by
  have hnot := List.head?_dropWhile_not isBlank s
  rw [trimStart] at h
  rw [h] at hnot
  simpa using hnot

end ImageBot.Text
