import ImageBot.Proofs.Url.Percent
import ImageBot.Url.Parser
/-!
# Reading a path again

The segments of a path that was read are encoded, have no separators in them, and are not
made of dots. So the path is read again from its text segment by segment.
-/
namespace ImageBot.Url

open Text

/-- Whether a character stands for itself in a segment. -/
def isPathChar (c : Char) : Bool :=
  c.toNat < 0x80 && !pathSet c.toNat && c != '/' && c != '\\'

/-- A segment as it stands in the path of a web URL. -/
structure IsSegment (s : List Char) : Prop where
  chars : ∀ c ∈ s, isPathChar c
  single : isSingleDot s = false
  double : isDoubleDot s = false

theorem isPathChar_iff {c : Char} : isPathChar c ↔
    (c.toNat < 0x80 ∧ pathSet c.toNat = false) ∧ c ≠ '/' ∧ c ≠ '\\' := by
  simp only [isPathChar, Bool.and_eq_true, decide_eq_true_eq, Bool.not_eq_true', bne_iff_ne,
    and_assoc]

/-- What is behind a path: nothing, a query or a fragment. -/
def EndsPath (t : List Char) : Prop := ∀ c ∈ t.head?, c = '?' ∨ c = '#'

variable {s t : List Char} {segments : List (List Char)}

theorem isSegment_nil : IsSegment [] := ⟨fun _ h => absurd h List.not_mem_nil, rfl, rfl⟩

theorem IsSegment.encode_eq (h : IsSegment s) : encode pathSet (closed s) = s := by
  have hgap : ∀ c : Char, c.toNat < 0x80 → pathSet c.toNat = false → isGap c = false :=
    Utf8.forall_ascii (by decide)
  have hclosed : closed s = s := by
    apply List.filter_eq_self.mpr
    intro c hc
    have hplain := (isPathChar_iff.mp (h.chars c hc)).1
    rw [hgap c hplain.1 hplain.2]
    rfl
  rw [hclosed]
  apply encode_eq_self
  intro c hc
  exact (isPathChar_iff.mp (h.chars c hc)).1

/-- A segment is what is added to a path for it. -/
theorem IsSegment.path_add (h : IsSegment s) (w : Walk) (last : Bool) :
    (w.add false last s).path = s :: w.path := by
  simp [Walk.add, h.encode_eq, h.single, h.double]

theorem path_addAll (h : ∀ s ∈ segments, IsSegment s) (w : Walk) :
    (Walk.addAll false w segments).path = segments.reverse ++ w.path := by
  induction segments generalizing w with
  | nil => rfl
  | cons s rest ih =>
    rw [List.forall_mem_cons] at h
    rw [Walk.addAll, ih h.2, h.1.path_add, List.reverse_cons, List.append_assoc]
    rfl

theorem splitPath_cons {c : Char} (hc : isPathChar c) {more : List (List Char)}
    {after : List Char} (h : splitPath true t = (s :: more, after)) :
    splitPath true (c :: t) = ((c :: s) :: more, after) := by
  obtain ⟨⟨-, hout⟩, hslash, hback⟩ := isPathChar_iff.mp hc
  have hquery : c ≠ '?' := by
    rintro rfl
    exact absurd hout (by decide)
  have hfragment : c ≠ '#' := by
    rintro rfl
    exact absurd hout (by decide)
  simp [splitPath, h, hquery, hfragment, hslash, hback]

/-- A segment is split off up to the end of the path. -/
theorem splitPath_append_end (hs : ∀ c ∈ s, isPathChar c) (ht : EndsPath t) :
    splitPath true (s ++ t) = ([s], t) := by
  induction s with
  | nil =>
    cases t with
    | nil => rfl
    | cons c t => rcases ht c rfl with rfl | rfl <;> rfl
  | cons c s ih =>
    rw [List.forall_mem_cons] at hs
    exact splitPath_cons hs.1 (ih hs.2)

/-- A segment is split off up to a slash. -/
theorem splitPath_append_slash (hs : ∀ c ∈ s, isPathChar c) (t : List Char) :
    splitPath true (s ++ '/' :: t) = (s :: (splitPath true t).1, (splitPath true t).2) := by
  induction s with
  | nil => simp [splitPath]
  | cons c s ih =>
    rw [List.forall_mem_cons] at hs
    exact splitPath_cons hs.1 (ih hs.2)

/-- The segments of a path are split at the slashes between them. -/
theorem splitPath_join (hs : IsSegment s) (hrest : ∀ s ∈ segments, IsSegment s)
    (ht : EndsPath t) :
    splitPath true (s ++ segments.flatMap ('/' :: ·) ++ t) = (s :: segments, t) := by
  induction segments generalizing s with
  | nil =>
    rw [List.flatMap_nil, List.append_nil]
    exact splitPath_append_end hs.chars ht
  | cons u segments ih =>
    rw [List.forall_mem_cons] at hrest
    rw [List.flatMap_cons, List.append_assoc, List.append_assoc, List.cons_append,
      splitPath_append_slash hs.chars, ← List.append_assoc, ih hrest.1 hrest.2]

/-- A path is read again from its text. -/
theorem pathOf_join (hs : IsSegment s) (hrest : ∀ s ∈ segments, IsSegment s) (ht : EndsPath t) :
    pathOf .web (s ++ segments.flatMap ('/' :: ·) ++ t) =
      ((s :: segments).map String.ofList, t) := by
  have hall : ∀ u ∈ s :: segments, IsSegment u := List.forall_mem_cons.mpr ⟨hs, hrest⟩
  simp only [pathOf, readPath, Kind.isSpecial, splitPath_join hs hrest ht]
  rw [show (Kind.web == Kind.file) = false from rfl, path_addAll hall]
  simp

/-! ### Paths that were read -/

theorem splitPath_chars (s : List Char) :
    ∀ u ∈ (splitPath true s).1, ∀ c ∈ u, c ≠ '/' ∧ c ≠ '\\' := by
  induction s with
  | nil => simp [splitPath]
  | cons c s ih =>
    rcases hp : splitPath true s with ⟨found, after⟩
    rw [hp] at ih
    simp only [splitPath, hp]
    split
    · simp
    · split
      · exact List.forall_mem_cons.mpr ⟨fun c h => absurd h List.not_mem_nil, ih⟩
      · next hsep =>
        have hc : c ≠ '/' ∧ c ≠ '\\' := by simpa using hsep
        cases found with
        | nil => simpa using hc
        | cons u more =>
          rw [List.forall_mem_cons] at ih
          exact List.forall_mem_cons.mpr ⟨List.forall_mem_cons.mpr ⟨hc, ih.1⟩, ih.2⟩

/-- An encoded text without separators is a segment, unless it is made of dots. -/
theorem isSegment_encode (hs : ∀ c ∈ s, c ≠ '/' ∧ c ≠ '\\')
    (h1 : isSingleDot (encode pathSet s) = false) (h2 : isDoubleDot (encode pathSet s) = false) :
    IsSegment (encode pathSet s) := by
  refine ⟨?_, h1, h2⟩
  intro c hc
  rcases mem_encode hc with ⟨hcs, hlt, hout⟩ | rfl | ⟨k, hk, rfl⟩
  · exact isPathChar_iff.mpr ⟨⟨hlt, hout⟩, hs c hcs⟩
  · decide
  · have hdigit : ∀ k < 16, isPathChar (hexUpper k) := by decide
    exact hdigit k hk

/-- What is added to a path of segments leaves it one. -/
theorem isSegment_add {w : Walk} (hw : ∀ s ∈ w.path, IsSegment s) (last : Bool)
    (hs : ∀ c ∈ s, c ≠ '/' ∧ c ≠ '\\') : ∀ u ∈ (w.add false last s).path, IsSegment u := by
  have hclosed : ∀ c ∈ closed s, c ≠ '/' ∧ c ≠ '\\' :=
    fun c hc => hs c (List.mem_filter.mp hc).1
  have hopen (path : List (List Char)) (hpath : ∀ u ∈ path, IsSegment u) :
      ∀ u ∈ (if last then [] :: path else path), IsSegment u := by
    split
    · exact List.forall_mem_cons.mpr ⟨isSegment_nil, hpath⟩
    · exact hpath
  simp only [Walk.add, Bool.false_and, Bool.false_eq_true, if_false]
  split
  · refine hopen _ ?_
    split
    · simp
    · next top below hpath =>
      rw [hpath, List.forall_mem_cons] at hw
      split
      · exact List.forall_mem_cons.mpr hw
      · exact hw.2
  · next hdouble =>
    split
    · exact hopen _ hw
    · next hsingle =>
      rw [List.forall_mem_cons]
      exact ⟨isSegment_encode hclosed (Bool.eq_false_iff.mpr hsingle)
        (Bool.eq_false_iff.mpr hdouble), hw⟩

theorem isSegment_addAll {raw : List (List Char)} {w : Walk} (hw : ∀ s ∈ w.path, IsSegment s)
    (hraw : ∀ s ∈ raw, ∀ c ∈ s, c ≠ '/' ∧ c ≠ '\\') :
    ∀ u ∈ (Walk.addAll false w raw).path, IsSegment u := by
  induction raw generalizing w with
  | nil => exact hw
  | cons s raw ih =>
    rw [List.forall_mem_cons] at hraw
    exact ih (isSegment_add hw _ hraw.1) hraw.2

/-- A path that was read consists of segments. -/
theorem isSegment_pathOf (s : List Char) : ∀ u ∈ (pathOf .web s).1, IsSegment u.toList := by
  intro u hu
  simp only [pathOf, readPath, List.mem_map, List.mem_reverse] at hu
  obtain ⟨v, hv, rfl⟩ := hu
  rw [String.toList_ofList]
  exact isSegment_addAll (by simp) (splitPath_chars s) v hv

end ImageBot.Url
