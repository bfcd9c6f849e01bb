import ImageBot.Proofs.Url.Reading
import ImageBot.Url.Endpoint
/-!
# Segments that name something

A segment that is added to a path is read back as the text it was given, unless there is a
tab or line end in the text, which is dropped, or the text is made of dots.
-/
namespace ImageBot.Url

open Text

/-- A text that a segment can stand for. -/
structure IsNameable (s : String) : Prop where
  gaps : ∀ c ∈ s.toList, isGap c = false
  dot : s ≠ "."
  dots : s ≠ ".."

instance (s : String) : Decidable (IsNameable s) :=
  let _ := List.decidableBAll (fun c => isGap c = false) s.toList
  decidable_of_iff ((∀ c ∈ s.toList, isGap c = false) ∧ s ≠ "." ∧ s ≠ "..")
    ⟨fun ⟨hg, hd, hdd⟩ => ⟨hg, hd, hdd⟩, fun h => ⟨h.gaps, h.dot, h.dots⟩⟩

/-- The segment of a web URL that stands for a text. -/
def segmentOf (s : String) : String := String.ofList (encode specialSegmentSet s.toList)

/-- The segments of a path without the empty one that may be at its end. -/
def ownSegments (path : List String) : List String :=
  if path.getLast? = some "" then path.dropLast else path

/-- The path that segments are added to, which the path `/` leaves empty. -/
def kept (path : List String) : List String := if path = [""] then [] else path

variable {s : String} {path : List String}

theorem decodeBytes_encode_segment (s : List Char) :
    decodeBytes (Utf8.encode (encode specialSegmentSet s)) = Utf8.encode s := by
  have h := @decodeBytes_encode specialSegmentSet (by decide) s []
  rwa [List.append_nil, decodeBytes, List.append_nil] at h

/-- A segment is read back as what it stands for. -/
theorem decodeBytes_segmentOf (s : String) :
    decodeBytes (Utf8.bytes (segmentOf s)) = Utf8.bytes s := by
  rw [Utf8.bytes, segmentOf, String.toList_ofList, decodeBytes_encode_segment]
  rfl

/-- However a dot is written, it is one. -/
theorem decodeBytes_dot {dot : List Char} (h : dot ∈ [['.'], ['%', '2', 'e'], ['%', '2', 'E']])
    (rest : List UInt8) : decodeBytes (Utf8.encode dot ++ rest) = 0x2E :: decodeBytes rest := by
  simp only [List.mem_cons, List.not_mem_nil, or_false] at h
  rcases h with rfl | rfl | rfl
  · exact decodeBytes_cons (by decide) rest
  · rw [show Utf8.encode ['%', '2', 'e'] = [0x25, 0x32, 0x65] from by decide]
    simp [decodeBytes, hexValue?]
  · rw [show Utf8.encode ['%', '2', 'E'] = [0x25, 0x32, 0x45] from by decide]
    simp [decodeBytes, hexValue?]

theorem eq_dot_of_isSingleDot {s : List Char} (h : isSingleDot (encode specialSegmentSet s)) :
    s = ['.'] := by
  have hmem : encode specialSegmentSet s ∈ [['.'], ['%', '2', 'e'], ['%', '2', 'E']] := by
    simpa [isSingleDot, or_assoc] using h
  have hdot := decodeBytes_dot hmem []
  rw [List.append_nil, decodeBytes_encode_segment, decodeBytes] at hdot
  exact Utf8.encode_injective hdot

theorem eq_dots_of_isDoubleDot {s : List Char} (h : isDoubleDot (encode specialSegmentSet s)) :
    s = ['.', '.'] := by
  simp only [isDoubleDot, List.any_eq_true, beq_iff_eq] at h
  obtain ⟨a, ha, b, hb, hab⟩ := h
  have hdots := decodeBytes_encode_segment s
  rw [hab, Utf8.encode_append, decodeBytes_dot ha, ← List.append_nil (Utf8.encode b),
    decodeBytes_dot hb, decodeBytes] at hdots
  exact (Utf8.encode_injective hdots.symm)

/-- The characters that are kept of a segment. -/
theorem filter_eq_closed (s : List Char) :
    s.filter (fun c => c != '\t' && c != '\n' && c != '\r') = closed s := by
  apply List.filter_congr
  intro c _
  cases h1 : c == '\t' <;> cases h2 : c == '\n' <;> cases h3 : c == '\r' <;>
    simp [isGap, bne, h1, h2, h3]

theorem IsNameable.closed_eq (h : IsNameable s) : closed s.toList = s.toList :=
  List.filter_eq_self.mpr fun c hc => by rw [h.gaps c hc]; rfl

theorem isSegment_encode_special {s : List Char}
    (h1 : isSingleDot (encode specialSegmentSet s) = false)
    (h2 : isDoubleDot (encode specialSegmentSet s) = false) :
    IsSegment (encode specialSegmentSet s) := by
  have hset : ∀ c : Char, c.toNat < 0x80 → specialSegmentSet c.toNat = false → isPathChar c :=
    Utf8.forall_ascii (by decide)
  exact ⟨forall_mem_encode hset (by decide) (by decide), h1, h2⟩

theorem pushSegment_dots (h : s = "." ∨ s = "..") (path : List String) :
    pushSegment true path s = path := by
  rw [pushSegment, if_pos h]

/-- What is added for a text that is no dots as it is written. -/
theorem pushSegment_of_ne (h : ¬(s = "." ∨ s = "..")) (path : List String) :
    pushSegment true path s =
      if isDoubleDot (encode specialSegmentSet (closed s.toList)) then (kept path).dropLast ++ [""]
      else if isSingleDot (encode specialSegmentSet (closed s.toList)) then kept path ++ [""]
      else kept path ++ [String.ofList (encode specialSegmentSet (closed s.toList))] := by
  simp only [pushSegment, h, if_false, if_true, filter_eq_closed, beq_iff_eq]
  rfl

theorem IsNameable.single (h : IsNameable s) :
    isSingleDot (encode specialSegmentSet s.toList) = false :=
  Bool.eq_false_iff.mpr fun hd => h.dot (String.toList_injective (eq_dot_of_isSingleDot hd))

theorem IsNameable.double (h : IsNameable s) :
    isDoubleDot (encode specialSegmentSet s.toList) = false :=
  Bool.eq_false_iff.mpr fun hd => h.dots (String.toList_injective (eq_dots_of_isDoubleDot hd))

/-- A text that a segment can stand for is added as its segment. -/
theorem pushSegment_eq (h : IsNameable s) (path : List String) :
    pushSegment true path s = kept path ++ [segmentOf s] := by
  rw [pushSegment_of_ne (not_or.mpr ⟨h.dot, h.dots⟩), h.closed_eq, h.single, h.double]
  rfl

theorem kept_of_two_le (h : 2 ≤ path.length) : kept path = path := by
  refine if_neg ?_
  rintro rfl
  exact absurd h (by decide)

theorem kept_eq_self (h : kept path ≠ []) : kept path = path := by
  rw [kept] at h ⊢
  split
  · next hroot => exact absurd (if_pos hroot) h
  · rfl

/-- Only a text that a segment can stand for is added as a segment that is read back as it. -/
theorem isNameable_of_pushSegment {r : String} (hr : decodeBytes (Utf8.bytes r) = Utf8.bytes s)
    (hpath : kept path ≠ []) (h : pushSegment true path s = kept path ++ [r]) :
    IsNameable s := by
  have hkept := kept_eq_self hpath
  have hne : ¬(s = "." ∨ s = "..") := by
    intro hd
    rw [pushSegment_dots hd, hkept] at h
    exact absurd h (by simp)
  obtain ⟨hdot, hdots⟩ := not_or.mp hne
  rw [pushSegment_of_ne hne] at h
  split at h
  · have hlength := congrArg List.length h
    have hpos : 0 < (kept path).length := List.length_pos_iff.mpr hpath
    simp only [List.length_append, List.length_dropLast, List.length_singleton] at hlength
    omega
  · split at h
    · have hempty : r = "" := by simpa using h.symm
      rw [hempty, show Utf8.bytes "" = [] from rfl, decodeBytes] at hr
      obtain rfl : "" = s := Utf8.bytes_injective hr
      exact ⟨by simp, by decide, by decide⟩
    · have hsegment : r = segmentOf (String.ofList (closed s.toList)) := by
        rw [segmentOf, String.toList_ofList]
        simpa using h.symm
      rw [hsegment, decodeBytes_segmentOf] at hr
      have hclosed : closed s.toList = s.toList := by
        have hs := congrArg String.toList (Utf8.bytes_injective hr)
        rwa [String.toList_ofList] at hs
      refine ⟨?_, hdot, hdots⟩
      intro c hc
      have hgap := List.filter_eq_self.mp hclosed c hc
      rwa [Bool.not_eq_true'] at hgap

/-- A text that no segment can stand for shares what is added for it with another text. -/
theorem exists_pushSegment_eq (h : ¬IsNameable s) :
    ∃ other, other ≠ s ∧ ∀ path, pushSegment true path other = pushSegment true path s := by
  by_cases hd : s = "." ∨ s = ".."
  · rcases hd with rfl | rfl
    · exact ⟨"..", by decide, fun path => rfl⟩
    · exact ⟨".", by decide, fun path => rfl⟩
  · obtain ⟨hdot, hdots⟩ := not_or.mp hd
    have hlonger : (s ++ "\t").toList = s.toList ++ ['\t'] := by
      rw [String.toList_append]
      rfl
    have hother : ¬(s ++ "\t" = "." ∨ s ++ "\t" = "..") := by
      rintro (heq | heq) <;>
      · have hlast := congrArg (fun t => t.toList.getLast?) heq
        simp only [hlonger, List.getLast?_append, List.getLast?_singleton, Option.some_or] at hlast
        exact absurd hlast (by decide)
    refine ⟨s ++ "\t", fun heq => ?_, fun path => ?_⟩
    · have hlength := congrArg (fun t => t.toList.length) heq
      simp [hlonger] at hlength
    · have hclosed : closed (s ++ "\t").toList = closed s.toList := by
        rw [hlonger, closed, List.filter_append]
        exact List.append_nil _
      rw [pushSegment_of_ne hother, pushSegment_of_ne hd, hclosed]

/-- A path of segments stays one. -/
theorem isSegment_pushSegment (hpath : ∀ u ∈ path, IsSegment u.toList) (s : String) :
    ∀ u ∈ pushSegment true path s, IsSegment u.toList := by
  have hkept : ∀ u ∈ kept path, IsSegment u.toList := by
    rw [kept]
    split
    · simp
    · exact hpath
  have hempty : ∀ u ∈ [""], IsSegment u.toList := List.forall_mem_singleton.mpr isSegment_nil
  by_cases hd : s = "." ∨ s = ".."
  · rw [pushSegment_dots hd]
    exact hpath
  · rw [pushSegment_of_ne hd]
    split
    · refine List.forall_mem_append.mpr ⟨?_, hempty⟩
      intro u hu
      apply hkept
      exact List.dropLast_subset _ hu
    · next hdouble =>
      split
      · exact List.forall_mem_append.mpr ⟨hkept, hempty⟩
      · next hsingle =>
        refine List.forall_mem_append.mpr ⟨hkept, List.forall_mem_singleton.mpr ?_⟩
        rw [String.toList_ofList]
        exact isSegment_encode_special (Bool.eq_false_iff.mpr hsingle)
          (Bool.eq_false_iff.mpr hdouble)

theorem pushSegment_ne_nil (hpath : path ≠ []) (s : String) : pushSegment true path s ≠ [] := by
  by_cases hd : s = "." ∨ s = ".."
  · rwa [pushSegment_dots hd]
  · rw [pushSegment_of_ne hd]
    split
    · simp
    · split <;> simp

/-- No segment takes others away for good. -/
theorem length_kept_le (path : List String) (s : String) :
    (kept path).length ≤ (pushSegment true path s).length := by
  have hpath : (kept path).length ≤ path.length := by
    rw [kept]
    split <;> simp
  by_cases hd : s = "." ∨ s = ".."
  · rwa [pushSegment_dots hd]
  · rw [pushSegment_of_ne hd]
    split
    · simp only [List.length_append, List.length_dropLast, List.length_singleton]
      omega
    · split <;> simp

/-- A text that is its own segment. -/
structure IsName (s : String) : Prop extends IsNameable s where
  segment : segmentOf s = s
  nonempty : s ≠ ""

instance (s : String) : Decidable (IsName s) :=
  decidable_of_iff (IsNameable s ∧ segmentOf s = s ∧ s ≠ "")
    ⟨fun ⟨hname, hs, hn⟩ => ⟨hname, hs, hn⟩, fun h => ⟨h.toIsNameable, h.segment, h.nonempty⟩⟩

theorem IsName.encode_eq (h : IsName s) : encode specialSegmentSet s.toList = s.toList := by
  have hsegment := congrArg String.toList h.segment
  rwa [segmentOf, String.toList_ofList] at hsegment

/-- A path that ends with a name is kept. -/
theorem kept_append_name (h : IsName s) (path : List String) :
    kept (path ++ [s]) = path ++ [s] := by
  refine if_neg fun heq => h.nonempty ?_
  have hlast := congrArg List.getLast? heq
  simpa using hlast

theorem kept_foldl_pushSegment {names : List String} (hn : ∀ s ∈ names, IsName s)
    (path : List String) : kept (names.foldl (pushSegment true) path) = kept path ++ names := by
  induction names generalizing path with
  | nil => exact (List.append_nil _).symm
  | cons s names ih =>
    rw [List.forall_mem_cons] at hn
    rw [List.foldl_cons, ih hn.2, pushSegment_eq hn.1.toIsNameable, hn.1.segment,
      kept_append_name hn.1, List.append_assoc]
    rfl

/-- Names are added to a path as they are. -/
theorem foldl_pushSegment {names : List String} (hn : ∀ s ∈ names, IsName s) (hne : names ≠ [])
    (path : List String) : names.foldl (pushSegment true) path = kept path ++ names := by
  have hkept := kept_foldl_pushSegment hn path
  rw [← hkept, kept_eq_self (by simp [hkept, hne])]

theorem dropEmptyEnd_ne_nil (hpath : path ≠ []) : dropEmptyEnd path ≠ [] := by
  match path with
  | [] => exact absurd rfl hpath
  | [s] => simp [dropEmptyEnd]
  | s :: t :: rest =>
    simp only [dropEmptyEnd]
    split <;> simp

theorem mem_dropEmptyEnd (h : s ∈ dropEmptyEnd path) : s ∈ path := by
  match path with
  | [] => exact h
  | [t] => exact h
  | t :: u :: rest =>
    simp only [dropEmptyEnd] at h
    split at h
    · exact List.dropLast_subset _ h
    · exact h

/-- A path without empty segments, except for one at its end, keeps the others. -/
theorem kept_dropEmptyEnd (hpath : ∀ s ∈ path.dropLast, s ≠ "") :
    kept (dropEmptyEnd path) = ownSegments path := by
  match path with
  | [] => rfl
  | [s] => by_cases hs : s = "" <;> simp [kept, dropEmptyEnd, ownSegments, hs]
  | s :: t :: rest =>
    have hs : s ≠ "" := hpath s (by simp)
    by_cases hlast : (t :: rest).getLast? = some "" <;>
      simp [kept, dropEmptyEnd, ownSegments, hlast, hs]

section

variable {u v : Url} {segments : List String}

/-- A URL below a web URL has its segments added. -/
theorem below_eq_ok (hu : u.IsWeb) {list : List String} (hpath : u.path = .segments list) :
    u.below segments =
      .ok { u with path := .segments (segments.foldl (pushSegment true) (dropEmptyEnd list)) } := by
  rw [below, hpath]
  simp only [isSpecial_of_web hu.scheme]

/-- A URL below a web URL is one. -/
theorem IsWeb.below (hu : u.IsWeb) (h : u.below segments = .ok v) : v.IsWeb := by
  obtain ⟨first, rest, hpath, hsegments⟩ := hu.path
  have hfold (segments list : List String) (hne : list ≠ [])
      (hlist : ∀ s ∈ list, IsSegment s.toList) :
      segments.foldl (pushSegment true) list ≠ [] ∧
        ∀ s ∈ segments.foldl (pushSegment true) list, IsSegment s.toList := by
    induction segments generalizing list with
    | nil => exact ⟨hne, hlist⟩
    | cons s segments ih =>
      exact ih _ (pushSegment_ne_nil hne s) (isSegment_pushSegment hlist s)
  rw [below_eq_ok hu hpath] at h
  cases h
  obtain ⟨hne, hall⟩ := hfold segments (dropEmptyEnd (first :: rest))
    (dropEmptyEnd_ne_nil (by simp)) fun s hs => hsegments s (mem_dropEmptyEnd hs)
  obtain ⟨first', rest', hlist⟩ := List.exists_cons_of_ne_nil hne
  exact ⟨hu.scheme, hu.authority, ⟨first', rest', by rw [hlist], by rwa [← hlist]⟩, hu.query,
    hu.fragment⟩

end

end ImageBot.Url
