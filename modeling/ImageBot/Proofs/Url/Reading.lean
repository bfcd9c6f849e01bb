import ImageBot.Proofs.Url.Authority
import ImageBot.Proofs.Url.Path
/-!
# Reading a web URL again

The text of a web URL, when it is read, gives a URL with the same path. What follows is
what is true of every web URL that was read, and is enough for this.
-/
namespace ImageBot.Url

open Text

/-- A text without anything that is cut off or dropped when a URL is read. -/
def IsVisible (s : List Char) : Prop := ∀ c ∈ s, 0x20 < c.toNat

instance (s : List Char) : Decidable (IsVisible s) :=
  List.decidableBAll (fun c : Char => 0x20 < c.toNat) s

/-- What is true of a web URL that was read. -/
structure IsWeb (u : Url) : Prop where
  scheme : u.scheme = "http" ∨ u.scheme = "https"
  authority : ∃ a, u.authority = some a ∧ a.host.text.toList ≠ [] ∧ AllInner a.text.toList
  path : ∃ first rest, u.path = .segments (first :: rest) ∧
    ∀ s ∈ first :: rest, IsSegment s.toList
  query : ∀ q ∈ u.query, IsVisible q.toList
  fragment : ∀ f ∈ u.fragment, IsVisible f.toList

section

variable {s rest : List Char} {scheme : String} {u : Url}

theorem isSpecial_of_web (h : scheme = "http" ∨ scheme = "https") :
    (Kind.of scheme).isSpecial = true := by
  rcases h with rfl | rfl <;> decide

theorem isVisible_encode {set : CharSet}
    (hset : ∀ c : Char, c.toNat < 0x80 → set c.toNat = false → 0x20 < c.toNat) (s : List Char) :
    IsVisible (encode set s) :=
  forall_mem_encode hset (by decide) (by decide)

/-- Query and fragment are encoded. -/
theorem isVisible_queryAndFragment (s : List Char) :
    (∀ q ∈ (queryAndFragment true s).1, IsVisible q.toList) ∧
      ∀ f ∈ (queryAndFragment true s).2, IsVisible f.toList := by
  have hquery : ∀ c : Char, c.toNat < 0x80 → specialQuerySet c.toNat = false → 0x20 < c.toNat :=
    Utf8.forall_ascii (by decide)
  have hfragment : ∀ c : Char, c.toNat < 0x80 → fragmentSet c.toNat = false → 0x20 < c.toNat :=
    Utf8.forall_ascii (by decide)
  have hencoded {set : CharSet} (hset : ∀ c : Char, c.toNat < 0x80 → set c.toNat = false →
      0x20 < c.toNat) {rest : List Char} {t : String}
      (ht : t ∈ some (String.ofList (encode set rest))) : IsVisible t.toList := by
    rw [Option.mem_some_iff] at ht
    rw [← ht, String.toList_ofList]
    exact isVisible_encode hset _
  unfold queryAndFragment
  simp only [if_true]
  split
  · refine ⟨fun q hq => hencoded hquery hq, ?_⟩
    intro f hf
    split at hf
    · exact hencoded hfragment hf
    · exact absurd hf (Option.not_mem_none f)
  · refine ⟨fun q hq => absurd hq (Option.not_mem_none q), ?_⟩
    intro f hf
    split at hf
    · exact hencoded hfragment hf
    · exact absurd hf (Option.not_mem_none f)

theorem pathOf_ne_nil (s : List Char) : (pathOf .web s).1 ≠ [] := by
  have hadd (w : Walk) (s : List Char) : (w.add false true s).path ≠ [] := by
    simp only [Walk.add, Bool.false_and, Bool.false_eq_true, if_false, if_true]
    split
    · simp
    · split <;> simp
  have haddAll (raw : List (List Char)) (hraw : raw ≠ []) (w : Walk) :
      (Walk.addAll false w raw).path ≠ [] := by
    induction raw generalizing w with
    | nil => exact absurd rfl hraw
    | cons s raw ih =>
      rw [Walk.addAll]
      cases raw with
      | nil => exact hadd w s
      | cons t raw => exact ih (by simp) _
  have hsplit : (splitPath true s).1 ≠ [] := by
    cases s with
    | nil => simp [splitPath]
    | cons c s =>
      simp only [splitPath]
      split
      · simp
      · split
        · simp
        · split <;> simp
  simp only [pathOf, readPath, Kind.isSpecial, ne_eq, List.map_eq_nil_iff, List.reverse_eq_nil_iff]
  exact haddAll _ hsplit _

/-- The text of a path behind an authority, without its first slash. -/
def behindSlash (s : List Char) : List Char :=
  match s with
  | '/' :: more => more
  | '\\' :: more => more
  | rest => rest

/-- A web URL has an authority, and a path behind it. -/
theorem web_eq_ok (h : web scheme s = .ok u) :
    ∃ found rest, readAuthority scheme (s.dropWhile isSlash) = .ok (found, rest) ∧
      u = finish scheme (some found) (.segments (pathOf .web (behindSlash rest)).1)
        (pathOf .web (behindSlash rest)).2 := by
  rw [web, onServer] at h
  simp only [bind, Except.bind, pure, Except.pure] at h
  split at h
  · cases h
  · next found hfound => exact ⟨found.1, found.2, hfound, (Except.ok.inj h).symm⟩

/-- What was read as a web URL is one. -/
theorem isWeb_of_web (hs : scheme = "http" ∨ scheme = "https") (h : web scheme s = .ok u) :
    u.IsWeb := by
  have hspecial := isSpecial_of_web hs
  obtain ⟨found, rest, hfound, rfl⟩ := web_eq_ok h
  have hlast := isVisible_queryAndFragment (pathOf .web (behindSlash rest)).2
  refine ⟨hs, ⟨found, rfl, text_of_readAuthority hspecial hfound⟩, ?_, ?_, ?_⟩
  · cases hpath : (pathOf .web (behindSlash rest)).1 with
    | nil => exact absurd hpath (pathOf_ne_nil _)
    | cons first others =>
      refine ⟨first, others, rfl, ?_⟩
      rw [← hpath]
      exact isSegment_pathOf _
  · simp only [finish, hspecial]
    exact hlast.1
  · simp only [finish, hspecial]
    exact hlast.2

theorem scheme_file (h : file s = .ok u) : u.scheme = "file" := by
  rw [file] at h
  split at h
  · cases h
    rfl
  · split at h
    · cases h
      rfl
    · simp only at h
      split at h
      · cases h
        rfl
      · split at h
        · cases h
          rfl
        · simp only [bind, Except.bind, pure, Except.pure] at h
          split at h
          · cases h
          · split at h <;> (cases h; rfl)

theorem scheme_other (h : other scheme s = .ok u) : u.scheme = scheme := by
  unfold other at h
  split at h
  · simp only [bind, Except.bind, pure, Except.pure] at h
    split at h
    · cases h
    · split at h
      · cases h
        rfl
      · split at h <;> (cases h; rfl)
  · cases h
    rfl
  · cases h
    rfl

/-- A URL with a web scheme was read as a web URL behind it. -/
theorem exists_web_of_parse {text : String} (hu : u.scheme = "http" ∨ u.scheme = "https")
    (h : Url.parse text = .ok u) : ∃ rest, web u.scheme rest = .ok u := by
  rw [Url.parse] at h
  simp only at h
  split at h
  · cases h
  · split at h
    · cases h
    · split at h
      · cases h
      · next name rest hname =>
        split at h
        · obtain ⟨found, behind, -, hfinish⟩ := web_eq_ok h
          have hscheme : u.scheme = String.ofList name := by
            rw [hfinish]
            rfl
          exact ⟨rest, hscheme ▸ h⟩
        · rw [scheme_file h] at hu
          exact absurd hu (by decide)
        · next hkind =>
          rw [← scheme_other h] at hkind
          rcases hu with hu | hu <;> (rw [hu] at hkind; exact absurd hkind (by decide))

/-- A URL with a web scheme was read as a web URL. -/
theorem isWeb_of_parse {text : String} (hu : u.scheme = "http" ∨ u.scheme = "https")
    (h : Url.parse text = .ok u) : u.IsWeb := by
  obtain ⟨rest, hrest⟩ := exists_web_of_parse hu h
  exact isWeb_of_web hu hrest

end

/-! ### The text of a web URL -/

/-- The text behind the path of a URL. -/
def tail (u : Url) : List Char :=
  (u.query.elim [] fun q => '?' :: q.toList) ++ u.fragment.elim [] fun f => '#' :: f.toList

theorem endsPath_tail (u : Url) : EndsPath u.tail := by
  intro c hc
  rw [tail] at hc
  cases hq : u.query with
  | some q =>
    rw [hq] at hc
    exact .inl (Option.some.inj hc).symm
  | none =>
    rw [hq] at hc
    cases hf : u.fragment with
    | some f =>
      rw [hf] at hc
      exact .inr (Option.some.inj hc).symm
    | none =>
      rw [hf] at hc
      cases hc

theorem toList_text_segments (segments : List String) :
    (Path.segments segments).text.toList = (segments.map String.toList).flatMap ('/' :: ·) := by
  simp [Path.text, String.toList_join, List.flatMap_map]

/-- The parts of the text of a URL with an authority. -/
theorem toList_text {u : Url} {a : Authority} (ha : u.authority = some a) :
    u.text.toList = u.scheme.toList ++ ':' :: '/' :: '/' :: (a.text.toList ++
      (u.path.text.toList ++ u.tail)) := by
  rw [text, tail]
  rw [ha]
  cases u.query <;> cases u.fragment <;> simp

/-- A text without anything that is cut off stays as it is. -/
theorem trim_eq_self {s : List Char} (h : IsVisible s) : trim s = s := by
  have hdrop (t : List Char) (ht : IsVisible t) :
      t.dropWhile (fun c : Char => decide (c.toNat ≤ 0x20)) = t := by
    cases t with
    | nil => rfl
    | cons c t =>
      have hc := ht c List.mem_cons_self
      exact List.dropWhile_cons_of_neg (by simpa using hc)
  unfold trim
  simp only
  rw [hdrop s h, hdrop s.reverse fun c hc => h c (List.mem_reverse.mp hc), List.reverse_reverse]

theorem closed_eq_self {s : List Char} (h : IsVisible s) : closed s = s := by
  apply List.filter_eq_self.mpr
  intro c hc
  have hgap (d : Char) (hd : d.toNat ≤ 0x20) : (c == d) = false := by
    rw [beq_eq_false_iff_ne]
    rintro rfl
    exact absurd (h c hc) (Nat.not_lt.mpr hd)
  rw [isGap, hgap '\t' (by decide), hgap '\n' (by decide), hgap '\r' (by decide)]
  rfl

/-- Behind a web scheme and its colon a web URL is read. -/
theorem parse_eq_web {text : String} {scheme : String} {s : List Char}
    (hs : scheme = "http" ∨ scheme = "https") (hv : IsVisible s)
    (htext : text.toList = scheme.toList ++ ':' :: s) : Url.parse text = web scheme s := by
  have hscheme : IsVisible (scheme.toList ++ [':']) := by rcases hs with rfl | rfl <;> decide
  have hall : IsVisible (scheme.toList ++ ':' :: s) := by
    rw [List.append_cons]
    exact List.forall_mem_append.mpr ⟨hscheme, hv⟩
  rw [Url.parse]
  simp only [htext, trim_eq_self hall, closed_eq_self hall]
  rcases hs with rfl | rfl <;> rfl

theorem IsSegment.isVisible {s : List Char} (h : IsSegment s) : IsVisible s := by
  have hset : ∀ c : Char, c.toNat < 0x80 → pathSet c.toNat = false → 0x20 < c.toNat :=
    Utf8.forall_ascii (by decide)
  intro c hc
  have hplain := (isPathChar_iff.mp (h.chars c hc)).1
  exact hset c hplain.1 hplain.2

/-- Nothing in the text of a web URL is cut off or dropped. -/
theorem IsWeb.isVisible {u : Url} {a : Authority} (hu : u.IsWeb) (ha : AllInner a.text.toList) :
    IsVisible ('/' :: '/' :: (a.text.toList ++ (u.path.text.toList ++ u.tail))) := by
  obtain ⟨first, others, hpath, hsegments⟩ := hu.path
  have hauthority : IsVisible a.text.toList := by
    intro c hc
    have hinner := ha c hc
    rw [isInner, Bool.and_eq_true, decide_eq_true_eq] at hinner
    exact hinner.1
  have htext : IsVisible u.path.text.toList := by
    rw [hpath, toList_text_segments]
    intro c hc
    obtain ⟨s, hs, hc⟩ := List.mem_flatMap.mp hc
    obtain ⟨t, ht, rfl⟩ := List.mem_map.mp hs
    rcases List.mem_cons.mp hc with rfl | hc
    · decide
    · exact (hsegments t ht).isVisible c hc
  have htail : IsVisible u.tail := by
    refine List.forall_mem_append.mpr ⟨?_, ?_⟩
    · cases hq : u.query with
      | none => exact fun c hc => absurd hc List.not_mem_nil
      | some q => exact List.forall_mem_cons.mpr ⟨by decide, hu.query q hq⟩
    · cases hf : u.fragment with
      | none => exact fun c hc => absurd hc List.not_mem_nil
      | some f => exact List.forall_mem_cons.mpr ⟨by decide, hu.fragment f hf⟩
  refine List.forall_mem_cons.mpr ⟨by decide, List.forall_mem_cons.mpr ⟨by decide, ?_⟩⟩
  exact List.forall_mem_append.mpr ⟨hauthority, List.forall_mem_append.mpr ⟨htext, htail⟩⟩

/-- Behind the slashes in the text of a URL with segments stand its authority and its path. -/
theorem behind_slashes {u : Url} {a : Authority} (hne : a.host.text.toList ≠ [])
    (ha : AllInner a.text.toList) {first : String} {others : List String}
    (hpath : u.path = .segments (first :: others)) :
    ('/' :: '/' :: (a.text.toList ++ (u.path.text.toList ++ u.tail))).dropWhile isSlash =
      a.text.toList ++ '/' ::
        (first.toList ++ (others.map String.toList).flatMap ('/' :: ·) ++ u.tail) := by
  have htext : u.path.text.toList ++ u.tail = '/' :: (first.toList ++
      (others.map String.toList).flatMap ('/' :: ·) ++ u.tail) := by
    rw [hpath, toList_text_segments, List.map_cons, List.flatMap_cons]
    simp
  rw [List.dropWhile_cons_of_pos (by decide), List.dropWhile_cons_of_pos (by decide), htext]
  cases hchars : a.text.toList with
  | nil => exact absurd hchars (Authority.text_ne_nil hne)
  | cons c chars =>
    have hc : isInner c := ha c (hchars ▸ List.mem_cons_self)
    refine List.dropWhile_cons_of_neg ?_
    rw [isSlash, Bool.or_eq_true, beq_iff_eq, beq_iff_eq]
    rintro (rfl | rfl) <;> exact absurd hc (by decide)

/-- A web URL is read from its text with the path that it has. -/
theorem IsWeb.path_of_parse {u w : Url} (hu : u.IsWeb) (h : Url.parse u.text = .ok w) :
    w.scheme = u.scheme ∧ w.path = u.path := by
  obtain ⟨a, ha, hne, hinner⟩ := hu.authority
  obtain ⟨first, others, hpath, hsegments⟩ := hu.path
  rw [parse_eq_web hu.scheme (hu.isVisible hinner) (toList_text ha)] at h
  obtain ⟨found, rest, hfound, rfl⟩ := web_eq_ok h
  refine ⟨rfl, ?_⟩
  rw [behind_slashes hne hinner hpath] at hfound
  have hrest := readAuthority_append hinner hfound
  have hothers : ∀ s ∈ others.map String.toList, IsSegment s := by
    intro s hs
    obtain ⟨t, ht, rfl⟩ := List.mem_map.mp hs
    exact hsegments t (List.mem_cons_of_mem _ ht)
  have hread := pathOf_join (hsegments first List.mem_cons_self) hothers (endsPath_tail u)
  simp only [finish, hrest, behindSlash, hread, hpath]
  simp

end ImageBot.Url
