import ImageBot.Proofs.Http.Comparison
import ImageBot.Proofs.Url.Rereading
/-!
# What the end of a path does not decide

A URL is read from left to right. Whether a text can be read, and on which server its URL is, is
decided in front of the last slash of its path; a name behind it makes no difference, unless it
could be the letter of a drive.
-/
namespace ImageBot.Url

open Http Text

/-- Two URLs on one server. -/
structure SameServer (u v : Url) : Prop where
  scheme : u.scheme = v.scheme
  authority : u.authority = v.authority

variable {p m y y' : List Char} {x : Char} {scheme : String}

/-! ### Behind the scheme -/

/-- What is behind a character that is kept is kept as well. -/
theorem exists_dropWhile_append {f : Char → Bool} {c : Char} (hc : f c = false) (p : List Char) :
    ∃ q, ∀ z, (p ++ c :: z).dropWhile f = q ++ c :: z := by
  refine ⟨p.dropWhile f, fun z => ?_⟩
  induction p with
  | nil => simp [hc]
  | cons d p ih => by_cases hd : f d <;> simp [hd, ih]

theorem web_matches (hx : x ≠ '/') (hx' : x ≠ '\\') :
    Matches SameServer (web scheme (p ++ x :: '/' :: y)) (web scheme (p ++ x :: '/' :: y')) := by
  obtain ⟨q, hq⟩ := exists_dropWhile_append (f := isSlash) (c := x) (by simp [isSlash, hx, hx']) p
  obtain ⟨found, -, hfound⟩ := exists_readAuthority_append scheme (q ++ [x])
  simp only [List.append_assoc, List.singleton_append] at hfound
  rw [web, web, onServer, onServer, hq, hq, hfound, hfound]
  cases found with
  | error f => exact .error f
  | ok r => exact .ok ⟨rfl, rfl⟩

/-- Without two slashes there is no authority. -/
theorem other_eq_ok (scheme : String) {s : List Char} (hs : ∀ rest, s ≠ '/' :: '/' :: rest) :
    ∃ u, other scheme s = .ok u ∧ u.scheme = scheme ∧ u.authority = none := by
  unfold other
  split
  · next rest => exact absurd rfl (hs rest)
  · exact ⟨_, rfl, rfl, rfl⟩
  · exact ⟨_, rfl, rfl, rfl⟩

theorem other_matches (hx : x ≠ '/') :
    Matches SameServer (other scheme (p ++ x :: '/' :: y))
      (other scheme (p ++ x :: '/' :: y')) := by
  by_cases hp : ∃ q, p = '/' :: '/' :: q
  · obtain ⟨q, rfl⟩ := hp
    obtain ⟨found, -, hfound⟩ := exists_readAuthority_append scheme (q ++ [x])
    simp only [List.append_assoc, List.singleton_append] at hfound
    simp only [List.cons_append, other, hfound]
    cases found with
    | error f => exact .error f
    | ok r =>
      obtain ⟨authority, rest⟩ := r
      cases rest with
      | nil => exact .ok ⟨rfl, rfl⟩
      | cons c rest =>
        simp only [Except.map, List.cons_append, bind, Except.bind]
        split
        · exact .ok ⟨rfl, rfl⟩
        · exact .ok ⟨rfl, rfl⟩
  · have hfront (z : List Char) : ∀ rest, p ++ x :: z ≠ '/' :: '/' :: rest := by
      intro rest heq
      match p with
      | [] => exact hx (List.cons.inj heq).1
      | [c] => exact hx (List.cons.inj (List.cons.inj heq).2).1
      | c :: d :: q =>
        obtain ⟨hc, hmore⟩ := List.cons.inj heq
        have hd := (List.cons.inj hmore).1
        exact hp ⟨q, by rw [hc, hd]⟩
    obtain ⟨u, hu, hscheme, hauthority⟩ := other_eq_ok scheme (hfront ('/' :: y))
    obtain ⟨v, hv, hscheme', hauthority'⟩ := other_eq_ok scheme (hfront ('/' :: y'))
    rw [hu, hv]
    exact .ok ⟨hscheme.trans hscheme'.symm, hauthority.trans hauthority'.symm⟩

/-! ### Files -/

/-- A name at the end of a path that is no letter of a drive. -/
structure IsLastName (t : List Char) : Prop extends IsSegment t where
  colon : ':' ∉ t
  length : 2 < t.length

/-- What stands at the end of a URL: a last name, and what is behind the path. -/
def EndsUrl (y : List Char) : Prop := ∃ t back, y = t ++ back ∧ IsLastName t ∧ EndsPath back

/-- A slash is looked for behind gaps, and so found either before or at a character that is none
of these. -/
theorem behindSlash?_append {c : Char} (hc : isGap c = false) (p z : List Char) :
    behindSlash? (p ++ c :: z) = match p.dropWhile isGap with
      | [] => if c == '/' || c == '\\' then some z else none
      | d :: q => if d == '/' || d == '\\' then some (q ++ c :: z) else none := by
  have hdrop : (p ++ c :: z).dropWhile isGap = p.dropWhile isGap ++ c :: z := by
    induction p with
    | nil => simp [hc]
    | cons d p ih => by_cases hd : isGap d <;> simp [hd, ih]
  rw [behindSlash?, hdrop]
  cases p.dropWhile isGap <;> rfl

/-- A slash is found before a character that is none, or is not found. -/
theorem exists_behindSlash?_append (hx : x ≠ '/') (hx' : x ≠ '\\') (hgap : isGap x = false)
    (p : List Char) : (∀ z, behindSlash? (p ++ x :: z) = none) ∨
      ∃ q, ∀ z, behindSlash? (p ++ x :: z) = some (q ++ x :: z) := by
  simp only [behindSlash?_append hgap]
  cases p.dropWhile isGap with
  | nil =>
    left
    simp [hx, hx']
  | cons d q =>
    by_cases hd : (d == '/' || d == '\\') = true
    · right
      exact ⟨q, fun z => if_pos hd⟩
    · left
      exact fun z => if_neg hd

/-- What is behind a slash before another one ends with that. -/
theorem exists_behindSlash?_getD (p m : List Char) :
    ∃ q, ∀ y, (behindSlash? (p ++ '/' :: (m ++ '/' :: y))).getD (p ++ '/' :: (m ++ '/' :: y)) =
      q ++ '/' :: y := by
  simp only [behindSlash?_append (show isGap '/' = false by decide)]
  cases p.dropWhile isGap with
  | nil => exact ⟨m, fun y => rfl⟩
  | cons d q =>
    by_cases hd : (d == '/' || d == '\\') = true
    · exact ⟨q ++ '/' :: m, fun y => by simp [hd]⟩
    · exact ⟨p ++ '/' :: m, fun y => by simp [hd]⟩

/-- A path is split at a slash unless it ends before. -/
theorem exists_splitPath_slash (special : Bool) (p : List Char) :
    (∃ segments after, ∀ y, splitPath special (p ++ '/' :: y) = (segments, after ++ '/' :: y)) ∨
    ∃ first more, ∀ y, splitPath special (p ++ '/' :: y) =
      (first :: more ++ (splitPath special y).1, (splitPath special y).2) := by
  induction p with
  | nil =>
    right
    exact ⟨[], [], fun y => by simp [splitPath]⟩
  | cons c p ih =>
    simp only [List.cons_append, splitPath]
    cases hend : c == '?' || c == '#' with
    | true =>
      left
      exact ⟨[[]], c :: p, fun y => rfl⟩
    | false =>
      simp only [Bool.false_eq_true, if_false]
      rcases ih with ⟨segments, after, h⟩ | ⟨first, more, h⟩
      · left
        simp only [h]
        cases c == '/' || special && c == '\\' with
        | true => exact ⟨[] :: segments, after, fun y => rfl⟩
        | false => cases segments <;> exact ⟨_, after, fun y => rfl⟩
      · right
        simp only [h]
        cases c == '/' || special && c == '\\' with
        | true => exact ⟨[], first :: more, fun y => rfl⟩
        | false => exact ⟨c :: first, more, fun y => rfl⟩

namespace Walk

theorem addAll_append (file : Bool) (w : Walk) (segments : List (List Char)) (s : List Char) :
    addAll file w (segments ++ [s]) =
      (segments.foldl (fun w s => w.add file false s) w).add file true s := by
  induction segments generalizing w with
  | nil => rfl
  | cons u segments ih =>
    have hmore : (segments ++ [s]).isEmpty = false := by simp
    rw [List.cons_append, addAll, hmore, ih, List.foldl_cons]

/-- A last name is not taken for the letter of a drive. -/
theorem drive_add {t : List Char} (ht : IsLastName t) (w : Walk) (file last : Bool) :
    (w.add file last t).drive = w.drive := by
  have hparted : partedDrive? t = none := by
    have hmem {c : Char} {s rest : List Char} (h : s.dropWhile isGap = c :: rest) {d : Char}
        (hd : d ∈ c :: rest) : d ∈ s := (List.dropWhile_sublist isGap).subset (h ▸ hd)
    unfold partedDrive?
    split
    · rfl
    · next a rest hrest =>
      split
      · next b more hmore =>
        refine absurd (hmem hrest (List.mem_cons_of_mem a ?_)) ht.colon
        exact hmem hmore List.mem_cons_self
      · rfl
  have hdrive : isDrive t = false := by
    have hlength := ht.length
    unfold isDrive
    split
    · simp at hlength
    · rfl
  simp only [add, hparted, ht.encode_eq, hdrive, ht.single, ht.double, ite_self]
  simp

/-- Whether a path starts with the letter of a drive is not decided by its last name. -/
theorem exists_readPath_drive (p : List Char) :
    ∃ drive, ∀ y, EndsUrl y → (readPath .file (p ++ '/' :: y)).2.1 = drive := by
  have hspecial : Kind.file.isSpecial = true := rfl
  rcases exists_splitPath_slash true p with ⟨segments, after, h⟩ | ⟨first, more, h⟩
  · refine ⟨(addAll true ⟨[], false⟩ segments).drive, fun y _ => ?_⟩
    simp only [readPath, hspecial, h]
    rfl
  · refine ⟨((first :: more).foldl (fun (w : Walk) s => w.add true false s) ⟨[], false⟩).drive, ?_⟩
    rintro _ ⟨t, back, rfl, ht, hback⟩
    simp only [readPath, hspecial, h, splitPath_append_end ht.chars hback]
    rw [show (Kind.file == Kind.file) = true from rfl, addAll_append, drive_add ht]

end Walk

theorem file_matches (hx : x ≠ '/') (hx' : x ≠ '\\') (hgap : isGap x = false) (hy : EndsUrl y)
    (hy' : EndsUrl y') :
    Matches SameServer (file (p ++ x :: '/' :: (m ++ '/' :: y)))
      (file (p ++ x :: '/' :: (m ++ '/' :: y'))) := by
  have hlocal (s s' : List Char) : SameServer (localFile s) (localFile s') := ⟨rfl, rfl⟩
  simp only [file]
  rcases exists_behindSlash?_append hx hx' hgap p with hnone | ⟨one, hone⟩
  · simp only [hnone]
    exact .ok (hlocal _ _)
  · simp only [hone]
    rcases exists_behindSlash?_append hx hx' hgap one with hnone | ⟨two, htwo⟩
    · simp only [hnone]
      exact .ok (hlocal _ _)
    · obtain ⟨before, more, -, hspan⟩ := exists_span_append
        (f := fun c => !endsAuthority true c) (c := '/') (by decide) (two ++ [x])
      simp only [List.append_assoc, List.singleton_append] at hspan
      simp only [htwo, hspan]
      split
      · exact .ok (hlocal _ _)
      · split
        · exact .ok (hlocal _ _)
        · cases Host.parse (closed before) with
          | error f => exact .error f
          | ok host =>
            obtain ⟨q, hq⟩ := exists_behindSlash?_getD more m
            obtain ⟨drive, hdrive⟩ := Walk.exists_readPath_drive q
            simp only [bind, Except.bind, hq, hdrive y hy, hdrive y' hy']
            split
            · exact .ok (hlocal _ _)
            · exact .ok ⟨rfl, rfl⟩

/-! ### Whole texts -/

/-- What is cut off at the end of a text is behind its last name. -/
theorem exists_trim_lastName (front : List Char)
    (hfront : ∃ c s, front = c :: s ∧ 0x20 < c.toNat) {back : List Char} (hback : EndsPath back) :
    ∃ back', EndsPath back' ∧ ∀ t, IsLastName t →
      trim (front ++ (t ++ back)) = front ++ (t ++ back') := by
  obtain ⟨c, s, rfl, hc⟩ := hfront
  let outer (c : Char) : Bool := c.toNat ≤ 0x20
  have hprefix : (back.reverse.dropWhile outer).reverse <+: back := by
    rw [← List.reverse_suffix, List.reverse_reverse]
    exact List.dropWhile_suffix outer
  refine ⟨(back.reverse.dropWhile outer).reverse, ?_, fun t ht => ?_⟩
  · obtain ⟨rest, hrest⟩ := hprefix
    intro d hd
    apply hback d
    rw [← hrest, List.head?_append, hd, Option.some_or]
    rfl
  · have hvisible : ∀ d ∈ t, 0x20 < d.toNat := ht.toIsSegment.isVisible
    have hlast : (t.reverse ++ (c :: s).reverse).dropWhile outer =
        t.reverse ++ (c :: s).reverse := by
      cases hreverse : t.reverse with
      | nil =>
        have hlength := ht.length
        rw [← List.length_reverse, hreverse] at hlength
        cases hlength
      | cons d u =>
        have hd := hvisible d (List.mem_reverse.mp (hreverse ▸ List.mem_cons_self))
        exact List.dropWhile_cons_of_neg (by simpa [outer] using hd)
    have hdrop : ((c :: s) ++ (t ++ back)).dropWhile outer = (c :: s) ++ (t ++ back) :=
      List.dropWhile_cons_of_neg (by simpa [outer] using hc)
    have hback' : (back.reverse ++ (t.reverse ++ (c :: s).reverse)).dropWhile outer =
        back.reverse.dropWhile outer ++ (t.reverse ++ (c :: s).reverse) := by
      rw [List.dropWhile_append]
      split
      · next hempty => rw [hlast, List.isEmpty_iff.mp hempty, List.nil_append]
      · rfl
    show ((((c :: s) ++ (t ++ back)).dropWhile outer).reverse.dropWhile outer).reverse = _
    rw [hdrop, List.reverse_append, List.reverse_append, List.append_assoc, hback']
    simp

/-- A text without blanks around it is read by its scheme. -/
theorem parse_eq_of_trim {text : String} {name rest : List Char} (hs : IsScheme name)
    (htrim : trim text.toList = name ++ ':' :: rest) :
    Url.parse text = match Kind.of (String.ofList name) with
      | .web => web (String.ofList name) (closed rest)
      | .file => file rest
      | .other => other (String.ofList name) (closed rest) := by
  obtain ⟨c, more, rfl, hletter⟩ := hs.first
  have hcolon : ∀ d ∈ c :: more, (d != ':') = true := by
    intro d hd
    rw [bne_iff_ne]
    rintro rfl
    exact absurd (hs.chars ':' hd).1 (by decide)
  have hafter : ((c :: more ++ ':' :: rest).dropWhile (· != ':')).drop 1 = rest := by
    rw [List.dropWhile_append_of_pos hcolon]
    simp
  rw [Url.parse]
  simp only [htrim, closed_append hs, scheme?_append hs.chars, hafter]
  cases Kind.of (String.ofList (c :: more)) <;>
    simp only [List.cons_append, List.head?_cons, hletter, Bool.not_true, Bool.false_eq_true,
      if_false]

/-- **What the last name does not decide.** Two texts that differ in the last name of the path are
both no URL, and for the same reason, or URLs on the same server. -/
theorem parse_matches {text text' : String} {name t t' back : List Char} (hs : IsScheme name)
    (hx : x ≠ '/') (hx' : x ≠ '\\') (hgap : isGap x = false) (ht : IsLastName t)
    (ht' : IsLastName t') (hback : EndsPath back)
    (htext : text.toList = name ++ ':' :: (p ++ x :: '/' :: (m ++ '/' :: (t ++ back))))
    (htext' : text'.toList = name ++ ':' :: (p ++ x :: '/' :: (m ++ '/' :: (t' ++ back)))) :
    Matches SameServer (Url.parse text) (Url.parse text') := by
  obtain ⟨c, more, hname, hvisible⟩ := hs.visible
  obtain ⟨back', hback', htrim⟩ := exists_trim_lastName
    (name ++ ':' :: (p ++ x :: '/' :: (m ++ ['/'])))
    ⟨c, more ++ ':' :: (p ++ x :: '/' :: (m ++ ['/'])), by rw [hname]; rfl, hvisible⟩ hback
  have hread {text : String} {t : List Char} (ht : IsLastName t)
      (htext : text.toList = name ++ ':' :: (p ++ x :: '/' :: (m ++ '/' :: (t ++ back)))) :
      trim text.toList = name ++ ':' :: (p ++ x :: '/' :: (m ++ '/' :: (t ++ back'))) := by
    have hfront := htrim t ht
    simp only [List.append_assoc, List.cons_append, List.nil_append] at hfront
    rw [htext, hfront]
  have hclosed (z : List Char) : closed (p ++ x :: '/' :: (m ++ '/' :: z)) =
      closed p ++ x :: '/' :: (closed m ++ '/' :: closed z) := by
    have hslash : isGap '/' = false := by decide
    simp [closed, List.filter_append, hgap, hslash]
  rw [parse_eq_of_trim hs (hread ht htext), parse_eq_of_trim hs (hread ht' htext'), hclosed,
    hclosed]
  cases Kind.of (String.ofList name) with
  | web => exact web_matches hx hx'
  | file => exact file_matches hx hx' hgap ⟨t, back', rfl, ht, hback'⟩ ⟨t', back', rfl, ht', hback'⟩
  | other => exact other_matches hx

/-- A web URL is read from its text with the path and with what is behind it, and on a server that
the path does not decide. -/
theorem IsWeb.exists_parse_text {u : Url} (hu : u.IsWeb) :
    ∃ found : Except Fault Authority, ∀ path, ({ u with path := path } : Url).IsWeb →
      Url.parse ({ u with path := path } : Url).text =
        found.map fun a => finish u.scheme (some a) path u.tail := by
  obtain ⟨a, ha, hne, hinner⟩ := hu.authority
  obtain ⟨found, hfound⟩ := exists_readAuthority_of_allInner u.scheme hinner
  refine ⟨found, fun path hweb => ?_⟩
  obtain ⟨first, others, hpath, hsegments⟩ := hweb.path
  obtain rfl : path = .segments (first :: others) := hpath
  have hothers : ∀ s ∈ others.map String.toList, IsSegment s := by
    intro s hs
    obtain ⟨t, ht, rfl⟩ := List.mem_map.mp hs
    exact hsegments t (List.mem_cons_of_mem _ ht)
  have hread := pathOf_join (hsegments first List.mem_cons_self) hothers (endsPath_tail u)
  rw [parse_eq_web hweb.scheme (hweb.isVisible hinner) (toList_text ha), web, onServer,
    behind_slashes hne hinner rfl, hfound]
  cases found with
  | error f => rfl
  | ok b =>
    let behind := first.toList ++ (others.map String.toList).flatMap ('/' :: ·) ++ u.tail
    show Except.ok (finish u.scheme (some b) (.segments (pathOf .web behind).1)
      (pathOf .web behind).2) = _
    rw [hread]
    simp [Except.map]

end ImageBot.Url
