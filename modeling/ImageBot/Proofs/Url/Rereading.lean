import ImageBot.Proofs.Url.Reading
/-!
# What stays when a URL is read again

The text of a URL may be read again. Its scheme stays what it is, and a web URL has a host. For
two web URLs on one server the texts are either both readable, and then on the same server, or
none is.
-/
namespace ImageBot.Url

open Text

variable {u v w : Url} {text : String}

/-- Whether a character may stand in a scheme. -/
def isSchemeChar (c : Char) : Bool :=
  isLetter c || isDigit c || c == '+' || c == '-' || c == '.'

/-- A scheme as it is kept: in lower case, with a letter first. -/
structure IsScheme (s : List Char) : Prop where
  first : ∃ c rest, s = c :: rest ∧ isLetter c
  chars : ∀ c ∈ s, isSchemeChar c ∧ lowerLetter c = c

theorem toNat_lt_of_isSchemeChar {c : Char} (h : isSchemeChar c) : c.toNat < 0x80 := by
  simp only [isSchemeChar, isLetter, isDigit, Bool.or_eq_true, Bool.and_eq_true, decide_eq_true_eq,
    beq_iff_eq, Char.le_def, UInt32.le_iff_toNat_le] at h
  have hz : 'z'.val.toNat < 0x80 := by decide
  have hZ : 'Z'.val.toNat < 0x80 := by decide
  have h9 : '9'.val.toNat < 0x80 := by decide
  show c.val.toNat < 0x80
  rcases h with (((((⟨-, h⟩ | ⟨-, h⟩) | ⟨-, h⟩) | rfl) | rfl) | rfl)
  · omega
  · omega
  · omega
  · decide
  · decide
  · decide

theorem lowerLetter_spec {c : Char} (h : isSchemeChar c) : isSchemeChar (lowerLetter c) ∧
    lowerLetter (lowerLetter c) = lowerLetter c ∧ (isLetter c → isLetter (lowerLetter c)) := by
  have hall : ∀ c : Char, c.toNat < 0x80 → isSchemeChar c → isSchemeChar (lowerLetter c) ∧
      lowerLetter (lowerLetter c) = lowerLetter c ∧ (isLetter c → isLetter (lowerLetter c)) :=
    Utf8.forall_ascii (by decide)
  exact hall c (toNat_lt_of_isSchemeChar h) h

/-- What is read as a scheme is in lower case, and starts with a letter if the text does. -/
theorem scheme?_eq_some {s name rest : List Char} (h : scheme? s = some (name, rest)) :
    (∀ c ∈ name, isSchemeChar c ∧ lowerLetter c = c) ∧
      ∀ c, s.head? = some c → isLetter c → ∃ d more, name = d :: more ∧ isLetter d := by
  induction s generalizing name with
  | nil => cases h
  | cons c s ih =>
    rw [scheme?.eq_def] at h
    simp only at h
    split at h
    · cases h
    · next behind heq =>
      cases heq
      cases h
      refine ⟨by simp, ?_⟩
      intro d hd hletter
      cases hd
      exact absurd hletter (by decide)
    · next d more heq =>
      cases heq
      split at h
      · next hchar =>
        obtain ⟨⟨name', rest'⟩, hrest, heq⟩ := Option.map_eq_some_iff.mp h
        cases heq
        obtain ⟨hchars, -⟩ := ih hrest
        obtain ⟨hlower, hsame, hletter⟩ := lowerLetter_spec hchar
        refine ⟨List.forall_mem_cons.mpr ⟨⟨hlower, hsame⟩, hchars⟩, ?_⟩
        intro d hd hd'
        obtain rfl := Option.some.inj hd
        exact ⟨_, _, rfl, hletter hd'⟩
      · cases h

/-- A scheme is read up to its colon. -/
theorem scheme?_append {s : List Char} (hs : ∀ c ∈ s, isSchemeChar c ∧ lowerLetter c = c)
    (t : List Char) : scheme? (s ++ ':' :: t) = some (s, t) := by
  induction s with
  | nil => rfl
  | cons c s ih =>
    obtain ⟨⟨hchar, hlower⟩, hrest⟩ := List.forall_mem_cons.mp hs
    have hne : c ≠ ':' := by
      rintro rfl
      exact absurd hchar (by decide)
    rw [List.cons_append, scheme?]
    · rw [isSchemeChar] at hchar
      rw [if_pos hchar, ih hrest, Option.map_some, hlower]
    · exact hne

/-- Where the scheme of a URL was read. -/
theorem scheme_of_parse (h : Url.parse text = .ok u) : IsScheme u.scheme.toList ∧
    ∃ rest, scheme? (closed (trim text.toList)) = some (u.scheme.toList, rest) := by
  rw [Url.parse] at h
  simp only at h
  split at h
  · cases h
  · next c hc =>
    split at h
    · cases h
    · next hletter =>
      split at h
      · cases h
      · next name rest hname =>
        have hscheme : u.scheme = String.ofList name := by
          split at h
          · obtain ⟨found, behind, -, rfl⟩ := web_eq_ok h
            rfl
          · next hkind =>
            rw [scheme_file h]
            rw [Kind.of] at hkind
            split at hkind
            · next hfile => exact hfile.symm
            · split at hkind <;> cases hkind
          · exact scheme_other h
        rw [hscheme, String.toList_ofList]
        obtain ⟨hchars, hfirst⟩ := scheme?_eq_some hname
        exact ⟨⟨hfirst c hc (by simpa using hletter), hchars⟩, rest, hname⟩

/-- No blank is cut off in front of a scheme. -/
theorem IsScheme.visible {s : List Char} (hs : IsScheme s) :
    ∃ c rest, s = c :: rest ∧ 0x20 < c.toNat := by
  obtain ⟨c, rest, rfl, -⟩ := hs.first
  have hvisible : ∀ c : Char, c.toNat < 0x80 → isSchemeChar c → 0x20 < c.toNat :=
    Utf8.forall_ascii (by decide)
  have hchar := (hs.chars c List.mem_cons_self).1
  exact ⟨c, rest, rfl, hvisible c (toNat_lt_of_isSchemeChar hchar) hchar⟩

/-- Blanks are cut off only behind the colon of a scheme. -/
theorem exists_trim_append {s : List Char} (hs : IsScheme s) (t : List Char) :
    ∃ t', trim (s ++ ':' :: t) = s ++ ':' :: t' := by
  obtain ⟨c, rest, rfl, hc⟩ := hs.visible
  let outer (c : Char) : Bool := c.toNat ≤ 0x20
  have hfront : ((c :: rest) ++ ':' :: t).dropWhile outer = (c :: rest) ++ ':' :: t :=
    List.dropWhile_cons_of_neg (by simpa [outer] using hc)
  have hcolon : (':' :: (c :: rest).reverse).dropWhile outer = ':' :: (c :: rest).reverse :=
    List.dropWhile_cons_of_neg (by decide)
  refine ⟨(t.reverse.dropWhile outer).reverse, ?_⟩
  have hback : (((c :: rest) ++ ':' :: t).reverse).dropWhile outer =
      t.reverse.dropWhile outer ++ ':' :: (c :: rest).reverse := by
    rw [List.reverse_append, List.reverse_cons, List.append_assoc, List.singleton_append,
      List.dropWhile_append]
    split
    · next hempty => rw [hcolon, List.isEmpty_iff.mp hempty, List.nil_append]
    · rfl
  show ((((c :: rest) ++ ':' :: t).dropWhile outer).reverse.dropWhile outer).reverse = _
  rw [hfront, hback]
  simp

/-- Tabs and line ends are dropped only behind the colon of a scheme. -/
theorem closed_append {s : List Char} (hs : IsScheme s) (t : List Char) :
    closed (s ++ ':' :: t) = s ++ ':' :: closed t := by
  have hgap : ∀ c : Char, c.toNat < 0x80 → isSchemeChar c → isGap c = false :=
    Utf8.forall_ascii (by decide)
  have hself : s.filter (!isGap ·) = s := by
    apply List.filter_eq_self.mpr
    intro c hc
    have hchar := (hs.chars c hc).1
    rw [hgap c (toNat_lt_of_isSchemeChar hchar) hchar]
    rfl
  rw [closed, List.filter_append, hself, List.filter_cons_of_pos (by decide), closed]

/-- The scheme of a URL stays when its text is read again. -/
theorem scheme_of_parse_text (hu : Url.parse text = .ok u) (htext : v.scheme = u.scheme)
    (hw : Url.parse v.text = .ok w) : w.scheme = u.scheme := by
  obtain ⟨hscheme, -⟩ := scheme_of_parse hu
  obtain ⟨-, rest, hread⟩ := scheme_of_parse hw
  obtain ⟨behind, hbehind⟩ : ∃ behind, v.text.toList = u.scheme.toList ++ ':' :: behind := by
    rw [← htext, Url.text]
    simp only [String.toList_append, List.append_assoc]
    exact ⟨_, rfl⟩
  obtain ⟨t, ht⟩ := exists_trim_append hscheme behind
  rw [hbehind, ht, closed_append hscheme, scheme?_append hscheme.chars] at hread
  exact String.toList_injective (Prod.mk.inj (Option.some.inj hread)).1.symm

/-- A web URL has a host. -/
theorem hasHost_of_parse (hweb : u.scheme = "http" ∨ u.scheme = "https")
    (h : Url.parse text = .ok u) : u.hasHost := by
  obtain ⟨rest, hrest⟩ := exists_web_of_parse hweb h
  obtain ⟨found, behind, hfound, hu⟩ := web_eq_ok hrest
  obtain ⟨-, hostText, -, -, -, -, hhost, -⟩ := readAuthority_eq_ok (isSpecial_of_web hweb) hfound
  have hne := (Host.text_of_parse hhost).1
  have hauthority : u.authority = some found := by rw [hu]; rfl
  rw [hasHost, hauthority, Option.any_some]
  cases hkind : found.host with
  | domain name =>
    rw [hkind] at hne
    simpa [Host.isSome, Host.text] using hne
  | ipv4 address => rfl
  | ipv6 pieces => rfl

/-- Of two web URLs on one server, each is read again on the server on which the other one is. -/
theorem IsWeb.authority_of_parse (hu : u.IsWeb) (hv : v.IsWeb) (hscheme : v.scheme = u.scheme)
    (hauthority : v.authority = u.authority) (h : Url.parse u.text = .ok w) :
    ∃ w', Url.parse v.text = .ok w' ∧ w'.authority = w.authority := by
  obtain ⟨a, ha, hne, hinner⟩ := hu.authority
  obtain ⟨first, others, hpath, -⟩ := hu.path
  obtain ⟨first', others', hpath', -⟩ := hv.path
  have ha' : v.authority = some a := hauthority.trans ha
  rw [parse_eq_web hu.scheme (hu.isVisible hinner) (toList_text ha)] at h
  rw [parse_eq_web hv.scheme (hv.isVisible hinner) (toList_text ha'), hscheme]
  obtain ⟨b, hfound⟩ := exists_readAuthority_of_allInner u.scheme hinner
  obtain ⟨found, rest, hread, rfl⟩ := web_eq_ok h
  rw [behind_slashes hne hinner hpath, hfound] at hread
  cases b with
  | error f => cases hread
  | ok b =>
    cases hread
    rw [web, onServer, behind_slashes hne hinner hpath', hfound]
    exact ⟨_, rfl, rfl⟩

end ImageBot.Url
