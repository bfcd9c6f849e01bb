import ImageBot.Proofs.Url.Domain
import Mathlib.Data.List.TakeDrop
/-!
# Reading an authority again

The text of an authority that was read has no character in it that would end it. So when it
is read again with something behind it that ends it, it is read up to there and no further. Of
any text, what stands behind a slash is left as it is, whatever is read in front of it.
-/
namespace ImageBot.Url

open Text

variable {scheme : String} {s t p rest : List Char} {a : Authority}

theorem Host.text_of_parse {host : Host} (h : Host.parse s = .ok host) :
    host.text.toList ≠ [] ∧ AllInner host.text.toList := by
  rw [Host.parse] at h
  split at h
  · next found hfound =>
    unfold bracketed? at hfound
    split at hfound
    · simp only [Option.some.injEq] at hfound
      subst hfound
      split at h
      · unfold Except.map at h
        split at h
        · cases h
        · next pieces _ =>
          cases h
          simp only [Host.text, String.toList_append]
          refine ⟨by simp, ?_⟩
          exact (AllInner.append (by decide) (Ipv6.allInner_text pieces)).append (by decide)
      · cases h
    · cases hfound
  · simp only [bind, Except.bind, pure, Except.pure, throw, throwThe, MonadExceptOf.throw] at h
    split at h
    · cases h
    · next name hname =>
      split at h
      · cases h
      · next hne =>
        split at h
        · split at h
          · cases h
          · next address haddress =>
            cases h
            refine ⟨?_, Ipv4.allInner_text address⟩
            simp [Host.text, Ipv4.text]
        · cases h
          rw [Host.text, String.toList_ofList]
          exact ⟨by simpa using hne, allInner_domainToAscii hname⟩

/-- An authority is a user, a host and a port. -/
theorem readAuthority_eq_ok (hs : (Kind.of scheme).isSpecial = true)
    (h : readAuthority scheme s = .ok (a, rest)) :
    ∃ user? hostText after, (splitLastAt (s.span fun c => !endsAuthority true c).1).1 = user? ∧
      (a.username, a.password) = userinfo (user?.getD []) ∧
      splitHost true false (behindUser user? s) = (hostText, after) ∧
      Host.parse hostText = .ok a.host ∧ portOf scheme after = .ok (a.port, rest) := by
  rw [readAuthority] at h
  simp only [hs, if_true, bind, Except.bind, pure, Except.pure, throw, throwThe,
    MonadExceptOf.throw] at h
  split at h
  · cases h
  · split at h
    · cases h
    · split at h
      · cases h
      · next host hhost =>
        split at h
        · cases h
        · split at h
          · cases h
          · next p hport =>
            split at h
            · cases h
            · cases h
              exact ⟨_, _, _, rfl, rfl, rfl, hhost, hport⟩

theorem allInner_userinfo (user : List Char) :
    AllInner (userinfo user).1.toList ∧ AllInner (userinfo user).2.toList := by
  have hset : ∀ c : Char, c.toNat < 0x80 → userinfoSet c.toNat = false → isInner c = true :=
    Utf8.forall_ascii (by decide)
  simp only [userinfo, String.toList_ofList]
  exact ⟨.encode hset _, .encode hset _⟩

/-- An authority with a host has a text. -/
theorem Authority.text_ne_nil (h : a.host.text.toList ≠ []) : a.text.toList ≠ [] := by
  rw [Authority.text, String.toList_append, String.toList_append]
  simp [h]

/-- The text of an authority that was read does not end it. -/
theorem text_of_readAuthority (hs : (Kind.of scheme).isSpecial = true)
    (h : readAuthority scheme s = .ok (a, rest)) :
    a.host.text.toList ≠ [] ∧ AllInner a.text.toList := by
  obtain ⟨user?, hostText, after, -, huser, -, hhost, -⟩ := readAuthority_eq_ok hs h
  obtain ⟨hne, hhost⟩ := Host.text_of_parse hhost
  have hnames := allInner_userinfo (user?.getD [])
  rw [← huser] at hnames
  have huserText : AllInner a.userText.toList := by
    rw [Authority.userText]
    split
    · exact .nil
    · simp only [String.toList_append]
      refine .append (.append hnames.1 ?_) (by decide)
      split
      · exact .nil
      · rw [String.toList_append]
        exact .append (by decide) hnames.2
  rw [Authority.text]
  rw [String.toList_append, String.toList_append]
  refine ⟨hne, (huserText.append hhost).append ?_⟩
  cases a.port with
  | none => exact .nil
  | some port =>
    simp only [String.toList_append]
    exact .append (by decide) (allInner_toString port)

/-! ### With something behind it -/

/-- What is behind the user is a part of the authority, and what is behind that. -/
theorem behindUser_append (s : List Char) :
    ∃ u, u ⊆ s ∧ ∀ t, behindUser (splitLastAt s).1 (s ++ t) = u ++ t := by
  rw [splitLastAt]
  split
  · exact ⟨s, List.Subset.refl s, fun t => rfl⟩
  · next after d before hspan =>
    rw [List.span_eq_takeWhile_dropWhile, Prod.mk.injEq] at hspan
    have hreverse : s.reverse = after ++ d :: before := by
      rw [← hspan.1, ← hspan.2, List.takeWhile_append_dropWhile]
    have hsplit : s = before.reverse ++ d :: after.reverse := by
      rw [← List.reverse_reverse s, hreverse]
      simp
    refine ⟨after.reverse, fun e he => ?_, fun t => ?_⟩
    · rw [hsplit]
      exact List.mem_append_right _ (List.mem_cons_of_mem _ he)
    · have hparts : s ++ t = (before.reverse ++ [d]) ++ (after.reverse ++ t) := by
        rw [hsplit]
        simp
      simp only [behindUser]
      rw [hparts]
      exact List.drop_left' (by simp)

/-- A text is split no further than at a character that splits it. -/
theorem exists_span_append {f : Char → Bool} {c : Char} (hc : f c = false) (p : List Char) :
    ∃ inside more, p = inside ++ more ∧ ∀ y, (p ++ c :: y).span f = (inside, more ++ c :: y) := by
  refine ⟨p.takeWhile f, p.dropWhile f, List.takeWhile_append_dropWhile.symm, fun y => ?_⟩
  rw [List.span_eq_takeWhile_dropWhile]
  induction p with
  | nil => simp [hc]
  | cons d p ih =>
    by_cases hd : f d
    · rw [Prod.mk.injEq] at ih
      simp [hd, ih.1, ih.2]
    · simp [hd]

/-- What is left of a text when a part of the authority was read from its front. -/
structure IsLeft (p rest : List Char) : Prop where
  subset : rest ⊆ p
  ends : ∀ c ∈ rest.head?, endsAuthority true c

theorem isLeft_nil : IsLeft p [] := ⟨List.nil_subset p, fun _ h => absurd h (Option.not_mem_none _)⟩

/-- Nothing is left of a text that does not end the authority. -/
theorem IsLeft.eq_nil (h : IsLeft p rest) (hp : AllInner p) : rest = [] := by
  cases rest with
  | nil => rfl
  | cons c rest =>
    have hinner := hp c (h.subset List.mem_cons_self)
    rw [isInner, h.ends c rfl] at hinner
    simp at hinner

/-- A host ends before what ends the authority, or before a colon. -/
theorem exists_splitHost_append (special inside : Bool) (p : List Char) :
    ∃ host more, more ⊆ p ∧ (∀ c ∈ more.head?, c ≠ ':' → endsAuthority true c) ∧
      ∀ t, splitHost special inside (p ++ '/' :: t) = (host, more ++ '/' :: t) := by
  induction p generalizing inside with
  | nil =>
    refine ⟨[], [], List.nil_subset _, fun _ h => absurd h (Option.not_mem_none _), fun t => ?_⟩
    simp [splitHost, endsAuthority]
  | cons c p ih =>
    simp only [List.cons_append, splitHost]
    split
    · next hends =>
      refine ⟨[], c :: p, List.Subset.refl _, fun d hd hne => ?_, fun t => rfl⟩
      obtain rfl := Option.some.inj hd
      cases special <;> simp_all [endsAuthority]
    · obtain ⟨host, more, hmore, hhead, h⟩ :=
        ih (if c == '[' then true else if c == ']' then false else inside)
      exact ⟨c :: host, more, List.Subset.trans hmore (List.subset_cons_self c p), hhead,
        fun t => by rw [h]⟩

theorem exists_readPort_append (value : Nat) (any : Bool) (p : List Char) :
    ∃ port : Except Fault (Option Nat × List Char), (∀ r, port = .ok r → IsLeft p r.2) ∧
      ∀ t, readPort value any (p ++ '/' :: t) = port.map fun r => (r.1, r.2 ++ '/' :: t) := by
  induction p generalizing value any with
  | nil =>
    refine ⟨.ok (if any then some value else none, []), fun r hr => ?_, fun t => rfl⟩
    cases hr
    exact isLeft_nil
  | cons c p ih =>
    simp only [List.cons_append, readPort]
    split
    · split
      · refine ⟨.error .invalidPort, fun r hr => ?_, fun t => rfl⟩
        cases hr
      · obtain ⟨port, hleft, h⟩ := ih (value * 10 + (c.toNat - 48)) true
        refine ⟨port, fun r hr => ⟨?_, (hleft r hr).ends⟩, h⟩
        exact List.Subset.trans (hleft r hr).subset (List.subset_cons_self c p)
    · split
      · next hends =>
        refine ⟨.ok (if any then some value else none, c :: p), fun r hr => ?_, fun t => rfl⟩
        cases hr
        refine ⟨List.Subset.refl _, fun d hd => ?_⟩
        obtain rfl := Option.some.inj hd
        exact hends
      · refine ⟨.error .invalidPort, fun r hr => ?_, fun t => rfl⟩
        cases hr

theorem exists_portOf_append (scheme : String)
    (hp : ∀ c ∈ p.head?, c ≠ ':' → endsAuthority true c) :
    ∃ port : Except Fault (Option Nat × List Char), (∀ r, port = .ok r → IsLeft p r.2) ∧
      ∀ t, portOf scheme (p ++ '/' :: t) = port.map fun r => (r.1, r.2 ++ '/' :: t) := by
  cases p with
  | nil =>
    refine ⟨.ok (none, []), fun r hr => ?_, fun t => rfl⟩
    cases hr
    exact isLeft_nil
  | cons c p =>
    by_cases hc : c = ':'
    · subst hc
      obtain ⟨port, hleft, hport⟩ := exists_readPort_append 0 false p
      refine ⟨port.map fun r => (if r.1 == defaultPort scheme then none else r.1, r.2), ?_, ?_⟩
      · intro r hr
        cases port with
        | error f => cases hr
        | ok q =>
          cases hr
          exact ⟨List.Subset.trans (hleft q rfl).subset (List.subset_cons_self _ p),
            (hleft q rfl).ends⟩
      · intro t
        rw [List.cons_append, portOf, hport]
        cases port <;> rfl
    · refine ⟨.ok (none, c :: p), fun r hr => ?_, fun t => ?_⟩
      · cases hr
        refine ⟨List.Subset.refl _, fun d hd => ?_⟩
        obtain rfl := Option.some.inj hd
        exact hp _ rfl hc
      · rw [List.cons_append, portOf]
        · rfl
        · rintro rest heq
          exact hc (List.cons.inj heq).1

/-- An authority is read up to a slash at most, and as if nothing were behind this. -/
theorem exists_readAuthority_append (scheme : String) (p : List Char) :
    ∃ found : Except Fault (Authority × List Char), (∀ r, found = .ok r → IsLeft p r.2) ∧
      ∀ t, readAuthority scheme (p ++ '/' :: t) = found.map fun r => (r.1, r.2 ++ '/' :: t) := by
  let special := (Kind.of scheme).isSpecial
  obtain ⟨inside, more, rfl, hspan⟩ := exists_span_append
    (f := fun c => !endsAuthority special c) (c := '/') (by simp [endsAuthority]) p
  obtain ⟨u, hu, hbehind⟩ := behindUser_append inside
  obtain ⟨hostText, after, hafter, hhead, hhost⟩ :=
    exists_splitHost_append special false (u ++ more)
  obtain ⟨port, hleft, hport⟩ := exists_portOf_append scheme hhead
  obtain ⟨host, hhostEq⟩ : ∃ host : Except Fault Host, host = do
      if (splitLastAt inside).1 == some [] &&
        (u ++ more ++ ['/']).head?.any (endsAuthority special) then throw .emptyHost
      if special && hostText.isEmpty then throw .emptyHost
      let host ← if special then Host.parse hostText else Host.parseOpaque hostText
      if hostText.isEmpty && (after ++ ['/']).head? == some ':' then throw .emptyHost
      return host := ⟨_, rfl⟩
  refine ⟨do
    let host ← host
    let ended ← port
    let user := userinfo ((splitLastAt inside).1.getD [])
    let found : Authority := ⟨user.1, user.2, host, ended.1⟩
    if !host.isSome && found.userText != "" then throw .emptyHost
    return (found, ended.2), ?_, fun t => ?_⟩
  · intro r hr
    simp only [bind, Except.bind, pure, Except.pure, throw, throwThe, MonadExceptOf.throw] at hr
    split at hr
    · cases hr
    · split at hr
      · cases hr
      · next ended =>
        have hsubset : after ⊆ inside ++ more := List.Subset.trans hafter
          (List.append_subset.mpr ⟨List.Subset.trans hu (List.subset_append_left _ _),
            List.subset_append_right _ _⟩)
        split at hr
        · cases hr
        · cases hr
          exact ⟨List.Subset.trans (hleft ended rfl).subset hsubset, (hleft ended rfl).ends⟩
  · have hfirst (s : List Char) : (s ++ '/' :: t).head? = (s ++ ['/']).head? := by cases s <;> rfl
    have hrest : behindUser (splitLastAt inside).1 (inside ++ more ++ '/' :: t) =
        u ++ more ++ '/' :: t := by
      rw [List.append_assoc, hbehind, List.append_assoc]
    rw [hhostEq]
    simp only [readAuthority, hspan, hrest, hfirst, hhost, hport, special, bind, Except.bind, pure,
      Except.pure, throw, throwThe, MonadExceptOf.throw]
    split
    · rfl
    · split
      · rfl
      · -- an opaque host is read in another way, but what follows is the same
        split
        all_goals
          split
          · rfl
          · split
            · rfl
            · cases port with
              | error f => rfl
              | ok r =>
                simp only [Except.map]
                split <;> rfl

/-- A text that does not end the authority is read as a whole, whatever is behind its slash. -/
theorem exists_readAuthority_of_allInner (scheme : String) (hs : AllInner s) :
    ∃ found : Except Fault Authority,
      ∀ t, readAuthority scheme (s ++ '/' :: t) = found.map fun a => (a, '/' :: t) := by
  obtain ⟨found, hleft, h⟩ := exists_readAuthority_append scheme s
  refine ⟨found.map Prod.fst, fun t => ?_⟩
  rw [h]
  cases found with
  | error f => rfl
  | ok r =>
    have hnil := (hleft r rfl).eq_nil hs
    simp only [Except.map, hnil, List.nil_append]

/-- An authority is read up to the slash behind it. -/
theorem readAuthority_append (hs : AllInner s)
    (h : readAuthority scheme (s ++ '/' :: t) = .ok (a, rest)) : rest = '/' :: t := by
  obtain ⟨found, hfound⟩ := exists_readAuthority_of_allInner scheme hs
  rw [hfound] at h
  cases found with
  | error f => cases h
  | ok b =>
    cases h
    rfl

end ImageBot.Url
