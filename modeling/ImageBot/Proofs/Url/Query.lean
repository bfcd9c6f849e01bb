import ImageBot.Proofs.Url.Form
import ImageBot.Proofs.Url.Reading
/-!
# The query of a web URL

A receiver finds the query behind the first question mark of a URL. In the text of a web URL this
is its query, and pairs that are added to it leave the URL a web URL.
-/
namespace ImageBot.Url

open Text

/-- The pairs in the query of a URL. -/
def pairs (u : Url) : List (String × String) := Form.decode (u.query.getD "").toList

/-- What stands behind the first question mark of a text. -/
def behindMark (s : List Char) : List Char := (s.dropWhile (· != '?')).drop 1

variable {u : Url}

theorem behindMark_append {s : List Char} (hs : ∀ c ∈ s, c ≠ '?') (t : List Char) :
    behindMark (s ++ t) = behindMark t := by
  rw [behindMark, List.dropWhile_append_of_pos fun c hc => by simpa using hs c hc, behindMark]

theorem AllInner.ne_mark {s : List Char} (h : AllInner s) : ∀ c ∈ s, c ≠ '?' := by
  rintro c hc rfl
  exact absurd (h _ hc) (by decide)

theorem IsSegment.ne_mark {s : List Char} (h : IsSegment s) : ∀ c ∈ s, c ≠ '?' := by
  rintro c hc rfl
  exact absurd (h.chars _ hc) (by decide)

/-- Without its user, an authority has no other characters. -/
theorem Authority.allInner_anonymous {a : Authority} (h : AllInner a.text.toList) :
    AllInner ({ a with username := "", password := "" } : Authority).text.toList := by
  have huser : ({ a with username := "", password := "" } : Authority).userText = "" := rfl
  apply h.mono
  intro c hc
  rw [Authority.text, String.toList_append, String.toList_append] at hc ⊢
  rw [huser, String.toList_empty, List.nil_append] at hc
  rw [List.append_assoc]
  exact List.mem_append_right _ hc

/-- A web URL names a server without its user and its fragment. -/
theorem IsWeb.bare (hu : u.IsWeb) : ({ u.anonymous with fragment := none } : Url).IsWeb := by
  obtain ⟨a, ha, hne, hinner⟩ := hu.authority
  refine ⟨hu.scheme, ⟨{ a with username := "", password := "" }, ?_, hne,
    Authority.allInner_anonymous hinner⟩, hu.path, hu.query,
    fun f hf => absurd hf (Option.not_mem_none f)⟩
  rw [anonymous, ha]
  rfl

/-- In the text of a web URL without a fragment the query stands behind the first question mark. -/
theorem IsWeb.behindMark_text (hu : u.IsWeb) (hf : u.fragment = none) :
    behindMark u.text.toList = (u.query.getD "").toList := by
  obtain ⟨a, ha, -, hinner⟩ := hu.authority
  obtain ⟨first, others, hpath, hsegments⟩ := hu.path
  have hscheme : ∀ c ∈ u.scheme.toList, c ≠ '?' := by
    rcases hu.scheme with hs | hs <;> simp [hs]
  have hwhere : ∀ c ∈ u.path.text.toList, c ≠ '?' := by
    rw [hpath, toList_text_segments]
    intro c hc
    obtain ⟨s, hs, hc⟩ := List.mem_flatMap.mp hc
    obtain ⟨t, ht, rfl⟩ := List.mem_map.mp hs
    rcases List.mem_cons.mp hc with rfl | hc
    · decide
    · exact (hsegments t ht).ne_mark c hc
  have hslashes : ∀ c ∈ [':', '/', '/'], c ≠ '?' := by simp
  have htext : u.text.toList = u.scheme.toList ++ ([':', '/', '/'] ++ (a.text.toList ++
      (u.path.text.toList ++ u.tail))) := toList_text ha
  rw [htext, behindMark_append hscheme, behindMark_append hslashes,
    behindMark_append hinner.ne_mark, behindMark_append hwhere, tail, hf]
  cases u.query with
  | none => rfl
  | some q => simp [behindMark]

/-- Pairs can be added to the query of any web URL. -/
theorem IsWeb.withPairs (hu : u.IsWeb) (more : List (String × String)) :
    (u.withPairs more).IsWeb := by
  have hpair (p : String × String) : IsVisible (Form.encodePair p) := by
    have htext (s : String) : IsVisible (Form.encodeText s) :=
      Form.forall_mem_encodeText (by decide) (by decide) (by decide) (by decide) s
    exact List.forall_mem_append.mpr ⟨htext p.1, List.forall_mem_cons.mpr ⟨by decide, htext p.2⟩⟩
  have happend (query : List Char) (hquery : IsVisible query) :
      IsVisible (Form.append query more) := by
    induction more generalizing query with
    | nil => exact hquery
    | cons p more ih =>
      rw [Form.append]
      apply ih
      split
      · exact hpair p
      · exact List.forall_mem_append.mpr ⟨hquery, List.forall_mem_cons.mpr ⟨by decide, hpair p⟩⟩
  have hown : IsVisible (u.query.getD "").toList := by
    cases hq : u.query with
    | none => exact fun c hc => absurd hc List.not_mem_nil
    | some q => exact hu.query q hq
  rw [Url.withPairs]
  split
  · exact hu
  · refine ⟨hu.scheme, hu.authority, hu.path, ?_, hu.fragment⟩
    intro q hq
    obtain rfl := Option.some.inj hq
    rw [String.toList_ofList]
    exact happend _ hown

/-- Pairs that are added to the query are read back behind those that were there. -/
theorem pairs_withPairs (u : Url) (more : List (String × String)) :
    (u.withPairs more).pairs = u.pairs ++ more := by
  rw [Url.withPairs]
  split
  · next hmore => rw [List.isEmpty_iff.mp hmore, List.append_nil]
  · rw [pairs, Option.getD_some, String.toList_ofList, Form.decode_append_pairs, pairs]

end ImageBot.Url
