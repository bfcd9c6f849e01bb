import ImageBot.Proofs.Http.Conversation
import ImageBot.Proofs.Url.Query
import ImageBot.Search.Query
/-!
# The parameters of a request

A receiver of a request reads, behind the pairs of the address itself, the parameters that the
request was given, one by one and in order. Nothing in a name or a value adds, removes or changes
another pair, so a search asks for its phrase and for nothing else.
-/
namespace ImageBot

open Http Url

namespace Http

/-- With query pairs, one after the other. -/
def Request.params (r : Request) (pairs : List (String × String)) : Request :=
  pairs.foldl (fun r p => r.param p.1 p.2) r

/-- The pairs that a receiver reads behind the first question mark of the URL. -/
def Sent.pairs (q : Sent) : List (String × String) := Form.decode (behindMark q.target.toList)

theorem Request.params_eq (r : Request) (pairs : List (String × String)) :
    r.params pairs = { r with pairs := r.pairs ++ pairs } := by
  induction pairs generalizing r with
  | nil => simp [params]
  | cons p pairs ih =>
    have hstep : r.params (p :: pairs) = (r.param p.1 p.2).params pairs := rfl
    rw [hstep, ih]
    simp [param]

theorem Request.fullUrl_eq_ok {r : Request} {base : Url} (h : Url.parse r.url = .ok base) :
    r.fullUrl = .ok (base.withPairs r.pairs) := by
  rw [fullUrl_eq, h]
  rfl

/-- Of what is sent for a request, a receiver reads the pairs of its full URL. -/
theorem Request.pairs_of_prepare {r : Request} {q : Sent} {base : Url}
    (hb : Url.parse r.url = .ok base) (hw : base.IsWeb) (hq : r.prepare = .ok q) :
    q.pairs = base.pairs ++ r.pairs := by
  obtain ⟨u, hu, rfl⟩ := prepare_eq_ok hq
  rw [fullUrl_eq_ok hb, Except.ok.injEq] at hu
  subst hu
  have hsent := (hw.withPairs r.pairs).bare.behindMark_text rfl
  have hread := pairs_withPairs base r.pairs
  rw [Sent.pairs, target_withoutCredentials, hsent]
  exact hread

end Http

/-- **No pair is injected.** Pairs given to a request with a web address are read back from its
full URL behind those of the address, in order, and all else in the URL stays. So a receiver of a
search reads its seven parameters, whatever is in the phrase. -/
theorem Http.Request.fullUrl_params {text : String} {base : Url}
    (hb : Url.parse text = .ok base) (hweb : base.scheme = "http" ∨ base.scheme = "https") :
    (∀ (method : Method) (pairs : List (String × String)), ∃ u : Url,
      ((Request.bare method text).params pairs).fullUrl = .ok u ∧
      u.pairs = base.pairs ++ pairs ∧ u.scheme = base.scheme ∧ u.authority = base.authority ∧
      u.path = base.path ∧ u.fragment = base.fragment ∧ (pairs = [] → u = base)) ∧
    ∀ (s : ImageSearch) (phrase : String), s.baseUrl = text →
      let asked := [("q", phrase), ("num", "1"), ("start", "1"), ("imgSize", s.imgSize),
        ("searchType", "image"), ("key", s.apiKey), ("cx", s.cx)]
      (∃ u : Url, (s.request phrase).fullUrl = .ok u ∧ u.pairs = base.pairs ++ asked) ∧
      ∀ q, (s.request phrase).prepare = .ok q → q.pairs = base.pairs ++ asked := by
  constructor
  · intro method pairs
    have hfull :
        ((Request.bare method text).params pairs).fullUrl = .ok (base.withPairs pairs) := by
      rw [Request.params_eq]
      exact Request.fullUrl_eq_ok hb
    refine ⟨base.withPairs pairs, hfull, pairs_withPairs base pairs, ?_⟩
    rw [Url.withPairs]
    split
    · exact ⟨rfl, rfl, rfl, rfl, fun _ => rfl⟩
    · next hsome =>
      refine ⟨rfl, rfl, rfl, rfl, fun hnone => ?_⟩
      rw [hnone] at hsome
      exact absurd rfl hsome
  · rintro s phrase rfl asked
    have hpairs : (s.request phrase).pairs = asked := rfl
    refine ⟨⟨_, Request.fullUrl_eq_ok hb, pairs_withPairs base _⟩, ?_⟩
    intro q hq
    rw [← hpairs]
    exact Request.pairs_of_prepare hb (isWeb_of_parse hweb hb) hq

/-- An address with a query of its own, and a phrase that looks like one. -/
theorem Http.Request.fullUrl_params_phrase :
    let text := "http://search.example:8080/v1?lang=en&&x#top"
    let s : ImageSearch := ⟨.timeouts Settings.default.outgoing, text, "k", "c", "medium"⟩
    ∃ base, Url.parse text = .ok base ∧ base.scheme = "http" ∧
      base.pairs = [("lang", "en"), ("x", "")] ∧
      ∃ u : Url, (s.request "cats&key=0#+é").fullUrl = .ok u ∧
        u.pairs = base.pairs ++ [("q", "cats&key=0#+é"), ("num", "1"), ("start", "1"),
          ("imgSize", "medium"), ("searchType", "image"), ("key", "k"), ("cx", "c")] := by
  intro text s
  have hb : Url.parse text = .ok ⟨"http", some ⟨"", "", .domain "search.example", some 8080⟩,
      .segments ["v1"], some "lang=en&&x", some "top"⟩ :=
    toOption_eq_some_iff.mp (by decide +kernel)
  exact ⟨_, hb, rfl, by decide +kernel,
    ((fullUrl_params hb (.inl rfl)).2 s "cats&key=0#+é" rfl).1⟩

end ImageBot
