import ImageBot.Proofs.Http.Refusal
import ImageBot.Search.Query
/-!
# How a search ends

A search makes one request at most, and what it learns is in the answer at the end of its trail.
There is one rule for each way to end, and a search ends by these rules and in no other way.
-/
namespace ImageBot

open Http Http.Network Text

namespace ImageSearch

/-- What a search learns from the trail of its request. -/
inductive Learns (s : ImageSearch) (t : Trail) : Except SearchError Search.Item → Prop
  /-- The exchange takes too long. -/
  | stalled (h : t.Stalls) : Learns s t (.error (.timeout s.client.searchTimeout))
  /-- The exchange fails in another way. -/
  | failed {failure : Failure} (h : t.answer = .error (.failed failure)) :
    Learns s t (.error (.transport failure.text))
  /-- The status is that of a failure, whatever comes with it. -/
  | refused {status : Nat} {body : List UInt8} (h : t.Answers status body) (hs : 200 < status) :
    Learns s t (.error (.status status (Utf8.textLossy body)))
  /-- The body is no answer to a search. -/
  | undecodable {status : Nat} {body : List UInt8} {e : Json.Error} (h : t.Answers status body)
    (hs : status ≤ 200) (hd : Search.Answer.decode body = .error e) :
    Learns s t (.error (.decode e))
  /-- There are no items in the answer. -/
  | empty {status : Nat} {body : List UInt8} {answer : Search.Answer} (h : t.Answers status body)
    (hs : status ≤ 200) (hd : Search.Answer.decode body = .ok answer) (hi : answer.items = []) :
    Learns s t (.error .noItems)
  /-- The first item counts. -/
  | found {status : Nat} {body : List UInt8} {answer : Search.Answer} {item : Search.Item}
    {later : List Search.Item} (h : t.Answers status body) (hs : status ≤ 200)
    (hd : Search.Answer.decode body = .ok answer) (hi : answer.items = item :: later) :
    Learns s t (.ok item)

/-- How a search for a phrase ends, by the trail that it leaves, if it leaves one. -/
inductive Searches (s : ImageSearch) (phrase : String) :
    Option Trail → Except SearchError Search.Item → Prop
  /-- The address of the search engine cannot be read. -/
  | unreadable {fault : Url.Fault} (hbase : Url.parse s.baseUrl = .error fault) :
    Searches s phrase none (.error (.invalidEndpoint fault))
  /-- The request cannot be sent. -/
  | unsendable {failure : Failure} (hq : (s.request phrase).prepare = .error (.failed failure)) :
    Searches s phrase none (.error (.transport failure.text))
  /-- The request leaves a trail. -/
  | replied {t : Trail} {result : Except SearchError Search.Item}
    (ht : s.client.Leaves (s.request phrase) t) (hl : s.Learns t result) :
    Searches s phrase (some t) result

theorem fullUrl_request (s : ImageSearch) (phrase : String) : (s.request phrase).fullUrl =
    (Url.parse s.baseUrl).map fun base => base.withPairs (s.request phrase).pairs :=
  (s.request phrase).fullUrl_eq

/-- A search makes the request for its phrase. -/
theorem search_eq_stage (s : ImageSearch) (phrase : String) :
    s.search phrase = s.client.stage (.ok (s.request phrase)) s.transportError firstResult := rfl

variable {s : ImageSearch} {phrase : String} {t : Trail}
  {result : Except SearchError Search.Item}

/-- A response to a search is good exactly if an item is read from it. -/
theorem firstResult_eq_ok_iff {response : Response} {item : Search.Item} :
    firstResult response = .ok item ↔ response.status ≤ 200 ∧
      ∃ answer, Search.Answer.decode response.body = .ok answer ∧
        answer.items.head? = some item := by
  rw [firstResult]
  by_cases hs : 200 < response.status
  · rw [if_pos hs]
    simp only [reduceCtorEq, false_iff]
    rintro ⟨hle, -⟩
    omega
  · rw [if_neg hs]
    cases hd : Search.Answer.decode response.body with
    | error e => simp
    | ok answer =>
      cases hi : answer.items with
      | nil => simp [hi]
      | cons first rest => simp [hi]; omega

/-- A search learns what its response says. -/
theorem learns_firstResult {response : Response} (ht : t.answer = .ok response) :
    s.Learns t (firstResult response) := by
  have hanswers : t.Answers response.status response.body :=
    (Trail.answers_iff_of_answer ht).mpr ⟨rfl, rfl⟩
  rw [firstResult]
  by_cases hs : 200 < response.status
  · rw [if_pos hs]
    exact .refused hanswers hs
  · rw [if_neg hs]
    have hs' := Nat.le_of_not_lt hs
    cases hd : Search.Answer.decode response.body with
    | error e => exact .undecodable hanswers hs' hd
    | ok answer =>
      cases hi : answer.items with
      | nil => simpa only [hi] using Learns.empty hanswers hs' hd hi
      | cons item later => simpa only [hi] using Learns.found hanswers hs' hd hi

/-- The rules for what is learned from a trail leave nothing open. -/
theorem learns_iff : s.Learns t result ↔
    Client.outcome s.transportError firstResult t.answer = result := by
  constructor
  · intro h
    cases h with
    | stalled h => rw [Trail.answer_eq_timeout_iff.mpr h]; rfl
    | failed h => rw [h]; rfl
    | refused h hs =>
      obtain ⟨response, ht, rfl, rfl⟩ := Trail.answers_iff.mp h
      rw [ht, Client.outcome, firstResult, if_pos hs]
      rfl
    | undecodable h hs hd =>
      obtain ⟨response, ht, rfl, rfl⟩ := Trail.answers_iff.mp h
      rw [ht, Client.outcome, firstResult, if_neg (Nat.not_lt.mpr hs), hd]
    | empty h hs hd hi | found h hs hd hi =>
      obtain ⟨response, ht, rfl, rfl⟩ := Trail.answers_iff.mp h
      simp only [ht, Client.outcome, firstResult, if_neg (Nat.not_lt.mpr hs), hd, hi]
  · rintro rfl
    cases ht : t.answer with
    | ok response => exact learns_firstResult ht
    | error f =>
      cases f with
      | invalidUrl fault => exact absurd ht (t.answer_ne_invalidUrl fault)
      | timeout => exact .stalled (Trail.answer_eq_timeout_iff.mp ht)
      | failed failure => exact .failed ht

/-- The request of a search cannot be sent for its address, or for another reason. -/
theorem searches_of_prepare {f : TransportFault} (hp : (s.request phrase).prepare = .error f) :
    s.Searches phrase none (.error (s.transportError f)) := by
  obtain ⟨fault, hfull, rfl⟩ | ⟨url, failure, -, rfl, -⟩ := Request.prepare_eq_error hp
  · refine .unreadable ?_
    rw [fullUrl_request] at hfull
    cases hbase : Url.parse s.baseUrl with
    | error fault' => simpa [hbase, Except.map] using hfull
    | ok base => simp [hbase, Except.map] at hfull
  · exact .unsendable hp

/-- **Searches end by the rules.** -/
theorem run_search_iff {n m : Network} : (s.search phrase).run n = (result, m) ↔
    ∃ trail, s.Searches phrase trail result ∧ n.Carries trail.toList m := by
  have hrun (n : Network) : (s.search phrase).run n =
      (Client.outcome s.transportError firstResult ((s.client.execute (s.request phrase)).run n).1,
        ((s.client.execute (s.request phrase)).run n).2) := by
    simp only [search, run_bind]
    cases ((s.client.execute (s.request phrase)).run n).1 <;> rfl
  rw [hrun]
  constructor
  · rintro ⟨⟩
    rcases s.client.run_execute (s.request phrase) n with ⟨f, hp, hr⟩ | ⟨t, m, hp, hc, hr⟩
    · rw [hr]
      exact ⟨none, searches_of_prepare hp, .nil n⟩
    · rw [hr]
      exact ⟨some t, .replied hp (learns_iff.mpr rfl), hc⟩
  · rintro ⟨trail, hsearches, hc⟩
    cases hsearches with
    | @unreadable fault hbase =>
      have hfull : (s.request phrase).fullUrl = .error fault := by
        rw [fullUrl_request, hbase]
        rfl
      have hp : (s.request phrase).prepare = .error (.invalidUrl fault) := by
        rw [Request.prepare, hfull]
      cases hc
      rw [Client.run_execute_of_refused hp]
      rfl
    | unsendable hp =>
      cases hc
      rw [Client.run_execute_of_refused hp]
      rfl
    | replied ht hl =>
      rw [Client.run_execute_of_carries ht hc, learns_iff.mp hl]

end ImageSearch

/-! ### What is found -/

namespace Http.Trail

/-- What comes of a trail is an answer to a search with an item in front. -/
def Finds (t : Trail) (item : Search.Item) : Prop :=
  ∃ status body answer, t.Answers status body ∧ status ≤ 200 ∧
    Search.Answer.decode body = .ok answer ∧ answer.items.head? = some item

variable {t : Trail}

theorem finds_iff {item : Search.Item} : t.Finds item ↔
    ∃ response, t.answer = .ok response ∧ ImageSearch.firstResult response = .ok item := by
  simp only [Finds, answers_iff, ImageSearch.firstResult_eq_ok_iff]
  constructor
  · rintro ⟨_, _, answer, ⟨response, ht, rfl, rfl⟩, hs, hd, hi⟩
    exact ⟨response, ht, hs, answer, hd, hi⟩
  · rintro ⟨response, ht, hs, answer, hd, hi⟩
    exact ⟨_, _, answer, ⟨response, ht, rfl, rfl⟩, hs, hd, hi⟩

/-- An answer has one item in front. -/
theorem Finds.unique {a b : Search.Item} (ha : t.Finds a) (hb : t.Finds b) : a = b := by
  rw [finds_iff] at ha hb
  obtain ⟨r, hr, hi⟩ := ha
  obtain ⟨r', hr', hi'⟩ := hb
  rw [hr, Except.ok.injEq] at hr'
  rw [← hr', hi, Except.ok.injEq] at hi'
  exact hi'

end Http.Trail

namespace ImageSearch

variable {s : ImageSearch} {phrase : String} {trail : Option Trail}
  {result : Except SearchError Search.Item}

/-- The request of a search is made if it can be prepared. -/
theorem Searches.first_iff (h : s.Searches phrase trail result) (q : Sent) :
    trail.map Trail.first = some q ↔ (s.request phrase).prepare = .ok q := by
  cases h with
  | @unreadable fault hbase =>
    have hp : (s.request phrase).prepare = .error (.invalidUrl fault) := by
      rw [Request.prepare, fullUrl_request, hbase]
      rfl
    simp [hp]
  | unsendable hp => simp [hp]
  | replied ht => simp [ht.first]

theorem Searches.left (h : s.Searches phrase trail result) :
    ∀ t ∈ trail, t.left = s.client.redirects := by
  cases h with
  | unreadable | unsendable => simp
  | replied ht => simpa using ht.left

/-- A search succeeds exactly if the answer at the end of its trail has an item. -/
theorem Searches.ok_iff (h : s.Searches phrase trail result) (item : Search.Item) :
    result = .ok item ↔ ∃ t ∈ trail, t.Finds item := by
  cases h with
  | unreadable | unsendable => simp
  | @replied t _ ht hl =>
    rw [learns_iff] at hl
    simp only [Option.mem_some_iff, exists_eq_left', Trail.finds_iff, ← hl]
    cases t.answer <;> simp [Client.outcome]

end ImageSearch

end ImageBot
