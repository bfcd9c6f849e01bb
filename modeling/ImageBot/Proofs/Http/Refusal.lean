import ImageBot.Proofs.Http.Trail
/-!
# Refused requests

A request may be refused before anything is sent. What is then told begins with words that no
failure of a request that was sent begins with, unless it was sent on to where no request is
sent. So a refusal is known by its text, and by the network that stays as it was.
-/
namespace ImageBot.Http

/-- What is told of a request that was not sent. -/
def IsRefusal (text : String) : Prop :=
  "builder error".toList <+: text.toList ∨ "invalid request URL".toList <+: text.toList

instance (text : String) : Decidable (IsRefusal text) :=
  inferInstanceAs (Decidable (_ ∨ _))

theorem isRefusal_invalidUrl (fault : Url.Fault) :
    IsRefusal (TransportFault.invalidUrl fault).message := by
  have hwords : "invalid request URL".toList <+: "invalid request URL: ".toList := by
    decide +kernel
  have htext : (TransportFault.invalidUrl fault).message =
    "invalid request URL: " ++ fault.message := rfl
  right
  rw [htext, String.toList_append]
  exact hwords.trans (List.prefix_append _ _)

/-- The text of a failure begins with its stage, and only the first one reads like a refusal. -/
theorem Failure.isRefusal_text_iff {f : Failure} : IsRefusal f.text ↔ f.stage = .builder := by
  obtain ⟨stage, url, why⟩ := f
  obtain ⟨rest, htext⟩ : ∃ rest, (Failure.text ⟨stage, url, why⟩).toList =
      stage.text.toList ++ rest := by
    simp only [Failure.text, String.toList_append, List.append_assoc]
    exact ⟨_, rfl⟩
  rw [IsRefusal, htext]
  cases stage with
  | builder => exact iff_of_true (.inl (List.prefix_append _ _)) rfl
  | request | redirect | body | decode =>
    refine iff_of_false ?_ Stage.noConfusion
    rintro (⟨more, h⟩ | ⟨more, h⟩) <;> cases h

/-- What is told of a failure is a refusal exactly if nothing could be built. -/
theorem isRefusal_ofFailure_iff {f : Failure} (hwhy : f.stage = .builder → f.why ≠ .timeout) :
    IsRefusal (TransportFault.ofFailure f).message ↔ f.stage = .builder := by
  rw [TransportFault.ofFailure]
  split
  · next h => exact iff_of_false (by decide +kernel) fun hstage => hwhy hstage h
  · exact Failure.isRefusal_text_iff (f := f.withoutUrl)

namespace Request

variable {r : Request} {f : TransportFault}

/-- Why a request cannot be prepared: its URL cannot be read, or something cannot be built. -/
theorem prepare_eq_error (h : r.prepare = .error f) :
    (∃ fault, r.fullUrl = .error fault ∧ f = .invalidUrl fault) ∨
      ∃ url failure, r.fullUrl = .ok url ∧ f = .failed failure ∧ IsRefusal failure.text := by
  rw [prepare] at h
  cases hfull : r.fullUrl with
  | error fault =>
    simp only [hfull, Except.error.injEq] at h
    exact .inl ⟨fault, rfl, h.symm⟩
  | ok url =>
    right
    simp only [hfull, mapError_eq_error_iff] at h
    obtain ⟨failure, hbuild, rfl⟩ := h
    obtain ⟨hstage, hwhy⟩ := build_eq_error hbuild
    refine ⟨url, failure.withoutUrl, rfl, ?_, Failure.isRefusal_text_iff.mpr hstage⟩
    rw [TransportFault.ofFailure, if_neg hwhy]

/-- A request that cannot be prepared is refused. -/
theorem isRefusal_of_prepare (h : r.prepare = .error f) : IsRefusal f.message := by
  obtain ⟨fault, -, rfl⟩ | ⟨url, failure, -, rfl, htext⟩ := prepare_eq_error h
  · exact isRefusal_invalidUrl fault
  · exact htext

end Request

/-- A trail of which nothing was sent ends for want of a connection. -/
theorem Sent.Follows.of_unsent {left : Nat} {q : Sent} {turns : List Turn}
    {result : Except Failure Response} (h : q.Follows left turns result)
    (hno : turns.filter Turn.left = []) : ∃ why, result = .error ⟨.request, some q.url, why⟩ := by
  obtain ⟨reply, rest, rfl⟩ := h.exists_eq_cons
  have hreply : reply.isToSent = false := by
    simpa [Turn.left] using List.filter_eq_nil_iff.mp hno ⟨q, reply⟩ List.mem_cons_self
  cases reply with
  | answered | lost => cases hreply
  | unreachable why =>
    cases h with
    | done => exact ⟨why, rfl⟩
    | spent h | barred h | onward h => cases h

/-- What breaks off for want of a connection does not read like a refusal. -/
theorem not_isRefusal_of_request {f : Failure} (hstage : f.stage = .request) :
    ¬IsRefusal (TransportFault.ofFailure f).message := by
  rw [isRefusal_ofFailure_iff fun h => absurd (hstage.symm.trans h) Stage.noConfusion, hstage]
  exact Stage.noConfusion

namespace Client

/-- A request is refused, and leaves the network as it is, exactly if it cannot be prepared,
whatever the network is. -/
theorem execute_refused_iff (c : Client) (r : Request) (n : Network) :
    (∃ f, (c.execute r).run n = (.error f, n) ∧ IsRefusal f.message) ↔
      ¬∃ q, r.prepare = .ok q := by
  rcases c.run_execute r n with ⟨f, hp, hr⟩ | ⟨t, m, hp, hc, hr⟩
  · exact iff_of_true ⟨f, hr, r.isRefusal_of_prepare hp⟩ (by simp [hp])
  · refine iff_of_false ?_ (not_not_intro ⟨_, hp.first⟩)
    rintro ⟨f, hrun, hf⟩
    obtain ⟨hanswer, rfl⟩ := Prod.mk.inj (hr.symm.trans hrun)
    have hno : t.turns.filter Turn.left = [] := by simpa using hc.sent_eq
    obtain ⟨why, hresult⟩ := t.follows.of_unsent hno
    rw [Trail.answer, hresult] at hanswer
    cases hanswer
    exact not_isRefusal_of_request rfl hf

/-- A request fails for a URL that cannot be read, and only then. -/
theorem execute_eq_invalidUrl_iff (c : Client) (r : Request) (n : Network) (fault : Url.Fault) :
    ((c.execute r).run n).1 = .error (.invalidUrl fault) ↔ r.fullUrl = .error fault := by
  rcases c.run_execute r n with ⟨f, hp, hr⟩ | ⟨t, m, hp, -, hr⟩
  · rw [hr, Except.error.injEq]
    obtain ⟨fault', hfull, rfl⟩ | ⟨url, failure, hfull, rfl, -⟩ := Request.prepare_eq_error hp
    · simp [hfull]
    · simp [hfull]
  · obtain ⟨url, hfull, -⟩ := Request.prepare_eq_ok hp.first
    rw [hr, hfull]
    exact iff_of_false (t.answer_ne_invalidUrl fault) (by simp)

/-- A stage is refused, and leaves the network as it is, exactly if it has a reason not to make its
request that is a refusal, or makes one that cannot be prepared. -/
theorem stage_refused_iff {ε α : Type} {p : ε → Prop} {failed : TransportFault → ε}
    {finish : Response → Except ε α} (hfailed : ∀ f, p (failed f) ↔ IsRefusal f.message)
    (hfinish : ∀ response e, finish response = .error e → ¬p e) (c : Client)
    (request : Except ε Request) (n : Network) :
    (∃ e, (c.stage request failed finish).run n = (.error e, n) ∧ p e) ↔
      (∃ e, request = .error e ∧ p e) ∨
        ∃ r, request = .ok r ∧ ¬∃ q, r.prepare = .ok q := by
  cases request with
  | error e =>
    constructor
    · rintro ⟨e', hrun, hp⟩
      cases hrun
      exact .inl ⟨e, rfl, hp⟩
    · rintro (⟨e', he, hp⟩ | ⟨r, hr, -⟩)
      · cases he
        exact ⟨e, rfl, hp⟩
      · cases hr
  | ok r =>
    simp only [reduceCtorEq, false_and, exists_false, Except.ok.injEq, exists_eq_left', false_or]
    rw [← c.execute_refused_iff r n]
    simp only [stage, run_bind]
    rcases (c.execute r).run n with ⟨f | response, m⟩
    · constructor
      · rintro ⟨e, hrun, hp⟩
        cases hrun
        exact ⟨f, rfl, (hfailed f).mp hp⟩
      · rintro ⟨f', hrun, hf⟩
        cases hrun
        exact ⟨_, rfl, (hfailed f).mpr hf⟩
    · refine iff_of_false ?_ ?_
      · rintro ⟨e, hrun, hp⟩
        exact hfinish response e (Prod.mk.inj hrun).1 hp
      · rintro ⟨f, hrun, -⟩
        cases hrun

end Client

end ImageBot.Http
