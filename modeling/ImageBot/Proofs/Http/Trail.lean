import ImageBot.Proofs.Http.Conversation
import Mathlib.Data.List.Chain
/-!
# Trails of requests

A request that is sent leaves a trail: it is sent on from answer to answer, until one does not
send it on or it has been sent on often enough. `Follows` says which turns these are and what
comes of them. All that a client learns from a trail is in its last turn.
-/
namespace ImageBot.Http

namespace Sent

/-- An answer with a status of success sends nothing on. -/
theorem onward?_of_success {q : Sent} {status : Nat} {headers : List (String × List UInt8)}
    {payload : Payload} (hlow : 200 ≤ status) (hhigh : status < 300) :
    q.onward? (.answered status headers payload) = none := by
  have hstatus : Onward.ofStatus? status = none := by
    rw [Onward.ofStatus?, if_neg (by omega), if_neg (by omega)]
  simp [onward?, hstatus]

/-- What a request is sent on as only asks, or has its method and its body. -/
theorem asks_or_keeps_of_onward? {q next : Sent} {reply : Reply} (h : q.onward? reply = some next) :
    next.method = .get ∨ next.method = q.method ∧ next.body = q.body := by
  cases reply with
  | lost | unreachable => cases h
  | answered status headers payload =>
    obtain ⟨how, -, h⟩ := Option.bind_eq_some_iff.mp h
    obtain ⟨url, -, h⟩ := Option.bind_eq_some_iff.mp h
    cases h
    cases how with
    | asking => exact .inl rfl
    | unchanged => exact .inr ⟨rfl, rfl⟩

/-- The turns of a request that may be sent on `left` times, and what comes of them. -/
inductive Follows : Nat → Sent → List Turn → Except Failure Response → Prop
  /-- The reply does not send the request on, so it counts. -/
  | done {left : Nat} {q : Sent} {reply : Reply} (h : q.onward? reply = none) :
    Follows left q [⟨q, reply⟩] (reply.interpret q.url)
  /-- The reply sends the request on once too often. -/
  | spent {q next : Sent} {reply : Reply} (h : q.onward? reply = some next) :
    Follows 0 q [⟨q, reply⟩] (.error (tooManyRedirects q.url))
  /-- The reply sends the request on to where no request is sent. -/
  | barred {left : Nat} {q next : Sent} {reply : Reply} (h : q.onward? reply = some next)
    (hweb : next.isWeb = false) :
    Follows (left + 1) q [⟨q, reply⟩] (.error (disallowedScheme next.url))
  /-- The reply sends the request on, and another one follows. -/
  | onward {left : Nat} {q next : Sent} {reply : Reply} {turns : List Turn}
    {result : Except Failure Response} (h : q.onward? reply = some next) (hweb : next.isWeb)
    (rest : Follows left next turns result) : Follows (left + 1) q (⟨q, reply⟩ :: turns) result

open Network in
/-- Every request leaves a trail. -/
theorem exists_follows (left : Nat) (q : Sent) (n : Network) :
    ∃ turns, q.Follows left turns ((q.follow left).run n).1 ∧
      Converses n turns ((q.follow left).run n).2 := by
  induction left generalizing q n with
  | zero =>
    rw [follow]
    simp only [run_bind]
    cases h : q.onward? ((send q).run n).1 with
    | none => exact ⟨_, .done h, .single rfl⟩
    | some next => exact ⟨_, .spent h, .single rfl⟩
  | succ left ih =>
    rw [follow]
    simp only [run_bind]
    cases h : q.onward? ((send q).run n).1 with
    | none => exact ⟨_, .done h, .single rfl⟩
    | some next =>
      cases hweb : next.isWeb with
      | false =>
        simp only [hweb]
        exact ⟨_, .barred h hweb, .single rfl⟩
      | true =>
        simp only [hweb, if_true]
        obtain ⟨turns, hfollows, hc⟩ := ih next ((send q).run n).2
        exact ⟨_, .onward h hweb hfollows, .cons rfl hc⟩

open Network in
/-- The trail that a request leaves says what comes of it. -/
theorem run_follow {left : Nat} {q : Sent} {turns : List Turn}
    {result : Except Failure Response} (h : q.Follows left turns result) {n m : Network}
    (hc : Converses n turns m) : (q.follow left).run n = (result, m) := by
  induction h generalizing n with
  | done h =>
    cases hc with
    | cons first rest =>
      cases rest
      rw [follow]
      simp only [run_bind, first, h]
      rfl
  | spent h =>
    cases hc with
    | cons first rest =>
      cases rest
      rw [follow]
      simp only [run_bind, first, h]
      rfl
  | barred h hweb =>
    cases hc with
    | cons first rest =>
      cases rest
      rw [follow]
      simp only [run_bind, first, h, hweb]
      rfl
  | onward h hweb _ ih =>
    cases hc with
    | cons first rest =>
      rw [follow]
      simp only [run_bind, first, h, hweb, if_true]
      exact ih rest

namespace Follows

variable {left : Nat} {q : Sent} {turns : List Turn} {result : Except Failure Response}

/-- A trail starts with its request. -/
theorem exists_eq_cons (h : q.Follows left turns result) :
    ∃ reply rest, turns = ⟨q, reply⟩ :: rest := by
  cases h <;> exact ⟨_, _, rfl⟩

/-- A trail ends with the first reply that does not send its request on. -/
theorem rest_eq_nil {reply : Reply} {rest : List Turn}
    (h : q.Follows left (⟨q, reply⟩ :: rest) result) (hlast : q.onward? reply = none) :
    rest = [] := by
  cases h with
  | done | spent | barred => rfl
  | onward h => cases hlast.symm.trans h

/-- A trail is as long as the request may be sent on, at most. -/
theorem length_le (h : q.Follows left turns result) : turns.length ≤ left + 1 := by
  induction h with
  | done | spent | barred => simp
  | onward _ _ _ ih => simpa using ih

/-- A request that is made again only asks, or has its method and its body. -/
theorem asks_or_keeps (h : q.Follows left turns result) : ∀ u ∈ turns, u.request.method = .get ∨
    u.request.method = q.method ∧ u.request.body = q.body := by
  induction h with
  | done | spent | barred => simp
  | @onward left q next reply turns result h hweb rest ih =>
    intro u hu
    rcases List.mem_cons.mp hu with rfl | hu
    · exact .inr ⟨rfl, rfl⟩
    · rcases ih u hu with hget | ⟨hmethod, hbody⟩
      · exact .inl hget
      · rcases asks_or_keeps_of_onward? h with hget | ⟨hmethod', hbody'⟩
        · exact .inl (hmethod.trans hget)
        · exact .inr ⟨hmethod.trans hmethod', hbody.trans hbody'⟩

/-- Each turn of a trail is what the one before it is sent on as, and no other one is made. -/
theorem isChain (h : q.Follows left turns result) : turns.IsChain fun t u =>
    t.request.onward? t.reply = some u.request ∧ u.request.isWeb := by
  induction h with
  | done | spent | barred => exact .singleton _
  | onward h hweb rest ih =>
    obtain ⟨reply, later, rfl⟩ := rest.exists_eq_cons
    exact .cons_cons ⟨h, hweb⟩ ih

end Follows

end Sent

namespace Turn

/-- The reply is a whole answer, and sends nothing on: it has this status and these headers, and
its body stands for these bytes. -/
structure Brings (t : Turn) (status : Nat) (headers : List (String × List UInt8))
    (body : List UInt8) : Prop where
  last : t.request.onward? t.reply = none
  answered : ∃ payload, t.reply = .answered status headers payload ∧
    payload.content (isCoded headers) = .ok body

/-- The reply takes too long, and sends nothing on. -/
structure Stalls (t : Turn) : Prop where
  last : t.request.onward? t.reply = none
  reply : t.reply.Stalls

end Turn

namespace Sent.Follows

variable {left : Nat} {q : Sent} {turns : List Turn} {result : Except Failure Response}

/-- What comes of a trail is a response exactly if the last turn of it brings one. -/
theorem eq_ok_iff (h : q.Follows left turns result) {response : Response} :
    result = .ok response ↔ ∃ t ∈ turns.getLast?, ∃ headers,
      t.Brings response.status headers response.body ∧
        response.headers = collectHeaders (passed headers) := by
  induction h with
  | done h =>
    rw [Reply.interpret_eq_ok_iff]
    simp only [List.getLast?_singleton, Option.mem_some_iff, exists_eq_left']
    constructor
    · rintro ⟨headers, payload, hr, hbody, hkept⟩
      exact ⟨headers, ⟨h, payload, hr, hbody⟩, hkept⟩
    · rintro ⟨headers, ⟨-, payload, hr, hbody⟩, hkept⟩
      exact ⟨headers, payload, hr, hbody, hkept⟩
  | spent h | barred h =>
    simp only [reduceCtorEq, List.getLast?_singleton, Option.mem_some_iff, exists_eq_left',
      false_iff]
    rintro ⟨headers, hbrings, -⟩
    cases h.symm.trans hbrings.last
  | onward _ _ rest ih =>
    obtain ⟨reply, later, rfl⟩ := rest.exists_eq_cons
    rw [ih, List.getLast?_cons_cons]

/-- What comes of a trail is a timeout exactly if the last turn of it takes too long. -/
theorem eq_timeout_iff (h : q.Follows left turns result) :
    (∃ f, result = .error f ∧ f.why = .timeout) ↔ ∃ t ∈ turns.getLast?, t.Stalls := by
  induction h with
  | @done _ q _ h =>
    rw [← Reply.stalls_iff q.url]
    simp only [List.getLast?_singleton, Option.mem_some_iff, exists_eq_left']
    exact ⟨fun hs => ⟨h, hs⟩, fun hs => hs.reply⟩
  | spent h | barred h =>
    simp only [List.getLast?_singleton, Option.mem_some_iff, exists_eq_left']
    constructor
    · rintro ⟨f, hf, hwhy⟩
      cases hf
      cases hwhy
    · rintro ⟨hlast, -⟩
      cases h.symm.trans hlast
  | onward _ _ rest ih =>
    obtain ⟨reply, later, rfl⟩ := rest.exists_eq_cons
    rw [ih, List.getLast?_cons_cons]

end Sent.Follows

/-- A request, the turns that are made for it, and what comes of them. -/
structure Trail where
  /-- How often the request may be sent on. -/
  left : Nat
  first : Sent
  turns : List Turn
  result : Except Failure Response
  follows : first.Follows left turns result

namespace Trail

variable {t : Trail} {response : Response}

/-- What is told of what comes of a trail. -/
def answer (t : Trail) : Except TransportFault Response := t.result.mapError .ofFailure

/-- The last turn of a trail brings an answer. -/
def Brings (t : Trail) (status : Nat) (headers : List (String × List UInt8))
    (body : List UInt8) : Prop := ∃ u ∈ t.turns.getLast?, u.Brings status headers body

/-- What a trail brings is one answer. -/
theorem Brings.unique {status status' : Nat} {headers headers' : List (String × List UInt8)}
    {body body' : List UInt8} (h : t.Brings status headers body)
    (h' : t.Brings status' headers' body') : headers = headers' ∧ body = body' := by
  obtain ⟨u, hu, -, payload, hreply, hbody⟩ := h
  obtain ⟨u', hu', -, payload', hreply', hbody'⟩ := h'
  cases Option.mem_unique hu hu'
  cases hreply.symm.trans hreply'
  cases hbody.symm.trans hbody'
  exact ⟨rfl, rfl⟩

/-- The last turn of a trail takes too long. -/
def Stalls (t : Trail) : Prop := ∃ u ∈ t.turns.getLast?, u.Stalls

theorem answer_eq_ok_iff : t.answer = .ok response ↔ ∃ headers,
    t.Brings response.status headers response.body ∧
      response.headers = collectHeaders (passed headers) := by
  rw [answer, mapError_eq_ok_iff, t.follows.eq_ok_iff]
  constructor
  · rintro ⟨u, hu, headers, hbrings, hkept⟩
    exact ⟨headers, ⟨u, hu, hbrings⟩, hkept⟩
  · rintro ⟨headers, ⟨u, hu, hbrings⟩, hkept⟩
    exact ⟨u, hu, headers, hbrings, hkept⟩

theorem answer_eq_timeout_iff : t.answer = .error .timeout ↔ t.Stalls := by
  rw [answer, mapError_eq_error_iff, Stalls, ← t.follows.eq_timeout_iff]
  refine exists_congr fun f => and_congr_right fun _ => ?_
  rw [TransportFault.ofFailure]
  split
  · next h => exact iff_of_true rfl h
  · next h => exact iff_of_false TransportFault.noConfusion h

/-- What is told of a trail names no URL. -/
theorem answer_ne_invalidUrl (fault : Url.Fault) : t.answer ≠ .error (.invalidUrl fault) := by
  rw [answer, ne_eq, mapError_eq_error_iff]
  rintro ⟨f, -, h⟩
  rw [TransportFault.ofFailure] at h
  split at h <;> cases h

/-- A request and those that it is sent on as are few. -/
theorem length_turns_le (t : Trail) : t.turns.length ≤ t.left + 1 := t.follows.length_le

/-- A trail is sent from its first request on, if it is sent at all. -/
theorem first_of_mem_head? (t : Trail) {q : Sent}
    (hq : q ∈ ((t.turns.filter Turn.left).map Turn.request).head?) : q = t.first := by
  obtain ⟨reply, rest, hturns⟩ := t.follows.exists_eq_cons
  rw [hturns] at hq
  by_cases hleft : Turn.left ⟨t.first, reply⟩
  · rw [List.filter_cons_of_pos hleft, List.map_cons, List.head?_cons, Option.mem_some_iff] at hq
    exact hq.symm
  · -- a request that is not sent gets no answer that could send it on
    have hlast : t.first.onward? reply = none := by
      cases reply with
      | unreachable => rfl
      | answered | lost => exact absurd rfl hleft
    have hfollows := t.follows
    rw [hturns] at hfollows
    rw [hfollows.rest_eq_nil hlast, List.filter_cons_of_neg hleft] at hq
    cases hq

/-- An answer with some status and body came at the end of a trail. -/
def Answers (t : Trail) (status : Nat) (body : List UInt8) : Prop :=
  ∃ headers, t.Brings status headers body

theorem answers_iff {status : Nat} {body : List UInt8} : t.Answers status body ↔
    ∃ response, t.answer = .ok response ∧ response.status = status ∧ response.body = body := by
  simp only [Answers, answer_eq_ok_iff]
  constructor
  · rintro ⟨headers, ht⟩
    exact ⟨⟨status, _, body⟩, ⟨headers, ht, rfl⟩, rfl, rfl⟩
  · rintro ⟨response, ⟨headers, ht, -⟩, rfl, rfl⟩
    exact ⟨headers, ht⟩

/-- A trail with a response answers with what the response has. -/
theorem answers_iff_of_answer (hi : t.answer = .ok response) {status : Nat} {body : List UInt8} :
    t.Answers status body ↔ response.status = status ∧ response.body = body := by
  simp [answers_iff, hi]

theorem not_answers_of_answer {f : TransportFault} (hi : t.answer = .error f) {status : Nat}
    {body : List UInt8} : ¬t.Answers status body := by
  simp [answers_iff, hi]

end Trail

/-! ### Trails one after the other -/

namespace Network

/-- The network before and after the turns of some trails. -/
def Carries (n : Network) (trails : List Trail) (m : Network) : Prop :=
  n.Converses (trails.flatMap Trail.turns) m

variable {n m k : Network} {t : Trail} {ts us : List Trail}

theorem Carries.nil (n : Network) : n.Carries [] n := Converses.nil n

theorem carries_singleton_iff : n.Carries [t] m ↔ n.Converses t.turns m := by
  rw [Carries, List.flatMap_singleton]

theorem Carries.append (h : n.Carries ts m) (h' : m.Carries us k) : n.Carries (ts ++ us) k := by
  rw [Carries, List.flatMap_append]
  exact Converses.append h h'

/-- A request that its first reply does not send on has one turn. -/
theorem Carries.turns_eq (h : n.Carries (t :: ts) m)
    (hlast : t.first.onward? (n.replyAt 0) = none) : t.turns = [⟨t.first, n.replyAt 0⟩] := by
  obtain ⟨reply, rest, hturns⟩ := t.follows.exists_eq_cons
  have hreply : reply = n.replyAt 0 :=
    Converses.reply_eq h (i := 0) (t := ⟨t.first, reply⟩) (by simp [hturns])
  have hfollows := t.follows
  rw [hturns, hreply] at hfollows
  rw [hturns, hreply, hfollows.rest_eq_nil hlast]

theorem Carries.sent_eq (h : n.Carries ts m) :
    m.sent = n.sent ++ ((ts.flatMap Trail.turns).filter Turn.left).map Turn.request :=
  Converses.sent_eq h

end Network

/-! ### Requests that are executed -/

namespace Client

/-- A client leaves a trail for a request. -/
structure Leaves (c : Client) (r : Request) (t : Trail) : Prop where
  left : t.left = c.redirects
  first : r.prepare = .ok t.first

variable {c : Client} {r : Request}

open Network in
/-- A request that can be prepared leaves a trail, any other none. -/
theorem run_execute (c : Client) (r : Request) (n : Network) :
    (∃ f, r.prepare = .error f ∧ (c.execute r).run n = (.error f, n)) ∨
    (∃ t m, c.Leaves r t ∧ n.Carries [t] m ∧ (c.execute r).run n = (t.answer, m)) := by
  cases h : r.prepare with
  | error f =>
    left
    refine ⟨f, rfl, ?_⟩
    simp only [execute, h, run_pure]
  | ok q =>
    right
    obtain ⟨turns, hfollows, hc⟩ := q.exists_follows c.redirects n
    refine ⟨⟨c.redirects, q, turns, _, hfollows⟩, _, ⟨rfl, h⟩, carries_singleton_iff.mpr hc, ?_⟩
    simp only [execute, h, run_bind, run_pure, Trail.answer]

theorem run_execute_of_refused {f : TransportFault} (hp : r.prepare = .error f) (n : Network) :
    (c.execute r).run n = (.error f, n) := by
  simp only [execute, hp, run_pure]

open Network in
/-- What comes of a request is what comes of its trail. -/
theorem run_execute_of_carries {n m : Network} {t : Trail} (hp : c.Leaves r t)
    (hc : n.Carries [t] m) : (c.execute r).run n = (t.answer, m) := by
  have hfollow := Sent.run_follow t.follows (carries_singleton_iff.mp hc)
  rw [hp.left] at hfollow
  simp only [execute, hp.first, run_bind, hfollow, run_pure, Trail.answer]

/-- The headers of a response are among those that were received. -/
theorem headers_of_execute {n : Network} {response : Response}
    (h : ((c.execute r).run n).1 = .ok response) :
    ∃ received, response.headers = collectHeaders received := by
  rcases c.run_execute r n with ⟨f, -, hr⟩ | ⟨t, m, -, -, hr⟩
  · rw [hr] at h
    cases h
  · rw [hr] at h
    obtain ⟨headers, -, hkept⟩ := Trail.answer_eq_ok_iff.mp h
    exact ⟨_, hkept⟩

variable {ε α : Type}

/-- A stage of a larger task: it makes one request, unless it has a reason not to. -/
def stage (c : Client) (request : Except ε Request) (failed : TransportFault → ε)
    (finish : Response → Except ε α) : Exchange (Except ε α) :=
  match request with
  | .error e => pure (.error e)
  | .ok r => do
    match ← c.execute r with
    | .error f => return .error (failed f)
    | .ok response => return finish response

/-- What comes of a stage by what comes of its request. -/
def outcome (failed : TransportFault → ε) (finish : Response → Except ε α) :
    Except TransportFault Response → Except ε α
  | .error f => .error (failed f)
  | .ok response => finish response

open Network in
/-- A stage leaves one trail at most, for the request that it makes, and succeeds exactly if the
response at its end is good for something. -/
theorem run_stage (c : Client) (request : Except ε Request) (failed : TransportFault → ε)
    (finish : Response → Except ε α) (n : Network) :
    ∃ trail : Option Trail,
      n.Carries trail.toList ((c.stage request failed finish).run n).2 ∧
      (∀ t ∈ trail, t.left = c.redirects) ∧
      (∀ q, trail.map Trail.first = some q ↔ ∃ r, request = .ok r ∧ r.prepare = .ok q) ∧
      ∀ a, ((c.stage request failed finish).run n).1 = .ok a ↔
        ∃ t ∈ trail, ∃ response, t.answer = .ok response ∧ finish response = .ok a := by
  cases request with
  | error e => exact ⟨none, .nil n, by simp, by simp, by simp [stage]⟩
  | ok r =>
    have hstage : (c.stage (.ok r) failed finish).run n =
        (outcome failed finish ((c.execute r).run n).1, ((c.execute r).run n).2) := by
      simp only [stage, run_bind]
      cases ((c.execute r).run n).1 <;> rfl
    rw [hstage]
    rcases c.run_execute r n with ⟨f, hp, hr⟩ | ⟨t, m, hp, hc, hr⟩
    · rw [hr]
      exact ⟨none, .nil n, by simp, by simp [hp], by simp [outcome]⟩
    · rw [hr]
      refine ⟨some t, hc, by simpa using hp.left, by simp [hp.first], ?_⟩
      intro a
      cases ht : t.answer <;> simp [outcome, ht]

end Client

end ImageBot.Http
