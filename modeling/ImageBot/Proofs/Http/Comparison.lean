import ImageBot.Proofs.Http.Trail
import Mathlib.Data.List.Forall2
/-!
# Conversations compared

Two conversations are compared over networks that reply alike. Replies are taken by position, so
two conversations that ask for requests at the same places learn the same, whatever stands in the
requests, if these are sent on alike. `Alike` says what comes of them and how their requests are
related; it is proved of the steps of a conversation, and so of the whole.
-/
namespace ImageBot.Http

variable {α β γ δ ε : Type}

/-- Two outcomes: the same failure, or two successes that are related. -/
inductive Matches (P : α → β → Prop) : Except ε α → Except ε β → Prop
  | error (e : ε) : Matches P (.error e) (.error e)
  | ok {a : α} {b : β} (h : P a b) : Matches P (.ok a) (.ok b)

theorem Matches.of_eq {P : α → α → Prop} (hP : ∀ a, P a a) (x : Except ε α) : Matches P x x := by
  cases x with
  | error e => exact .error e
  | ok a => exact .ok (hP a)

theorem Matches.imp {P Q : α → β → Prop} {x : Except ε α} {y : Except ε β} (h : Matches P x y)
    (hPQ : ∀ a b, x = .ok a → y = .ok b → P a b → Q a b) : Matches Q x y := by
  cases h with
  | error e => exact .error e
  | ok h => exact .ok (hPQ _ _ rfl rfl h)

/-- What is told of a failure is the same with any URL. -/
theorem TransportFault.ofFailure_congr {f g : Failure} (hstage : f.stage = g.stage)
    (hwhy : f.why = g.why) : ofFailure f = ofFailure g := by
  rw [ofFailure, ofFailure, Failure.withoutUrl, Failure.withoutUrl, hstage, hwhy]

/-- What is told of a reply does not depend on the URL that the request went to. -/
theorem Reply.told_interpret (reply : Reply) (u v : Url) :
    (reply.interpret u).mapError TransportFault.ofFailure =
      (reply.interpret v).mapError TransportFault.ofFailure := by
  cases reply with
  | answered => rfl
  | lost why | unreachable why =>
    exact congrArg Except.error (TransportFault.ofFailure_congr (f := ⟨.request, some u, why⟩)
      (g := ⟨.request, some v, why⟩) rfl rfl)

/-- Whether a request can be sent is told by its headers and by what its URL is like. -/
theorem Request.prepare_matches {r r' : Request}
    (hurl : Matches (fun u u' => u.hasHost = u'.hasHost ∧ u.scheme = u'.scheme ∧
      isUri (withoutCredentials u) = isUri (withoutCredentials u')) r.fullUrl r'.fullUrl)
    (hheaders : r.headers.all (isHeaderValue ·.2) = r'.headers.all (isHeaderValue ·.2)) :
    Matches (fun _ _ => True) r.prepare r'.prepare := by
  rw [prepare, prepare]
  revert hurl
  generalize r.fullUrl = u, r'.fullUrl = u'
  rintro (f | ⟨hhost, hscheme, huri⟩)
  · exact .error _
  · simp only [build, hhost, hscheme, huri, hheaders]
    split
    · exact .error _
    · split
      · exact .error _
      · split
        · exact .error _
        · split
          · exact .error _
          · exact .ok trivial

/-- Two networks with the same replies to come. What was sent does not matter. -/
structure Network.RepliesLike (n m : Network) : Prop where
  replies : n.replies = m.replies
  afterwards : n.afterwards = m.afterwards

theorem Network.RepliesLike.refl (n : Network) : n.RepliesLike n := ⟨rfl, rfl⟩

/-- All replies that may come are of some kind. -/
structure Network.Tells (Ok : Reply → Prop) (n : Network) : Prop where
  replies : ∀ reply ∈ n.replies, Ok reply
  afterwards : Ok n.afterwards

theorem Network.tells_trivial (n : Network) : n.Tells fun _ => True :=
  ⟨fun _ _ => trivial, trivial⟩

theorem Network.Tells.replyAt {Ok : Reply → Prop} {n : Network} (h : n.Tells Ok) (k : Nat) :
    Ok (n.replyAt k) := by
  rw [Network.replyAt]
  cases hk : n.replies[k]? with
  | none => exact h.afterwards
  | some reply => exact h.replies reply (List.mem_of_getElem? hk)

/-- Two networks with the same replies to come, all of some kind. -/
structure Network.Pair (Ok : Reply → Prop) (n m : Network) : Prop where
  like : n.RepliesLike m
  tells : n.Tells Ok

/-- What comes of two conversations is related by `P`, and what they send by `R`, when they are
held with networks that reply alike, in a way that is `Ok`. -/
def Alike (Ok : Reply → Prop) (P : α → β → Prop) (R : List Sent → List Sent → Prop)
    (x : Exchange α) (y : Exchange β) : Prop :=
  ∀ n m : Network, n.Pair Ok m → P (x.run n).1 (y.run m).1 ∧ (x.run n).2.Pair Ok (y.run m).2 ∧
    ∃ a b, (x.run n).2.sent = n.sent ++ a ∧ (y.run m).2.sent = m.sent ++ b ∧ R a b

/-- Nothing on either side. -/
def Silent (a b : List Sent) : Prop := a = [] ∧ b = []

/-- Requests that are related are sent on as such, or both of them not at all. -/
structure Preserved (Ok : Reply → Prop) (Q : Sent → Sent → Prop) : Prop where
  isWeb : ∀ {q q'}, Q q q' → q.isWeb = q'.isWeb
  onward : ∀ {q q' reply}, Q q q' → Ok reply → Option.Rel Q (q.onward? reply) (q'.onward? reply)

theorem preserved_eq (Ok : Reply → Prop) : Preserved Ok Eq := by
  refine ⟨fun h => h ▸ rfl, ?_⟩
  rintro q _ reply rfl -
  cases q.onward? reply with
  | none => exact .none
  | some next => exact .some rfl

/-- Two requests that are related by `Q`, or that such requests are sent on as by the same
replies; then they are related by `R`. -/
inductive SentOn (Q R : Sent → Sent → Prop) : Sent → Sent → Prop
  | first {q q' : Sent} (h : Q q q') : SentOn Q R q q'
  | onward {q q' next next' : Sent} {reply : Reply} (h : SentOn Q R q q')
    (hq : q.onward? reply = some next) (hq' : q'.onward? reply = some next')
    (hnext : R next next') : SentOn Q R next next'

section

variable {Ok : Reply → Prop} {Q R : Sent → Sent → Prop}

theorem SentOn.rel (hQR : ∀ q q', Q q q' → R q q') {q q' : Sent} (h : SentOn Q R q q') :
    R q q' := by
  cases h with
  | first h => exact hQR _ _ h
  | onward _ _ _ hnext => exact hnext

theorem SentOn.imp {Q' R' : Sent → Sent → Prop} (hQ : ∀ q q', Q q q' → Q' q q')
    (hR : ∀ q q', R q q' → R' q q') {q q' : Sent} (h : SentOn Q R q q') : SentOn Q' R' q q' := by
  induction h with
  | first h => exact .first (hQ _ _ h)
  | onward _ hq hq' hnext ih => exact .onward ih hq hq' (hR _ _ hnext)

theorem Preserved.sentOn (hR : Preserved Ok R) (hQR : ∀ q q', Q q q' → R q q') :
    Preserved Ok (SentOn Q R) := by
  refine ⟨fun h => hR.isWeb (h.rel hQR), ?_⟩
  intro q q' reply h hok
  have hrel := hR.onward (h.rel hQR) hok
  cases hq : q.onward? reply with
  | none =>
    rw [hq] at hrel
    cases hq' : q'.onward? reply with
    | none => exact .none
    | some next' =>
      rw [hq'] at hrel
      cases hrel
  | some next =>
    rw [hq] at hrel
    cases hq' : q'.onward? reply with
    | none =>
      rw [hq'] at hrel
      cases hrel
    | some next' =>
      rw [hq'] at hrel
      cases hrel with
      | some hnext => exact .some (.onward h hq hq' hnext)

end

namespace Alike

variable {Ok : Reply → Prop} {P P' : α → β → Prop} {R S T : List Sent → List Sent → Prop}
  {x : Exchange α} {y : Exchange β}

theorem pure {a : α} {b : β} (hP : P a b) (hR : R [] []) :
    Alike Ok P R (Pure.pure a) (Pure.pure b) := by
  intro n m h
  exact ⟨hP, h, [], [], (List.append_nil _).symm, (List.append_nil _).symm, hR⟩

/-- Conversations go on alike from what is related. -/
theorem bind {f : α → Exchange γ} {g : β → Exchange δ} {P' : γ → δ → Prop} (hx : Alike Ok P R x y)
    (hf : ∀ a b, P a b → Alike Ok P' S (f a) (g b))
    (ht : ∀ a b a' b', R a b → S a' b' → T (a ++ a') (b ++ b')) :
    Alike Ok P' T (x >>= f) (y >>= g) := by
  intro n m h
  obtain ⟨hP, hlike, a, b, ha, hb, hR⟩ := hx n m h
  obtain ⟨hP', hlike', a', b', ha', hb', hS⟩ := hf _ _ hP _ _ hlike
  simp only [run_bind]
  refine ⟨hP', hlike', a ++ a', b ++ b', ?_, ?_, ht _ _ _ _ hR hS⟩
  · rw [ha', ha, List.append_assoc]
  · rw [hb', hb, List.append_assoc]

theorem mono (hx : Alike Ok P R x y) (hP : ∀ a b, P a b → P' a b) (hR : ∀ a b, R a b → S a b) :
    Alike Ok P' S x y := by
  intro n m h
  obtain ⟨hp, hlike, a, b, ha, hb, hr⟩ := hx n m h
  exact ⟨hP _ _ hp, hlike, a, b, ha, hb, hR _ _ hr⟩

/-- Conversations end alike if nothing more is sent in them. -/
theorem bind_silent {f : α → Exchange γ} {g : β → Exchange δ} {P' : γ → δ → Prop}
    (hx : Alike Ok P R x y) (hf : ∀ a b, P a b → Alike Ok P' Silent (f a) (g b)) :
    Alike Ok P' R (x >>= f) (y >>= g) := by
  apply hx.bind hf
  rintro a b _ _ hR ⟨rfl, rfl⟩
  rwa [List.append_nil, List.append_nil]

variable {Q : Sent → Sent → Prop}

/-- Two requests get the same reply. -/
theorem send {q q' : Sent} (h : Q q q') : Alike Ok (fun a b => a = b ∧ Ok a) (List.Forall₂ Q)
    (Network.send q) (Network.send q') := by
  intro n m ⟨hlike, htells⟩
  have hreply : n.replyAt 0 = m.replyAt 0 := by
    rw [Network.replyAt, Network.replyAt, hlike.replies, hlike.afterwards]
  rw [Network.run_send, Network.run_send, ← hreply]
  refine ⟨⟨rfl, htells.replyAt 0⟩,
    ⟨⟨by rw [hlike.replies], hlike.afterwards⟩, ?_⟩, _, _, rfl, rfl, ?_⟩
  · exact ⟨fun reply hr => htells.replies reply (List.mem_of_mem_drop hr), htells.afterwards⟩
  · split
    · exact .cons h .nil
    · exact .nil

/-- Requests that are sent on alike come to the same, but for URLs in what failed. -/
theorem follow (hQ : Preserved Ok Q) (left : Nat) {q q' : Sent} (h : Q q q') :
    Alike Ok (fun a b => a.mapError TransportFault.ofFailure = b.mapError TransportFault.ofFailure)
      (List.Forall₂ Q) (q.follow left) (q'.follow left) := by
  -- by induction on how often the requests may be sent on; the replies stay the same throughout
  induction left generalizing q q' with
  | zero =>
    rw [Sent.follow, Sent.follow]
    apply (send h).bind_silent
    rintro reply _ ⟨rfl, hok⟩
    have hrel := hQ.onward h hok
    generalize q.onward? reply = next, q'.onward? reply = next' at hrel
    cases hrel with
    | none => exact .pure (reply.told_interpret _ _) ⟨rfl, rfl⟩
    | some => exact .pure rfl ⟨rfl, rfl⟩
  | succ left ih =>
    rw [Sent.follow, Sent.follow]
    refine (send h).bind (S := List.Forall₂ Q) ?_ fun _ _ _ _ h h' =>
      List.rel_append h h'
    rintro reply _ ⟨rfl, hok⟩
    have hrel := hQ.onward h hok
    generalize q.onward? reply = next, q'.onward? reply = next' at hrel
    cases hrel with
    | none => exact .pure (reply.told_interpret _ _) .nil
    | some hnext =>
      simp only [← hQ.isWeb hnext]
      split
      · exact ih hnext
      · exact .pure rfl .nil

/-- Requests of which the same is wrong, or that are sent as what is related, get the same
response. -/
theorem execute {r r' : Request} (hQ : Preserved Ok Q) (c : Client)
    (h : Matches Q r.prepare r'.prepare) :
    Alike Ok Eq (List.Forall₂ Q) (c.execute r) (c.execute r') := by
  rw [Client.execute, Client.execute]
  revert h
  generalize r.prepare = p, r'.prepare = p'
  rintro (f | h)
  · exact .pure rfl .nil
  · apply (follow hQ c.redirects h).bind_silent
    intro result result' hresult
    exact .pure hresult ⟨rfl, rfl⟩

/-- A stage ends alike whatever is asked for in it. -/
theorem stage {request request' : Except ε Request} {failed : TransportFault → ε}
    {finish : Response → Except ε γ} (hQ : Preserved Ok Q) (c : Client)
    (h : Matches (fun r r' => Matches Q r.prepare r'.prepare) request request') :
    Alike Ok Eq (List.Forall₂ Q) (c.stage request failed finish)
      (c.stage request' failed finish) := by
  cases h with
  | error e => exact .pure rfl .nil
  | ok h =>
    apply (execute hQ c h).bind_silent
    rintro response _ rfl
    cases response with
    | error f => exact .pure rfl ⟨rfl, rfl⟩
    | ok response => exact .pure rfl ⟨rfl, rfl⟩

end Alike

end ImageBot.Http
