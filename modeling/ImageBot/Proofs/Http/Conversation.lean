import ImageBot.Http.Client
import ImageBot.Proofs.Result
/-!
# Conversations with the network

A conversation is a list of turns: requests that the network was asked to carry, each with
its reply. Replies are taken by position, so what a conversation does to the network is
determined by the number of its turns and by which requests had a connection.
-/
namespace ImageBot.Http

/-- A request that the network was asked to carry, and the reply to it. -/
structure Turn where
  request : Sent
  reply : Reply
  deriving Repr, DecidableEq

/-- Whether a reply is to a request that was sent: it was unless there was no connection. -/
def Reply.isToSent : Reply → Bool
  | unreachable _ => false
  | _ => true

/-- Whether the request was sent. -/
def Turn.left (t : Turn) : Bool := t.reply.isToSent

namespace Network

/-- The reply that a conversation has at a position. -/
def replyAt (n : Network) (k : Nat) : Reply := n.replies[k]?.getD n.afterwards

/-- The network before and after a conversation. -/
inductive Converses : Network → List Turn → Network → Prop
  | nil (n : Network) : Converses n [] n
  | cons {n m k : Network} {t : Turn} {ts : List Turn}
      (first : (send t.request).run n = (t.reply, m)) (rest : Converses m ts k) :
      Converses n (t :: ts) k

end Network

section

variable {α β : Type}

theorem run_pure (a : α) (n : Network) : (pure a : Exchange α).run n = (a, n) := rfl

theorem run_bind (x : Exchange α) (f : α → Exchange β) (n : Network) :
    (x >>= f).run n = (f (x.run n).1).run (x.run n).2 := rfl

end

namespace Network

variable {n m k : Network} {ts us : List Turn} {t : Turn}

/-- Sending takes the reply at the front and records what leaves. -/
theorem run_send (q : Sent) (n : Network) :
    (send q).run n = (n.replyAt 0, ⟨n.replies.drop 1, n.afterwards,
      n.sent ++ if (n.replyAt 0).isToSent then [q] else []⟩) := by
  obtain ⟨replies, afterwards, sent⟩ := n
  cases replies with
  | nil => cases afterwards <;> simp [send, replyAt, Reply.isToSent, StateT.run]
  | cons reply later => cases reply <;> simp [send, replyAt, Reply.isToSent, StateT.run]

theorem Converses.single {q : Sent} {r : Reply} (h : (send q).run n = (r, m)) :
    Converses n [⟨q, r⟩] m := .cons h (.nil m)

theorem Converses.append (h : Converses n ts m) (h' : Converses m us k) :
    Converses n (ts ++ us) k := by
  induction h with
  | nil n => exact h'
  | cons first _ ih => exact .cons first (ih h')

/-- What is sent is added to what was sent before, in the order of the turns. -/
theorem Converses.sent_eq (h : Converses n ts m) :
    m.sent = n.sent ++ (ts.filter Turn.left).map Turn.request := by
  induction h with
  | nil n => simp
  | @cons n _ _ t _ first _ ih =>
    rw [run_send, Prod.mk.injEq] at first
    obtain ⟨hr, rfl⟩ := first
    by_cases hu : t.reply.isToSent <;> simp [ih, hr, hu, Turn.left]

theorem replyAt_drop (n : Network) (sent : List Sent) (i j : Nat) :
    replyAt ⟨n.replies.drop i, n.afterwards, sent⟩ j = n.replyAt (i + j) := by
  simp [replyAt]

/-- The replies of a conversation are those of the network by position. -/
theorem Converses.reply_eq (h : Converses n ts m) {i : Nat} (hi : ts[i]? = some t) :
    t.reply = n.replyAt i := by
  induction h generalizing i with
  | nil n => simp at hi
  | cons first _ ih =>
    rw [run_send, Prod.mk.injEq] at first
    cases i with
    | zero =>
      simp only [List.getElem?_cons_zero, Option.some.injEq] at hi
      rw [← hi, first.1]
    | succ i =>
      rw [ih hi, ← first.2, replyAt_drop, Nat.add_comm]

end Network

/-! ### Replies -/

namespace Reply

variable {reply : Reply} {url : Url} {response : Response}

/-- A response is what an answer says of which the whole body arrived. -/
theorem interpret_eq_ok_iff : reply.interpret url = .ok response ↔ ∃ headers payload,
    reply = .answered response.status headers payload ∧
      payload.content (isCoded headers) = .ok response.body ∧
      response.headers = collectHeaders (passed headers) := by
  obtain ⟨status, kept, body⟩ := response
  cases reply with
  | answered status' headers' payload' =>
    simp only [interpret, map_eq_ok_iff, Response.mk.injEq, answered.injEq]
    constructor
    · rintro ⟨_, hbody, rfl, rfl, rfl⟩
      exact ⟨headers', payload', ⟨rfl, rfl, rfl⟩, hbody, rfl⟩
    · rintro ⟨_, _, ⟨rfl, rfl, rfl⟩, hbody, rfl⟩
      exact ⟨body, hbody, rfl, rfl, rfl⟩
  | lost | unreachable => simp [interpret]

/-- A reply that takes too long. -/
inductive Stalls : Reply → Prop
  | answer : Stalls (.lost .timeout)
  | connection : Stalls (.unreachable .timeout)
  | body {status : Nat} {headers : List (String × List UInt8)} :
    Stalls (.answered status headers (.lost .timeout))

theorem stalls_iff (url : Url) :
    reply.Stalls ↔ ∃ f, reply.interpret url = .error f ∧ f.why = .timeout := by
  constructor
  · rintro (_ | _ | _) <;> exact ⟨_, rfl, rfl⟩
  · rintro ⟨f, hf, hwhy⟩
    cases reply with
    | lost why =>
      cases hf
      cases hwhy
      exact .answer
    | unreachable why =>
      cases hf
      cases hwhy
      exact .connection
    | answered status headers payload =>
      cases payload with
      | lost why =>
        cases hf
        cases hwhy
        exact .body
      | whole bytes decoded =>
        simp only [interpret, Payload.content] at hf
        split at hf
        · cases hf
        · cases decoded with
          | content bytes => cases hf
          | fault cause =>
            cases hf
            cases hwhy

end Reply

theorem Response.isSuccess_iff {response : Response} :
    response.isSuccess ↔ 200 ≤ response.status ∧ response.status < 300 := by
  rw [isSuccess, Bool.and_eq_true, decide_eq_true_eq, decide_eq_true_eq]

/-! ### Requests -/

/-- What a server is told of a URL has no user in it in any case. -/
theorem anonymous_withoutCredentials (u : Url) :
    (withoutCredentials u).anonymous = u.anonymous := by
  obtain ⟨scheme, authority, path, query, fragment⟩ := u
  cases authority with
  | none => rfl
  | some a =>
    simp only [withoutCredentials, Url.anonymous, Option.map_some]
    split <;> rfl

theorem target_withoutCredentials (method : Method) (u : Url) (headers : List (String × String))
    (body : List UInt8) : Sent.target ⟨method, withoutCredentials u, headers, body⟩ =
      ({ u.anonymous with fragment := none } : Url).text := by
  rw [Sent.target, anonymous_withoutCredentials]

theorem hasUriHost_withoutCredentials (u : Url) :
    hasUriHost (withoutCredentials u) = hasUriHost u := by
  rw [hasUriHost, hasUriHost, withoutCredentials]
  cases u.authority with
  | none => rfl
  | some a =>
    simp only [Option.map_some, Option.all_some]
    split <;> rfl

/-- A URL is sent as a URI if its host and the length of what is sent of it allow that. -/
theorem isUri_withoutCredentials_iff {u : Url} : isUri (withoutCredentials u) ↔
    hasUriHost u ∧ (withoutCredentials u).text.utf8ByteSize ≤ longestUri := by
  rw [isUri, Bool.and_eq_true, decide_eq_true_eq, hasUriHost_withoutCredentials]

/-- The header about the user whom a URL names, if it names one. -/
def userHeaders (url : Url) : List (String × String) :=
  (url.authority.bind credentials?).toList.map basicHeader

/-- The headers that every request has behind its own. -/
def defaultHeaders : List (String × String) :=
  [("accept", "*/*"), ("user-agent", userAgent), ("accept-encoding", "gzip, br")]

theorem fst_of_mem_userHeaders {url : Url} {h : String × String} (hh : h ∈ userHeaders url) :
    h.1 = "authorization" := by
  obtain ⟨credentials, -, rfl⟩ := List.mem_map.mp hh
  rfl

theorem withDefault_of_forall_ne {name value : String} {headers : List (String × String)}
    (h : ∀ header ∈ headers, header.1 ≠ name) :
    withDefault name value headers = headers ++ [(name, value)] := by
  have hnone : headers.any (·.1 == name) = false := by simpa using h
  rw [withDefault, hnone, if_neg Bool.false_ne_true]

/-- Headers about nothing that every request tells are followed by what it tells. -/
theorem withDefaults_eq {headers : List (String × String)} (h : ∀ header ∈ headers,
    header.1 ∉ ["accept", "user-agent", "range", "accept-encoding"]) :
    withDefaults headers = headers ++ defaultHeaders := by
  have hne {name : String} (hname : name ∈ ["accept", "user-agent", "range", "accept-encoding"]) :
      ∀ header ∈ headers, header.1 ≠ name := fun header hh heq => h header hh (heq ▸ hname)
  have hrange : (headers ++ [("accept", "*/*"), ("user-agent", userAgent)]).any
      (·.1 == "range") = false := by
    rw [List.any_append, Bool.or_eq_false_iff]
    exact ⟨by simpa using hne (by decide : "range" ∈ _), rfl⟩
  have hagent : withDefault "user-agent" userAgent (withDefault "accept" "*/*" headers) =
      headers ++ [("accept", "*/*"), ("user-agent", userAgent)] := by
    rw [withDefault_of_forall_ne (hne (by decide)), withDefault_of_forall_ne]
    · simp
    · exact List.forall_mem_append.mpr ⟨hne (by decide), by simp⟩
  rw [withDefaults, hagent, hrange, if_neg Bool.false_ne_true, withDefault_of_forall_ne]
  · simp [defaultHeaders]
  · exact List.forall_mem_append.mpr ⟨hne (by decide), by simp⟩

namespace Request

/-- The full URL of a request is its address with the pairs. -/
theorem fullUrl_eq (r : Request) :
    r.fullUrl = (Url.parse r.url).map fun base => base.withPairs r.pairs := by
  rw [fullUrl]
  cases Url.parse r.url <;> rfl

theorem fullUrl_of_pairs (r : Request) (h : r.pairs = []) : r.fullUrl = Url.parse r.url := by
  rw [fullUrl_eq, h]
  cases Url.parse r.url <;> rfl

/-- A request without headers and JSON is sent with those that every request has. -/
theorem sentHeaders_of_nil {r : Request} (hheaders : r.headers = [])
    (hbody : ∀ value, r.body ≠ some (.json value)) (url : Url) :
    r.sentHeaders url = userHeaders url ++ defaultHeaders := by
  have hgiven : r.sentHeaders url = withDefaults (userHeaders url) := by
    rw [sentHeaders, hheaders, List.map_nil, List.append_nil]
    split
    · next value h => exact absurd h (hbody value)
    · rfl
  rw [hgiven, withDefaults_eq]
  intro h hh
  rw [fst_of_mem_userHeaders hh]
  decide

variable {r : Request} {url : Url} {q : Sent}

/-- A request is sent to a URL exactly if this is one of the web, with the host of a URI and not
too long, and the headers can be written. -/
theorem build_eq_ok_iff : r.build url = .ok q ↔
    url.hasHost ∧ r.headers.all (isHeaderValue ·.2) ∧ (url.scheme = "http" ∨ url.scheme = "https") ∧
      isUri (withoutCredentials url) ∧
      q = ⟨r.method, withoutCredentials url, r.sentHeaders url, r.sentBody⟩ := by
  rw [build]
  by_cases hhost : url.hasHost
  · by_cases hheaders : r.headers.all (isHeaderValue ·.2)
    · by_cases hscheme : url.scheme = "http" ∨ url.scheme = "https"
      · have hnot : ¬(url.scheme ≠ "http" ∧ url.scheme ≠ "https") :=
          fun h => hscheme.elim h.1 h.2
        by_cases huri : isUri (withoutCredentials url)
        · simp [hhost, hheaders, hscheme, hnot, huri, eq_comm (a := q)]
        · simp [hhost, hheaders, hnot, huri]
      · have hboth : url.scheme ≠ "http" ∧ url.scheme ≠ "https" := not_or.mp hscheme
        simp [hhost, hheaders, hboth]
    · simp [hhost, hheaders]
  · simp [hhost]

theorem prepare_eq_ok_iff : r.prepare = .ok q ↔
    ∃ url, r.fullUrl = .ok url ∧ url.hasHost ∧ r.headers.all (isHeaderValue ·.2) ∧
      (url.scheme = "http" ∨ url.scheme = "https") ∧ isUri (withoutCredentials url) ∧
      q = ⟨r.method, withoutCredentials url, r.sentHeaders url, r.sentBody⟩ := by
  rw [prepare]
  cases r.fullUrl with
  | error f => simp
  | ok url => simp only [mapError_eq_ok_iff, build_eq_ok_iff, Except.ok.injEq, exists_eq_left']

/-- What is sent for a request has its method and its body, and goes to its URL. -/
theorem prepare_eq_ok (h : r.prepare = .ok q) : ∃ url, r.fullUrl = .ok url ∧
    q = ⟨r.method, withoutCredentials url, r.sentHeaders url, r.sentBody⟩ := by
  obtain ⟨url, hurl, -, -, -, -, hq⟩ := prepare_eq_ok_iff.mp h
  exact ⟨url, hurl, hq⟩

/-- What is built fails for a lasting reason, and at the first stage. -/
theorem build_eq_error {f : Failure} (h : r.build url = .error f) :
    f.stage = .builder ∧ f.why ≠ .timeout := by
  rw [build] at h
  iterate 4
    split at h
    · cases h
      exact ⟨rfl, Interruption.noConfusion⟩
  cases h

/-- Nothing times out before it is sent. -/
theorem prepare_ne_timeout : r.prepare ≠ .error .timeout := by
  rw [prepare]
  split
  · simp
  · rw [ne_eq, mapError_eq_error_iff]
    rintro ⟨f, hf, htold⟩
    rw [TransportFault.ofFailure, if_neg (build_eq_error hf).2] at htold
    cases htold

end Request

end ImageBot.Http
