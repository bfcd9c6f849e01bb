import ImageBot.Proofs.Json.Texts
import ImageBot.Proofs.Search.Outcome
import ImageBot.Service.Basic
/-!
# The stages of a command

A command searches, fetches what is found, and stores it; its reply is delivered at the end.
Each stage leaves one trail at most. The predicates on trails say what they lead to, and
`Homeserver.Steps` at which of its steps an upload ends.
`Course.Made` says which requests are made, each of them depending on the trail before it
only, and `Course.Ends` what becomes of the command.
-/
namespace ImageBot

open Http Http.Network

namespace Http.Trail

/-- What comes of a trail is a whole file. -/
def Fetches (t : Trail) (source : Response) : Prop :=
  ∃ headers, t.Brings source.status headers source.body ∧
    source.headers = collectHeaders (passed headers) ∧ 200 ≤ source.status ∧ source.status < 300

/-- What comes of a trail tells the place of a stored file. -/
def Stores (t : Trail) (uri : ContentUri) : Prop :=
  ∃ body, t.Answers 200 body ∧ uri.text ≠ "" ∧ Json.Document.Tells "content_uri" uri.text body

/-- What comes of a trail tells the event of a message. -/
def Accepts (t : Trail) (event : String) : Prop :=
  ∃ body, t.Answers 200 body ∧ Json.Document.Tells "event_id" event body

theorem fetches_iff {t : Trail} {source : Response} :
    t.Fetches source ↔ t.answer = .ok source ∧ source.isSuccess := by
  simp only [Fetches, answer_eq_ok_iff, Response.isSuccess_iff]
  constructor
  · rintro ⟨headers, ht, hh, hs⟩
    exact ⟨⟨headers, ht, hh⟩, hs⟩
  · rintro ⟨⟨headers, ht, hh⟩, hs⟩
    exact ⟨headers, ht, hh, hs⟩

end Http.Trail

open Homeserver

namespace Homeserver

theorem ofSettings_eq_ok (client : Client) (settings : MatrixSettings) {url : Url}
    (h : Url.parse settings.homeserverUrl = .ok url) :
    ofSettings client settings = .ok ⟨client, url, settings.accessToken⟩ := by
  rw [ofSettings, h]

theorem parse_of_ofSettings {client : Client} {settings : MatrixSettings} {h : Homeserver}
    (hh : ofSettings client settings = .ok h) : Url.parse settings.homeserverUrl = .ok h.url := by
  rw [ofSettings] at hh
  split at hh
  · next url hurl =>
    cases hh
    exact hurl
  · cases hh

end Homeserver

/-- The place of a file is read from an answer that tells it. -/
theorem Homeserver.decode_contentUriRecord_iff {body : List UInt8} {text : String} :
    Json.decode contentUriRecord.decode body = .ok (some text) ↔
      Json.Document.Tells "content_uri" text body :=
  Json.Record.decode_eq_some_iff rfl rfl

/-- The event of a message is read from an answer that tells it. -/
theorem Homeserver.decode_eventIdRecord_iff {body : List UInt8} {text : String} :
    Json.decode eventIdRecord.decode body = .ok (some text) ↔
      Json.Document.Tells "event_id" text body :=
  Json.Record.decode_eq_some_iff rfl rfl

theorem uploaded_eq_ok_iff {response : Response} {uri : ContentUri} :
    uploaded response = .ok uri ↔ response.status = 200 ∧ uri.text ≠ "" ∧
      Json.Document.Tells "content_uri" uri.text response.body := by
  obtain ⟨uri⟩ := uri
  rw [uploaded, Response.decode, ← decode_contentUriRecord_iff]
  by_cases hs : response.status = 200
  · rw [if_neg (not_not_intro hs)]
    rcases Json.decode contentUriRecord.decode response.body with e | _ | found
    · simp
    · simp
    · by_cases hf : found = ""
      · subst hf
        have he : ("" : String).isEmpty := rfl
        simp only [he, if_true, reduceCtorEq, Except.ok.injEq, Option.some.injEq, false_iff]
        rintro ⟨-, hne, heq⟩
        exact hne heq.symm
      · simp only [String.isEmpty_iff, hf, if_false, Except.ok.injEq, ContentUri.mk.injEq,
          Option.some.injEq, hs, true_and]
        constructor
        · rintro rfl
          exact ⟨hf, rfl⟩
        · rintro ⟨-, rfl⟩
          rfl
  · simp [hs]

theorem delivered_eq_ok_iff {response : Response} {event : String} :
    delivered response = .ok event ↔ response.status = 200 ∧
      Json.Document.Tells "event_id" event response.body := by
  rw [delivered, Response.decode, ← decode_eventIdRecord_iff]
  by_cases hs : response.status = 200
  · rw [if_neg (not_not_intro hs)]
    rcases Json.decode eventIdRecord.decode response.body with e | _ | found <;> simp [hs]
  · simp [hs]

namespace Http.Trail

variable {t : Trail}

theorem stores_iff {uri : ContentUri} : t.Stores uri ↔
    ∃ response, t.answer = .ok response ∧ uploaded response = .ok uri := by
  simp only [Stores, answers_iff, uploaded_eq_ok_iff]
  constructor
  · rintro ⟨_, ⟨response, ht, hs, rfl⟩, htold⟩
    exact ⟨response, ht, hs, htold⟩
  · rintro ⟨response, ht, hs, htold⟩
    exact ⟨_, ⟨response, ht, hs, rfl⟩, htold⟩

theorem not_stores_of_answer {f : TransportFault} (ht : t.answer = .error f) {uri : ContentUri} :
    ¬t.Stores uri := by
  simp [stores_iff, ht]

theorem accepts_iff {event : String} : t.Accepts event ↔
    ∃ response, t.answer = .ok response ∧ delivered response = .ok event := by
  simp only [Accepts, answers_iff, delivered_eq_ok_iff]
  constructor
  · rintro ⟨_, ⟨response, ht, hs, rfl⟩, htold⟩
    exact ⟨response, ht, hs, htold⟩
  · rintro ⟨response, ht, hs, htold⟩
    exact ⟨_, ⟨response, ht, hs, rfl⟩, htold⟩

end Http.Trail

/-- The request that stores a file, which must be there as a whole. -/
def Homeserver.storing (h : Homeserver) (link : String) (source : Response) :
    Except UploadError Request :=
  if !source.isSuccess then .error (.fetch link source.status)
  else match h.endpoint uploadPath with
    | .error f => .error (.invalidHomeserver f)
    | .ok url => .ok (h.uploadRequest url source)

/-- An upload fetches the file and stores it. -/
theorem Homeserver.uploadLink_eq (h : Homeserver) (link : String) :
    h.uploadLink link = h.client.execute (Request.bare .get link) >>= fun fetched =>
      match fetched with
      | .error f => return .error (h.uploadTransport f)
      | .ok source => h.client.stage (h.storing link source) h.uploadTransport uploaded := by
  unfold uploadLink storing
  congr 1
  funext reply
  cases reply with
  | error f => rfl
  | ok source =>
    cases hs : source.isSuccess with
    | false => simp [hs, Client.stage]
    | true =>
      simp only [hs, Bool.not_true, Bool.false_eq_true, if_false]
      cases h.endpoint uploadPath <;> rfl

namespace Homeserver

/-- How an upload ends: at the first of its steps that fails, or by the answer to the last. -/
inductive Steps (h : Homeserver) (link : String) :
    Option Trail → Option Trail → Except UploadError ContentUri → Prop
  /-- The file cannot be asked for. -/
  | unasked {f : TransportFault} (hp : (Request.bare .get link).prepare = .error f) :
    Steps h link none none (.error (h.uploadTransport f))
  /-- No file comes. -/
  | lost {t : Trail} {f : TransportFault} (hp : h.client.Leaves (.bare .get link) t)
    (hi : t.answer = .error f) :
    Steps h link (some t) none (.error (h.uploadTransport f))
  /-- What comes is not the file. -/
  | refused {t : Trail} {source : Response}
    (hp : h.client.Leaves (.bare .get link) t)
    (hi : t.answer = .ok source) (hs : source.isSuccess = false) :
    Steps h link (some t) none (.error (.fetch link source.status))
  /-- There is no endpoint for the file. -/
  | homeless {t : Trail} {source : Response} {fault : Url.Fault}
    (hp : h.client.Leaves (.bare .get link) t)
    (hi : t.answer = .ok source) (hs : source.isSuccess)
    (hb : h.endpoint uploadPath = .error fault) :
    Steps h link (some t) none (.error (.invalidHomeserver fault))
  /-- The file cannot be sent there. -/
  | unsent {t : Trail} {source : Response} {url : Url} {f : TransportFault}
    (hp : h.client.Leaves (.bare .get link) t)
    (hi : t.answer = .ok source) (hs : source.isSuccess)
    (hb : h.endpoint uploadPath = .ok url)
    (hp' : (h.uploadRequest url source).prepare = .error f) :
    Steps h link (some t) none (.error (h.uploadTransport f))
  /-- Nothing comes back. -/
  | unanswered {t u : Trail} {source : Response} {url : Url} {f : TransportFault}
    (hp : h.client.Leaves (.bare .get link) t)
    (hi : t.answer = .ok source) (hs : source.isSuccess)
    (hb : h.endpoint uploadPath = .ok url)
    (hp' : h.client.Leaves (h.uploadRequest url source) u)
    (hi' : u.answer = .error f) :
    Steps h link (some t) (some u) (.error (h.uploadTransport f))
  /-- The homeserver answers. -/
  | answered {t u : Trail} {source response : Response} {url : Url}
    (hp : h.client.Leaves (.bare .get link) t)
    (hi : t.answer = .ok source) (hs : source.isSuccess)
    (hb : h.endpoint uploadPath = .ok url)
    (hp' : h.client.Leaves (h.uploadRequest url source) u)
    (hi' : u.answer = .ok response) :
    Steps h link (some t) (some u) (uploaded response)

/-- Every upload takes the steps. -/
theorem exists_steps (h : Homeserver) (link : String) (n : Network) :
    ∃ fetch store, n.Carries (fetch.toList ++ store.toList) ((h.uploadLink link).run n).2 ∧
      h.Steps link fetch store ((h.uploadLink link).run n).1 := by
  rw [uploadLink_eq]
  rcases h.client.run_execute (Request.bare .get link) n with ⟨f, hp, hr⟩ | ⟨t, m, hp, hc, hr⟩
  · simp only [run_bind, hr, run_pure]
    exact ⟨none, none, .nil n, .unasked hp⟩
  · simp only [run_bind, hr]
    cases hi : t.answer with
    | error f =>
      simp only [run_pure]
      exact ⟨some t, none, hc, .lost hp hi⟩
    | ok source =>
      cases hs : source.isSuccess with
      | false =>
        simp only [Client.stage, storing, hs, Bool.not_false, if_true, run_pure]
        exact ⟨some t, none, hc, .refused hp hi hs⟩
      | true =>
        simp only [Client.stage, storing, hs, Bool.not_true, Bool.false_eq_true, if_false]
        cases hb : h.endpoint uploadPath with
        | error fault =>
          simp only [run_pure]
          exact ⟨some t, none, hc, .homeless hp hi hs hb⟩
        | ok url =>
          rcases h.client.run_execute (h.uploadRequest url source) m with
            ⟨f, hp', hr'⟩ | ⟨u, k, hp', hc', hr'⟩
          · simp only [run_bind, hr', run_pure]
            exact ⟨some t, none, hc, .unsent hp hi hs hb hp'⟩
          · simp only [run_bind, hr']
            refine ⟨some t, some u, ?_⟩
            cases hi' : u.answer with
            | error f =>
              simp only [run_pure]
              exact ⟨hc.append hc', .unanswered hp hi hs hb hp' hi'⟩
            | ok response =>
              simp only [run_pure]
              exact ⟨hc.append hc', .answered hp hi hs hb hp' hi'⟩

namespace Steps

variable {h : Homeserver} {link : String} {fetch store : Option Trail}
  {result : Except UploadError ContentUri}

theorem fetch_eq (hsteps : h.Steps link fetch store result) :
    fetch.map Trail.first = (Request.bare .get link).prepare.toOption := by
  cases hsteps with
  | unasked hp => rw [hp]; rfl
  | lost hp | refused hp | homeless hp | unsent hp | unanswered hp | answered hp =>
    rw [hp.first]
    rfl

theorem store_iff (hsteps : h.Steps link fetch store result) (q : Sent) :
    store.map Trail.first = some q ↔ ∃ t ∈ fetch, ∃ source url, t.Fetches source ∧
      h.endpoint uploadPath = .ok url ∧ (h.uploadRequest url source).prepare = .ok q := by
  cases hsteps with
  | unasked hp => simp
  | lost hp hi => simp [Trail.fetches_iff, hi]
  | refused hp hi hs => simp [Trail.fetches_iff, hi, hs]
  | homeless hp hi hs hb => simp [hb]
  | unsent hp hi hs hb hp' => simp [Trail.fetches_iff, hi, hb, hp']
  | unanswered hp hi hs hb hp' hi' => simp [Trail.fetches_iff, hi, hs, hb, hp'.first, and_assoc]
  | answered hp hi hs hb hp' hi' => simp [Trail.fetches_iff, hi, hs, hb, hp'.first, and_assoc]

theorem left_fetch (hsteps : h.Steps link fetch store result) :
    ∀ t ∈ fetch, t.left = h.client.redirects := by
  cases hsteps with
  | unasked => simp
  | lost hp | refused hp | homeless hp | unsent hp | unanswered hp | answered hp =>
    simpa using hp.left

theorem left_store (hsteps : h.Steps link fetch store result) :
    ∀ u ∈ store, u.left = h.client.redirects := by
  cases hsteps with
  | unasked | lost | refused | homeless | unsent => simp
  | unanswered _ _ _ _ hp' | answered _ _ _ _ hp' => simpa using hp'.left

theorem ok_iff (hsteps : h.Steps link fetch store result) (uri : ContentUri) :
    result = .ok uri ↔ ∃ u ∈ store, u.Stores uri := by
  cases hsteps with
  | unasked | lost | refused | homeless | unsent => simp
  | unanswered hp hi hs hb hp' hi' => simp [Trail.not_stores_of_answer hi']
  | answered hp hi hs hb hp' hi' => simp [Trail.stores_iff, hi']

end Steps

end Homeserver

/-- The request that delivers a message. -/
def Homeserver.delivering (h : Homeserver) (room : String) (message : Message)
    (transaction : String) : Except DeliveryError Request :=
  match h.endpoint (messagePath room transaction) with
  | .error f => .error (.invalidHomeserver f)
  | .ok url => .ok (h.messageRequest url message)

theorem Homeserver.sendMessage_eq_stage (h : Homeserver) (room : String) (message : Message)
    (transaction : String) : h.sendMessage room message transaction =
      h.client.stage (h.delivering room message transaction) (fun f => .transport f.message)
        delivered := by
  rw [sendMessage, delivering]
  cases h.endpoint (messagePath room transaction) <;> rfl

/-- A delivery leaves one trail at most, and succeeds exactly if the answer to it tells the
event. -/
theorem Homeserver.run_sendMessage (h : Homeserver) (room : String) (message : Message)
    (transaction : String) (n : Network) :
    ∃ trail : Option Trail,
      n.Carries trail.toList ((h.sendMessage room message transaction).run n).2 ∧
      (∀ t ∈ trail, t.left = h.client.redirects) ∧
      (∀ q, trail.map Trail.first = some q ↔ ∃ url,
        h.endpoint (messagePath room transaction) = .ok url ∧
          (h.messageRequest url message).prepare = .ok q) ∧
      ∀ event, ((h.sendMessage room message transaction).run n).1 = .ok event ↔
        ∃ t ∈ trail, t.Accepts event := by
  rw [sendMessage_eq_stage]
  obtain ⟨trail, hc, hleft, hq, ha⟩ := h.client.run_stage (h.delivering room message transaction)
    (fun f => DeliveryError.transport f.message) delivered n
  refine ⟨trail, hc, hleft, ?_, ?_⟩
  · intro q
    rw [hq, delivering]
    cases h.endpoint (messagePath room transaction) <;> simp
  · intro event
    simp only [ha, Trail.accepts_iff]

/-- The trails of a command, stage by stage. -/
structure Course where
  search : Option Trail
  link : Option Trail
  upload : Option Trail
  delivery : Option Trail

namespace Course

/-- A command that needs no network. -/
def silent : Course := ⟨none, none, none, none⟩

/-- The trails in the order of the stages. -/
def trails (c : Course) : List Trail :=
  c.search.toList ++ c.link.toList ++ c.upload.toList ++ c.delivery.toList

/-- The requests up to the upload that are made for a phrase, if there is one to search for. -/
structure Made (c : Course) (s : ImageSearch) (h : Homeserver) (phrase? : Option String) :
    Prop where
  search : ∀ q, c.search.map Trail.first = some q ↔
    ∃ phrase ∈ phrase?, (s.request phrase).prepare = .ok q
  link : ∀ q, c.link.map Trail.first = some q ↔
    ∃ t ∈ c.search, ∃ item, t.Finds item ∧ item.link ≠ "" ∧
      (Request.bare .get item.link).prepare = .ok q
  upload : ∀ q, c.upload.map Trail.first = some q ↔
    ∃ t ∈ c.link, ∃ source url, t.Fetches source ∧ h.endpoint uploadPath = .ok url ∧
      (h.uploadRequest url source).prepare = .ok q

/-- What becomes of an image command, by its trails. -/
inductive Ends (c : Course) (s : ImageSearch) (h : Homeserver) (phrase : String) :
    Except CommandError Message → Prop
  | unfound {e : SearchError} (hs : s.Searches phrase c.search (.error e)) :
    Ends c s h phrase (.error (.search e))
  | unlinked {t : Trail} {item : Search.Item} (hs : t ∈ c.search) (hf : t.Finds item)
    (hl : item.link = "") : Ends c s h phrase (.ok (.notice noImageFound))
  | unstored {t : Trail} {item : Search.Item} {e : UploadError} (hs : t ∈ c.search)
    (hf : t.Finds item) (hl : item.link ≠ "")
    (hu : h.Steps item.link c.link c.upload (.error e)) : Ends c s h phrase (.error (.upload e))
  | posted {t u : Trail} {item : Search.Item} {uri : ContentUri} (hs : t ∈ c.search)
    (hf : t.Finds item) (hl : item.link ≠ "") (hu : u ∈ c.upload) (hst : u.Stores uri) :
    Ends c s h phrase (.ok (Relay.imageMessage phrase item uri))

end Course

theorem Relay.run_handle (r : Relay) (phrase : String) (n : Network) :
    (r.handle phrase).run n = match (r.search.search phrase).run n with
      | (.error e, m) => (.error (.search e), m)
      | (.ok item, m) => (r.post phrase item).run m := by
  simp only [handle, run_bind]
  rcases (r.search.search phrase).run n with ⟨e | item, m⟩ <;> rfl

theorem Relay.run_post (r : Relay) (phrase : String) (item : Search.Item) (n : Network) :
    (r.post phrase item).run n = if item.link = "" then (.ok (.notice noImageFound), n)
      else match (r.upload item.link).run n with
        | (.error e, m) => (.error (.upload e), m)
        | (.ok uri, m) => (.ok (imageMessage phrase item uri), m) := by
  by_cases hl : item.link = ""
  · simp only [post, hl, String.isEmpty_iff, if_true, run_pure]
  · simp only [post, hl, String.isEmpty_iff, if_false, run_bind]
    rcases (r.upload item.link).run n with ⟨e | uri, m⟩ <;> rfl

namespace Course

variable {asked : Option Trail} {s : ImageSearch} {h : Homeserver} {phrase : String}

/-- A search in which nothing with a link is found makes no further request. -/
theorem Made.of_search {found : Except SearchError Search.Item}
    (hs : s.Searches phrase asked found)
    (hno : ∀ t ∈ asked, ∀ item, t.Finds item → item.link = "") :
    Made ⟨asked, none, none, none⟩ s h (some phrase) := by
  refine ⟨?_, ?_, by simp⟩
  · intro q
    simp [hs.first_iff]
  · intro q
    simp only [Option.map_none, reduceCtorEq, false_iff]
    rintro ⟨t, ht, item, hf, hl, -⟩
    exact hl (hno t ht item hf)

end Course

/-- What was found is posted in the trails that it asks for. -/
theorem Service.run_post {s : ImageSearch} {h : Homeserver} {asked : Option Trail}
    {phrase : String} {item : Search.Item} (hsearch : s.Searches phrase asked (.ok item))
    (n : Network) :
    ∃ fetched stored : Option Trail,
      n.Carries (fetched.toList ++ stored.toList)
        (((Relay.mk s h.uploadLink).post phrase item).run n).2 ∧
      (∀ t ∈ fetched, t.left = h.client.redirects) ∧ (∀ t ∈ stored, t.left = h.client.redirects) ∧
      Course.Made ⟨asked, fetched, stored, none⟩ s h (some phrase) ∧
      Course.Ends ⟨asked, fetched, stored, none⟩ s h phrase
        (((Relay.mk s h.uploadLink).post phrase item).run n).1 := by
  obtain ⟨t, ht, hf⟩ := (hsearch.ok_iff item).mp rfl
  have hitem : ∀ t' ∈ asked, ∀ item', t'.Finds item' → item' = item := by
    intro t' ht' item' hf'
    cases Option.mem_unique ht ht'
    exact hf'.unique hf
  rw [Relay.run_post]
  by_cases hl : item.link = ""
  · rw [if_pos hl]
    refine ⟨none, none, .nil n, by simp, by simp, .of_search hsearch ?_, .unlinked ht hf hl⟩
    intro t' ht' item' hf'
    rw [hitem t' ht' item' hf', hl]
  · rw [if_neg hl]
    obtain ⟨fetched, stored, hc, hsteps⟩ := h.exists_steps item.link n
    refine ⟨fetched, stored, ?_, hsteps.left_fetch, hsteps.left_store,
      ⟨?_, ?_, hsteps.store_iff⟩, ?_⟩
    · rcases hu : (h.uploadLink item.link).run n with ⟨e | uri, m⟩ <;> rw [hu] at hc <;> exact hc
    · intro q
      simp [hsearch.first_iff]
    · intro q
      rw [hsteps.fetch_eq, toOption_eq_some_iff]
      constructor
      · intro hp
        exact ⟨t, ht, item, hf, hl, hp⟩
      · rintro ⟨t', ht', item', hf', -, hp⟩
        rwa [hitem t' ht' item' hf'] at hp
    · rcases hu : (h.uploadLink item.link).run n with ⟨e | uri, m⟩
      · rw [hu] at hsteps
        exact .unstored ht hf hl hsteps
      · rw [hu] at hsteps
        obtain ⟨u, hu', hst⟩ := (hsteps.ok_iff uri).mp rfl
        exact .posted ht hf hl hu' hst

/-- A phrase is searched for, and what is found is uploaded, in one course. -/
theorem Service.run_relay (g : GoogleSettings) (h : Homeserver) (phrase : String) (n : Network) :
    ∃ c : Course, c.delivery = none ∧ (∀ t ∈ c.trails, t.left = h.client.redirects) ∧
      n.Carries c.trails (((relay h.client g h).handle phrase).run n).2 ∧
      c.Made (.ofSettings h.client g) h (some phrase) ∧
      c.Ends (.ofSettings h.client g) h phrase (((relay h.client g h).handle phrase).run n).1 := by
  have hrun := Relay.run_handle ⟨.ofSettings h.client g, h.uploadLink⟩ phrase n
  rw [relay]
  rcases hr : ((ImageSearch.ofSettings h.client g).search phrase).run n with ⟨e | item, m⟩
  · obtain ⟨asked, hsearch, hc⟩ := ImageSearch.run_search_iff.mp hr
    simp only [hr] at hrun
    rw [hrun]
    refine ⟨⟨asked, none, none, none⟩, rfl, ?_, ?_, .of_search hsearch ?_, .unfound hsearch⟩
    · intro t ht
      exact hsearch.left t (by simpa [Course.trails] using ht)
    · simpa [Course.trails] using hc
    · intro t ht item hf
      cases (hsearch.ok_iff item).mpr ⟨t, ht, hf⟩
  · obtain ⟨asked, hsearch, hc⟩ := ImageSearch.run_search_iff.mp hr
    simp only [hr] at hrun
    obtain ⟨fetched, stored, hc', hfetch, hstore, hmade, hends⟩ := run_post (h := h) hsearch m
    rw [hrun]
    refine ⟨⟨asked, fetched, stored, none⟩, rfl, ?_, ?_, hmade, hends⟩
    · intro t ht
      simp only [Course.trails, List.mem_append, Option.mem_toList, Option.toList_none,
        List.append_nil] at ht
      rcases ht with (ht | ht) | ht
      · exact hsearch.left t ht
      · exact hfetch t ht
      · exact hstore t ht
    · simpa [Course.trails, List.append_assoc] using hc.append hc'

end ImageBot
