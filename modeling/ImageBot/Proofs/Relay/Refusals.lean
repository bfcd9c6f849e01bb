import ImageBot.Proofs.Homeserver.Requests
import ImageBot.Proofs.Http.Refusal
import ImageBot.Proofs.Search.Key
/-!
# Stages that are refused

A search, an upload and a delivery each fail in their own way for a request that was refused. For
each of them it is told by the addresses, and for the homeserver by the token, whether this
happens; what the network replies has no part in it, and neither have files and messages.
-/
namespace ImageBot

open Http Url

/-! ## Searches -/

/-- The search was not sent. -/
def SearchError.IsRefusal : SearchError → Prop
  | invalidEndpoint _ => True
  | transport text => Http.IsRefusal text
  | _ => False

namespace ImageSearch

variable {s : ImageSearch} {base : Url}

theorem isRefusal_transportError (f : TransportFault) :
    (s.transportError f).IsRefusal ↔ IsRefusal f.message := by
  cases f with
  | invalidUrl fault => exact iff_of_true trivial (isRefusal_invalidUrl fault)
  | timeout => exact iff_of_false id (by decide +kernel)
  | failed text => exact Iff.rfl

theorem not_isRefusal_of_firstResult {response : Response} {e : SearchError}
    (h : firstResult response = .error e) : ¬e.IsRefusal := by
  rw [firstResult] at h
  split at h
  · cases h
    exact id
  · split at h
    · cases h
      exact id
    · split at h
      · cases h
        exact id
      · cases h

/-- A search is sent exactly if its address is one of the web that can be that of a URI, and is
not too long. -/
theorem prepare_iff (hbase : Url.parse s.baseUrl = .ok base) (phrase : String) :
    (∃ q, (s.request phrase).prepare = .ok q) ↔
      (base.scheme = "http" ∨ base.scheme = "https") ∧ hasUriHost base ∧ s.Fits phrase := by
  have hfull : (s.request phrase).fullUrl = .ok (base.withPairs (s.request phrase).pairs) :=
    Request.fullUrl_eq_ok hbase
  rw [fits_iff_of_base hbase]
  constructor
  · rintro ⟨q, hq⟩
    obtain ⟨url, hurl, -, -, hweb, huri, -⟩ := Request.prepare_eq_ok_iff.mp hq
    rw [hfull, Except.ok.injEq] at hurl
    subst hurl
    rw [isUri_withoutCredentials_iff] at huri
    exact ⟨hweb, huri⟩
  · rintro ⟨hweb, hhost, hshort⟩
    have huri : isUri (withoutCredentials (base.withPairs (s.request phrase).pairs)) := by
      rw [isUri_withoutCredentials_iff]
      exact ⟨hhost, hshort⟩
    have hserver : base.hasHost := hasHost_of_parse hweb hbase
    exact ⟨_, Request.prepare_eq_ok_iff.mpr ⟨_, hfull, hserver, rfl, hweb, huri, rfl⟩⟩

/-- A search is refused, and leaves the network as it is, exactly if it cannot be sent. -/
theorem search_refused_iff (hbase : Url.parse s.baseUrl = .ok base) (phrase : String)
    (n : Network) :
    (∃ e, (s.search phrase).run n = (.error e, n) ∧ e.IsRefusal) ↔
      ¬((base.scheme = "http" ∨ base.scheme = "https") ∧ hasUriHost base ∧ s.Fits phrase) := by
  rw [search_eq_stage, Client.stage_refused_iff isRefusal_transportError
    (fun _ _ => not_isRefusal_of_firstResult), ← prepare_iff hbase]
  simp

/-- A search fails for an address that cannot be read, and only then. -/
theorem search_eq_invalidEndpoint_iff (s : ImageSearch) (phrase : String) (n : Network)
    (fault : Fault) : ((s.search phrase).run n).1 = .error (.invalidEndpoint fault) ↔
      Url.parse s.baseUrl = .error fault := by
  have hfull : (s.request phrase).fullUrl = .error fault ↔ Url.parse s.baseUrl = .error fault := by
    rw [fullUrl_request]
    cases Url.parse s.baseUrl <;> simp [Except.map]
  rw [← hfull, ← s.client.execute_eq_invalidUrl_iff _ n]
  simp only [search, run_bind]
  cases ((s.client.execute (s.request phrase)).run n).1 with
  | error f =>
    simp only [run_pure]
    cases f <;> simp [transportError]
  | ok response =>
    simp only [run_pure, reduceCtorEq, iff_false]
    intro h
    exact not_isRefusal_of_firstResult h trivial

end ImageSearch

/-! ## Uploads and deliveries -/

/-- The file was not sent to the homeserver, or its source was not asked for it. -/
def UploadError.IsRefusal : UploadError → Prop
  | invalidHomeserver _ => True
  | transport text => Http.IsRefusal text
  | _ => False

/-- The message was not sent to the homeserver. -/
def DeliveryError.IsRefusal : DeliveryError → Prop
  | invalidHomeserver _ => True
  | transport text => Http.IsRefusal text
  | _ => False

namespace Homeserver

variable {h : Homeserver} {text : String}

/-- What is sent to an endpoint leaves: the homeserver serves, and the address is short. -/
def Takes (h : Homeserver) (segments : List String) : Prop :=
  h.Serves ∧ ∀ url, h.endpoint segments = .ok url → IsShort url

/-- A homeserver that is lacking an endpoint does not take anything. -/
theorem not_takes_of_endpoint (hparse : Url.parse text = .ok h.url) {segments : List String}
    {f : Fault} (hbelow : h.endpoint segments = .error f) : ¬h.Takes segments := by
  rintro ⟨hserves, -⟩
  obtain ⟨-, plain, hplain⟩ := endpoint_eq_error_iff.mp hbelow
  obtain ⟨first, others, hpath, -⟩ := (isWeb_of_parse hserves.scheme hparse).path
  rw [hplain] at hpath
  cases hpath

theorem takes_iff_of_endpoint {segments : List String} {url : Url}
    (hbelow : h.endpoint segments = .ok url) : h.Takes segments ↔ h.Serves ∧ IsShort url := by
  simp [Takes, hbelow]

theorem isRefusal_uploadTransport (f : TransportFault) :
    (h.uploadTransport f).IsRefusal ↔ IsRefusal f.message := by
  cases f with
  | invalidUrl fault => exact Iff.rfl
  | timeout => exact iff_of_false id (by decide +kernel)
  | failed text => exact Iff.rfl

theorem not_isRefusal_of_uploaded {response : Response} {e : UploadError}
    (h : uploaded response = .error e) : ¬e.IsRefusal := by
  rw [uploaded] at h
  split at h
  · cases h
    exact id
  · split at h
    · split at h
      · cases h
        exact id
      · cases h
    · cases h
      exact id

theorem not_isRefusal_of_delivered {response : Response} {e : DeliveryError}
    (h : delivered response = .error e) : ¬e.IsRefusal := by
  rw [delivered] at h
  split at h
  · cases h
    exact id
  · split at h
    · cases h
    · cases h
      exact id

/-- A delivery is refused exactly if the homeserver does not take it, whatever the message is. -/
theorem sendMessage_refused_iff (hparse : Url.parse text = .ok h.url) (room : String)
    (message : Message) (transaction : String) (n : Network) :
    (∃ e, (h.sendMessage room message transaction).run n = (.error e, n) ∧ e.IsRefusal) ↔
      ¬h.Takes (messagePath room transaction) := by
  rw [sendMessage_eq_stage, Client.stage_refused_iff (p := DeliveryError.IsRefusal)
    (fun _ => Iff.rfl) (fun _ _ => not_isRefusal_of_delivered), delivering]
  cases hbelow : h.endpoint (messagePath room transaction) with
  | error f => simp [not_takes_of_endpoint hparse hbelow, DeliveryError.IsRefusal]
  | ok url =>
    have hsent := prepare_messageRequest_iff hparse hbelow message
    rw [takes_iff_of_endpoint hbelow, ← hsent]
    simp

/-- A delivery fails for the address of a homeserver that is opaque, and only then. -/
theorem sendMessage_eq_invalidHomeserver_iff (h : Homeserver) (room : String) (message : Message)
    (transaction : String) (n : Network) (fault : Fault) :
    ((h.sendMessage room message transaction).run n).1 = .error (.invalidHomeserver fault) ↔
      fault = .noHierarchy ∧ ∃ plain, h.url.path = .plain plain := by
  have hiff : h.endpoint (messagePath room transaction) = .error fault ↔ _ :=
    endpoint_eq_error_iff
  rw [← hiff, sendMessage]
  cases h.endpoint (messagePath room transaction) with
  | error f =>
    simp only [run_pure]
    simp
  | ok url =>
    simp only [run_bind, reduceCtorEq, iff_false]
    cases ((h.client.execute (h.messageRequest url message)).run n).1 with
    | error f =>
      simp only [run_pure]
      simp
    | ok response =>
      simp only [run_pure]
      exact fun hfault => not_isRefusal_of_delivered hfault trivial

/-- A file that was fetched is refused, and the network left as it is, exactly if the homeserver
does not take it, whatever the file is. -/
theorem storing_refused_iff (hparse : Url.parse text = .ok h.url) (link : String)
    {source : Response} {received : List (String × List UInt8)}
    (hsource : source.headers = collectHeaders received) (n : Network) :
    (∃ e, (h.client.stage (h.storing link source) h.uploadTransport uploaded).run n =
      (.error e, n) ∧ e.IsRefusal) ↔ source.isSuccess ∧ ¬h.Takes uploadPath := by
  rw [Client.stage_refused_iff isRefusal_uploadTransport
    (fun _ _ => not_isRefusal_of_uploaded), storing]
  cases source.isSuccess with
  | false => simp [UploadError.IsRefusal]
  | true =>
    cases hbelow : h.endpoint uploadPath with
    | error f => simp [not_takes_of_endpoint hparse hbelow, UploadError.IsRefusal]
    | ok url =>
      have hsent := prepare_uploadRequest_iff hparse hbelow hsource
      rw [takes_iff_of_endpoint hbelow, ← hsent]
      simp

/-- Behind the fetch of its file an upload sends nothing more and reads like one that was refused
exactly if the fetch does, or if there is a file that the homeserver does not take. -/
theorem uploadLink_refused_iff (hparse : Url.parse text = .ok h.url) (link : String)
    (n : Network) :
    let fetched := (h.client.execute (Request.bare .get link)).run n
    (∃ e, (h.uploadLink link).run n = (.error e, fetched.2) ∧ e.IsRefusal) ↔
      (∃ f, fetched.1 = .error f ∧ IsRefusal f.message) ∨
        (∃ source, fetched.1 = .ok source ∧ source.isSuccess) ∧ ¬h.Takes uploadPath := by
  rw [uploadLink_eq]
  simp only [run_bind]
  rcases hrun : (h.client.execute (Request.bare .get link)).run n with ⟨f | source, m⟩
  · simp only [run_pure]
    constructor
    · rintro ⟨e, he, hrefusal⟩
      cases he
      exact .inl ⟨f, rfl, (isRefusal_uploadTransport f).mp hrefusal⟩
    · rintro (⟨f', hf, hrefusal⟩ | ⟨⟨source, hsource, -⟩, -⟩)
      · cases hf
        exact ⟨_, rfl, (isRefusal_uploadTransport f).mpr hrefusal⟩
      · cases hsource
  · obtain ⟨received, hheaders⟩ := Client.headers_of_execute (congrArg Prod.fst hrun)
    simp only [storing_refused_iff hparse link hheaders m]
    simp

end Homeserver

end ImageBot
