import ImageBot.Proofs.Http.Headers
import ImageBot.Proofs.Relay.Stages
import ImageBot.Proofs.Url.Endpoint
import ImageBot.Proofs.Url.Rereading
/-!
# Requests to the homeserver

An upload and a delivery have the token in one header, and go to an address that is written from
the address of the homeserver and read again. Both are sent exactly if the homeserver is one that
`Serves`, unless their address is too long. The file in an upload and the message in a delivery
never keep them from being sent.
-/
namespace ImageBot

open Http Text Url

namespace Http

theorem isHeaderValue_append (a b : String) :
    isHeaderValue (a ++ b) = (isHeaderValue a && isHeaderValue b) := by
  simp [isHeaderValue, Utf8.bytes]

/-- The words in front of a token do not matter. -/
theorem isHeaderValue_bearer (token : String) :
    isHeaderValue ("Bearer " ++ token) = isHeaderValue token := by
  have hbearer : isHeaderValue "Bearer " = true := by decide
  rw [isHeaderValue_append, hbearer, Bool.true_and]

/-- A header that was received and can be shown can be sent. -/
theorem LastShown.isHeaderValue {name text : String} {received : List (String × List UInt8)}
    (h : LastShown name text received) : isHeaderValue text := by
  cases h with
  | intro _ hvisible htext _ =>
    rw [Http.isHeaderValue, htext, List.all_eq_true]
    intro b hb
    exact (isVisible_spec (hvisible b hb)).2.2

end Http

namespace Homeserver

variable {h : Homeserver} {url : Url} {text : String}

theorem headers_uploadRequest (h : Homeserver) (url : Url) (source : Response) :
    (h.uploadRequest url source).headers = [("Authorization", "Bearer " ++ h.accessToken),
      ("Content-Type", source.contentType.getD defaultContentType)] := by
  simp [uploadRequest, Request.raw, Request.bearer, Request.header, Request.setHeader, Request.bare]

theorem headers_messageRequest (h : Homeserver) (url : Url) (message : Message) :
    (h.messageRequest url message).headers = [("Authorization", "Bearer " ++ h.accessToken)] := rfl

/-- The headers of a request with the token and a type for its body. -/
theorem withDefaults_bearer (w : Url) (token kind : String) :
    withDefaults
        (userHeaders w ++ [("authorization", "Bearer " ++ token), ("content-type", kind)]) =
      userHeaders w ++ ("authorization", "Bearer " ++ token) :: ("content-type", kind) ::
        defaultHeaders := by
  rw [withDefaults_eq, List.append_assoc]
  · rfl
  · refine List.forall_mem_append.mpr ⟨?_, by simp⟩
    intro h hh
    rw [fst_of_mem_userHeaders hh]
    decide

theorem sentHeaders_uploadRequest (h : Homeserver) (url w : Url) (source : Response) :
    (h.uploadRequest url source).sentHeaders w = userHeaders w ++
      ("authorization", "Bearer " ++ h.accessToken) ::
        ("content-type", source.contentType.getD defaultContentType) :: defaultHeaders := by
  have hauth : lower "Authorization" = "authorization" := by decide
  have htype : lower "Content-Type" = "content-type" := by decide
  have hbody : (h.uploadRequest url source).body = some (.raw source.body) := rfl
  rw [← withDefaults_bearer]
  simp [Request.sentHeaders, headers_uploadRequest, hbody, hauth, htype, userHeaders]

/-- The type that a source told for a file can be told on. -/
theorem isHeaderValue_contentType {source : Response} {received : List (String × List UInt8)}
    (hsource : source.headers = collectHeaders received) :
    isHeaderValue (source.contentType.getD defaultContentType) := by
  cases hkind : source.contentType with
  | none => decide
  | some kind =>
    rw [Response.contentType, hsource, lookup_collectHeaders_eq_some_iff] at hkind
    exact hkind.isHeaderValue

/-- The homeserver has no endpoints exactly if its path is opaque. -/
theorem endpoint_eq_error_iff {segments : List String} {f : Fault} :
    h.endpoint segments = .error f ↔ f = .noHierarchy ∧ ∃ text, h.url.path = .plain text := by
  rw [endpoint, below]
  cases h.url.path <;> simp [eq_comm]

/-- What a homeserver needs for requests to be sent to it: an address of the web that is read
again as that of a URI, and a token that can be written in a header. -/
structure Serves (h : Homeserver) : Prop where
  scheme : h.url.scheme = "http" ∨ h.url.scheme = "https"
  host : ∃ w, Url.parse h.url.text = .ok w ∧ hasUriHost w
  token : isHeaderValue h.accessToken

end Homeserver

/-- The address that is read from the text of a URL is not too long to be sent. -/
def Http.IsShort (url : Url) : Prop :=
  ∀ w, Url.parse url.text = .ok w → (withoutCredentials w).text.utf8ByteSize ≤ longestUri

namespace Homeserver

variable {h : Homeserver} {url : Url} {text : String}

/-- An endpoint is on the server of its homeserver. -/
theorem endpoint_eq_ok {segments : List String} (hbelow : h.endpoint segments = .ok url) :
    url.scheme = h.url.scheme ∧ url.authority = h.url.authority := by
  rw [endpoint, below] at hbelow
  split at hbelow
  · cases hbelow
  · cases hbelow
    exact ⟨rfl, rfl⟩

/-- A request to an endpoint with the token and other headers that can be written is sent exactly
if the homeserver serves, and the address is short. -/
theorem prepare_endpoint_iff (hparse : Url.parse text = .ok h.url) {segments : List String}
    (hbelow : h.endpoint segments = .ok url) {r : Request} (hurl : r.url = url.text)
    (hpairs : r.pairs = [])
    (hheaders : r.headers.all (isHeaderValue ·.2) = isHeaderValue h.accessToken) :
    (∃ q, r.prepare = .ok q) ↔ h.Serves ∧ IsShort url := by
  obtain ⟨hscheme, hauthority⟩ := endpoint_eq_ok hbelow
  have hfull : r.fullUrl = Url.parse url.text := by rw [r.fullUrl_of_pairs hpairs, hurl]
  constructor
  · rintro ⟨q, hq⟩
    obtain ⟨w, hw, -, hvalues, hweb, huri, -⟩ := Request.prepare_eq_ok_iff.mp hq
    rw [hfull] at hw
    rw [isUri_withoutCredentials_iff] at huri
    have hsame : w.scheme = h.url.scheme := scheme_of_parse_text hparse hscheme hw
    rw [hsame] at hweb
    have hhome : h.url.IsWeb := isWeb_of_parse hweb hparse
    have hendpoint : url.IsWeb := hhome.below hbelow
    -- the host in the text of the endpoint is read just as in that of the homeserver
    obtain ⟨w', hw', hserver⟩ :=
      hendpoint.authority_of_parse hhome hscheme.symm hauthority.symm hw
    refine ⟨⟨hweb, ⟨w', hw', ?_⟩, ?_⟩, ?_⟩
    · rw [hasUriHost, hserver]
      exact huri.1
    · rw [← hheaders]
      exact hvalues
    · intro v hv
      rw [hw, Except.ok.injEq] at hv
      rw [← hv]
      exact huri.2
  · rintro ⟨⟨hweb, ⟨w', hw', hhost⟩, htoken⟩, hshort⟩
    have hhome : h.url.IsWeb := isWeb_of_parse hweb hparse
    have hendpoint : url.IsWeb := hhome.below hbelow
    obtain ⟨w, hw, hserver⟩ := hhome.authority_of_parse hendpoint hscheme hauthority hw'
    have hsame : w.scheme = "http" ∨ w.scheme = "https" := by
      rw [(hendpoint.path_of_parse hw).1, hscheme]
      exact hweb
    have huri : isUri (withoutCredentials w) := by
      rw [isUri_withoutCredentials_iff, hasUriHost, hserver]
      exact ⟨hhost, hshort w hw⟩
    rw [← hheaders] at htoken
    exact ⟨_, Request.prepare_eq_ok_iff.mpr
      ⟨w, hfull.trans hw, hasHost_of_parse hsame hw, htoken, hsame, huri, rfl⟩⟩

/-- A file is uploaded exactly if the homeserver serves, whatever the file and its type are. -/
theorem prepare_uploadRequest_iff (hparse : Url.parse text = .ok h.url)
    (hbelow : h.endpoint uploadPath = .ok url) {source : Response}
    {received : List (String × List UInt8)} (hsource : source.headers = collectHeaders received) :
    (∃ q, (h.uploadRequest url source).prepare = .ok q) ↔ h.Serves ∧ IsShort url := by
  apply prepare_endpoint_iff hparse hbelow rfl rfl
  simp [headers_uploadRequest, isHeaderValue_bearer, isHeaderValue_contentType hsource]

/-- A message is sent exactly if the homeserver serves, whatever the message is. -/
theorem prepare_messageRequest_iff (hparse : Url.parse text = .ok h.url)
    {room transaction : String} (hbelow : h.endpoint (messagePath room transaction) = .ok url)
    (message : Message) :
    (∃ q, (h.messageRequest url message).prepare = .ok q) ↔ h.Serves ∧ IsShort url := by
  apply prepare_endpoint_iff hparse hbelow rfl rfl
  simp [headers_messageRequest, isHeaderValue_bearer]

end Homeserver

end ImageBot
