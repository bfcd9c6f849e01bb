import ImageBot.Proofs.Relay.Refusals
import ImageBot.Proofs.Settings.Loading
/-!
# Settings that are valid

Validation makes sure that both addresses can be read, but not that anything can be sent to them.
A search never fails for an address that cannot be read. It is refused if the address is not one
of the web, and so is everything for the homeserver; a token that cannot be written in a header
and an opaque address without endpoints pass validation, too. `Refusals` says exactly when what
is made from valid settings is refused.
-/
namespace ImageBot

open Http Url

namespace Settings

/-! ## What validation checks -/

variable {field value : String}

/-- What holds of settings that pass validation. -/
structure IsValid (s : Settings) : Prop where
  apiKey : Text.isAllBlank s.google.apiKey = false
  cx : Text.isAllBlank s.google.cx = false
  baseUrl : ∃ base, Url.parse s.google.baseUrl = .ok base
  homeserverUrl : ∃ url, Url.parse s.matrix.homeserverUrl = .ok url
  accessToken : s.matrix.accessToken ≠ ""
  commandPrefix : s.server.commandPrefix ≠ ""
  searchTimeout : s.outgoing.searchTimeout.isFinite ∧ s.outgoing.searchTimeout.isPositive
  uploadTimeout : s.outgoing.uploadTimeout.isFinite ∧ s.outgoing.uploadTimeout.isPositive

theorem requireText_eq_ok_iff :
    requireText field value = .ok () ↔ Text.isAllBlank value = false := by
  cases h : Text.isAllBlank value <;> simp [requireText, h]

theorem requireSome_eq_ok_iff : requireSome field value = .ok () ↔ value ≠ "" := by
  by_cases h : value = "" <;> simp [requireSome, h]

theorem requireUrl_eq_ok_iff :
    requireUrl field value = .ok () ↔ ∃ url, Url.parse value = .ok url := by
  rw [requireUrl]
  cases Url.parse value <;> simp

theorem requireSeconds_eq_ok_iff {number : Decimal.Binary64} :
    requireSeconds field number = .ok () ↔ number.isFinite ∧ number.isPositive := by
  by_cases h : number.isFinite ∧ number.isPositive <;> simp [requireSeconds, h]

/-- Checks pass one after the other exactly if all of them do. -/
theorem check_bind_eq_ok_iff {check others : Except ConfigError Unit} :
    (check >>= fun _ => others) = .ok () ↔ check = .ok () ∧ others = .ok () := by
  cases check with
  | error e => simp [bind, Except.bind]
  | ok u => simp [bind, Except.bind]

theorem validate_eq_ok_iff {s : Settings} : s.validate = .ok () ↔ s.IsValid := by
  simp only [validate, check_bind_eq_ok_iff, requireText_eq_ok_iff, requireUrl_eq_ok_iff,
    requireSome_eq_ok_iff, requireSeconds_eq_ok_iff]
  constructor
  · rintro ⟨hkey, hcx, hbase, hhome, htoken, hprefix, hsearch, hupload⟩
    exact ⟨hkey, hcx, hbase, hhome, htoken, hprefix, hsearch, hupload⟩
  · rintro ⟨hkey, hcx, hbase, hhome, htoken, hprefix, hsearch, hupload⟩
    exact ⟨hkey, hcx, hbase, hhome, htoken, hprefix, hsearch, hupload⟩

/-! ## Requests of valid settings -/

/-- When what is made from addresses that can be read is refused, which leaves the network as it is.
No search fails for its address alone, and no message is refused for what it says. An upload first
fetches its file, and is refused if the fetch reads like that, or if the homeserver takes no
files. -/
structure Refusals (search : ImageSearch) (base : Url) (h : Homeserver) : Prop where
  endpoint : ∀ phrase n fault,
    ((search.search phrase).run n).1 ≠ .error (.invalidEndpoint fault)
  search : ∀ phrase n,
    (∃ e, (search.search phrase).run n = (.error e, n) ∧ e.IsRefusal) ↔
      ¬((base.scheme = "http" ∨ base.scheme = "https") ∧ hasUriHost base ∧ search.Fits phrase)
  fetch : ∀ link n,
    (∃ f, (h.client.execute (.bare .get link)).run n = (.error f, n) ∧ Http.IsRefusal f.message) ↔
      ¬∃ q, (Request.bare .get link).prepare = .ok q
  upload : ∀ link n,
    let fetched := (h.client.execute (.bare .get link)).run n
    (∃ e, (h.uploadLink link).run n = (.error e, fetched.2) ∧ e.IsRefusal) ↔
      (∃ f, fetched.1 = .error f ∧ Http.IsRefusal f.message) ∨
        (∃ source, fetched.1 = .ok source ∧ source.isSuccess) ∧ ¬h.Takes Homeserver.uploadPath
  homeserver : ∀ room message transaction n fault,
    ((h.sendMessage room message transaction).run n).1 = .error (.invalidHomeserver fault) ↔
      fault = .noHierarchy ∧ ∃ plain, h.url.path = .plain plain
  delivery : ∀ room message transaction n,
    (∃ e, (h.sendMessage room message transaction).run n = (.error e, n) ∧ e.IsRefusal) ↔
      ¬h.Takes (Homeserver.messagePath room transaction)

/-- **What validation is good for.** With settings that pass it both addresses can be read, and
it is their schemes and hosts, the token, and the lengths of the addresses of requests that say
whether a search, an upload or a delivery is refused; neither the phrase nor the file, the room or
the message does otherwise. -/
theorem validate_requests {s : Settings} (hv : s.validate = .ok ()) (client : Client) :
    ∃ base h, Url.parse s.google.baseUrl = .ok base ∧
      Homeserver.ofSettings client s.matrix = .ok h ∧
      Refusals (.ofSettings client s.google) base h := by
  obtain ⟨-, -, ⟨base, hbase⟩, ⟨url, hurl⟩, -, -, -, -⟩ := validate_eq_ok_iff.mp hv
  have hhome : Homeserver.ofSettings client s.matrix =
      .ok ⟨client, url, s.matrix.accessToken⟩ := by
    rw [Homeserver.ofSettings, hurl]
  have hsearch : Url.parse (ImageSearch.ofSettings client s.google).baseUrl = .ok base := hbase
  refine ⟨base, _, hbase, hhome, ?_, ?_, ?_, ?_, ?_, ?_⟩
  · intro phrase n fault hfault
    rw [ImageSearch.search_eq_invalidEndpoint_iff, hsearch] at hfault
    cases hfault
  · exact ImageSearch.search_refused_iff hsearch
  · exact fun link => Client.execute_refused_iff _ _
  · exact Homeserver.uploadLink_refused_iff hurl
  · exact Homeserver.sendMessage_eq_invalidHomeserver_iff _
  · exact Homeserver.sendMessage_refused_iff hurl

/-- Settings with two addresses and a token, and whatever else passes validation. -/
def reaching (base home token : String) : Settings :=
  ⟨defaultServer, defaultOutgoing, ⟨"key", defaultCx, base, "medium"⟩, ⟨home, token, true⟩⟩

theorem isValid_reaching {base home token : String} (hbase : ∃ u, Url.parse base = .ok u)
    (hhome : ∃ u, Url.parse home = .ok u) (htoken : token ≠ "") :
    (reaching base home token).IsValid := by
  have htimes : (defaultOutgoing.searchTimeout.isFinite ∧
        defaultOutgoing.searchTimeout.isPositive) ∧
      defaultOutgoing.uploadTimeout.isFinite ∧ defaultOutgoing.uploadTimeout.isPositive := by
    decide
  have htexts : Text.isAllBlank "key" = false ∧ Text.isAllBlank defaultCx = false ∧
      defaultServer.commandPrefix ≠ "" := by
    decide
  exact ⟨htexts.1, htexts.2.1, hbase, hhome, htoken, htexts.2.2, htimes.1, htimes.2⟩

/-- The usual addresses are among those that are not refused. -/
theorem validate_requests_localhost :
    let s := reaching defaultSearchUrl defaultMatrix.homeserverUrl "token"
    let client : Client := .timeouts s.outgoing
    s.validate = .ok () ∧ ∃ base h, Url.parse s.google.baseUrl = .ok base ∧
      Homeserver.ofSettings client s.matrix = .ok h ∧
      Refusals (.ofSettings client s.google) base h ∧
      base.scheme = "https" ∧ hasUriHost base ∧ h.Serves := by
  intro s client
  have hv : s.validate = .ok () := validate_eq_ok_iff.mpr
    (isValid_reaching ⟨_, parse_defaultSearchUrl⟩ ⟨_, parse_defaultHomeserverUrl⟩ (by decide))
  obtain ⟨base, h, hbase, hhome, hrefusals⟩ := validate_requests hv client
  let url : Url := ⟨"http", some ⟨"", "", .domain "localhost", some 8008⟩, .segments [""], none,
    none⟩
  have hhome' : Homeserver.ofSettings client s.matrix = .ok ⟨client, url, "token"⟩ :=
    Homeserver.ofSettings_eq_ok client s.matrix parse_defaultHomeserverUrl
  have hagain : Url.parse url.text = .ok url := toOption_eq_some_iff.mp (by decide +kernel)
  obtain rfl := Except.ok.inj (hbase.symm.trans parse_defaultSearchUrl)
  obtain rfl := Except.ok.inj (hhome.symm.trans hhome')
  refine ⟨hv, _, _, hbase, hhome, hrefusals, rfl, by decide +kernel, ?_⟩
  exact ⟨.inl rfl, ⟨url, hagain, by decide +kernel⟩, by decide⟩

/-- Validation passes an opaque address of the homeserver, an address of the search that is not
one of the web, and a token of two lines; what is made from them is refused. -/
theorem validate_requests_refused :
    let client : Client := .timeouts defaultOutgoing
    let n : Network := ⟨[], .lost .timeout, []⟩
    let mailHome := reaching defaultSearchUrl "mailto:matrix@example.org" "token"
    let otherScheme := reaching "ftp://search.example/v1" defaultMatrix.homeserverUrl "token"
    let twoLines := reaching defaultSearchUrl defaultMatrix.homeserverUrl "to\nken"
    (mailHome.validate = .ok () ∧ ∃ h, Homeserver.ofSettings client mailHome.matrix = .ok h ∧
      ((h.sendMessage "!room:example.org" (.notice "cats") "1").run n).1 =
        .error (.invalidHomeserver .noHierarchy)) ∧
    (otherScheme.validate = .ok () ∧
      (((ImageSearch.ofSettings client otherScheme.google).search "cats").run n).1 =
        .error (.transport "builder error: URL scheme is not allowed")) ∧
    twoLines.validate = .ok () ∧ ∃ h, Homeserver.ofSettings client twoLines.matrix = .ok h ∧
      ((h.sendMessage "!room:example.org" (.notice "cats") "1").run n).1 =
        .error (.transport "builder error: failed to parse header value") := by
  intro client n mailHome otherScheme twoLines
  have hsearch : ∃ u, Url.parse defaultSearchUrl = .ok u := ⟨_, parse_defaultSearchUrl⟩
  have hhome : ∃ u, Url.parse defaultMatrix.homeserverUrl = .ok u :=
    ⟨_, parse_defaultHomeserverUrl⟩
  have hmail : Url.parse "mailto:matrix@example.org" =
      .ok ⟨"mailto", none, .plain "matrix@example.org", none, none⟩ :=
    toOption_eq_some_iff.mp (by decide +kernel)
  have hother : ∃ u, Url.parse "ftp://search.example/v1" = .ok u :=
    ⟨⟨"ftp", some ⟨"", "", .domain "search.example", none⟩, .segments ["v1"], none, none⟩,
      toOption_eq_some_iff.mp (by decide +kernel)⟩
  have hopaque : Homeserver.ofSettings client mailHome.matrix = .ok ⟨client,
      ⟨"mailto", none, .plain "matrix@example.org", none, none⟩, "token"⟩ :=
    Homeserver.ofSettings_eq_ok client mailHome.matrix hmail
  have hlines : Homeserver.ofSettings client twoLines.matrix = .ok ⟨client,
      ⟨"http", some ⟨"", "", .domain "localhost", some 8008⟩, .segments [""], none, none⟩,
      "to\nken"⟩ := Homeserver.ofSettings_eq_ok client twoLines.matrix parse_defaultHomeserverUrl
  refine ⟨⟨validate_eq_ok_iff.mpr (isValid_reaching hsearch ⟨_, hmail⟩ (by decide)), _, hopaque,
    ?_⟩, ⟨validate_eq_ok_iff.mpr (isValid_reaching hother hhome (by decide)), ?_⟩,
    validate_eq_ok_iff.mpr (isValid_reaching hsearch hhome (by decide)), _, hlines, ?_⟩
  · exact (Homeserver.sendMessage_eq_invalidHomeserver_iff _ _ _ _ n _).mpr
      ⟨rfl, "matrix@example.org", rfl⟩
  · decide +kernel
  · decide +kernel

end Settings

end ImageBot
