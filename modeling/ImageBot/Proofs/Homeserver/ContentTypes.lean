import ImageBot.Proofs.Homeserver.Uploads
import ImageBot.Proofs.Relay.Refusals
/-!
# Types of files

The source of a file may send any headers. What is kept of them can be sent again, so the type that
it told is passed on to the homeserver as it was, and whether a file that was fetched is sent to the
homeserver at all is a matter of the homeserver alone.
-/
namespace ImageBot

open Http Http.Network Text Url

namespace Homeserver

variable {h : Homeserver} {text link : String} {n : Network}

/-- A file is sent to the homeserver exactly if it came whole and the homeserver takes files. -/
theorem Steps.isSome_store_iff {fetch store : Option Trail}
    {result : Except UploadError ContentUri} (hsteps : h.Steps link fetch store result)
    (hparse : Url.parse text = .ok h.url) :
    store.isSome ↔ (∃ t ∈ fetch, ∃ source, t.Fetches source) ∧ h.Takes uploadPath := by
  constructor
  · intro hsome
    obtain ⟨u, hu⟩ := Option.isSome_iff_exists.mp hsome
    obtain ⟨t, ht, source, url, hf, hbelow, hp⟩ :=
      (hsteps.store_iff u.first).mp (by rw [hu]; rfl)
    have ⟨_, _, hsource, _⟩ := hf
    refine ⟨⟨t, ht, source, hf⟩, ?_⟩
    rw [takes_iff_of_endpoint hbelow, ← prepare_uploadRequest_iff hparse hbelow hsource]
    exact ⟨_, hp⟩
  · intro ⟨⟨t, ht, source, hf⟩, htakes⟩
    have ⟨_, _, hsource, _⟩ := hf
    cases hbelow : h.endpoint uploadPath with
    | error f => exact absurd htakes (not_takes_of_endpoint hparse hbelow)
    | ok url =>
      rw [takes_iff_of_endpoint hbelow, ← prepare_uploadRequest_iff hparse hbelow hsource] at htakes
      obtain ⟨q, hp⟩ := htakes
      have hstored := (hsteps.store_iff q).mpr ⟨t, ht, source, url, hf, hbelow, hp⟩
      cases store with
      | none => cases hstored
      | some u => rfl

/-- A file that came whole is stored as it came exactly if the homeserver takes files. -/
theorem exists_store_of_brings (hparse : Url.parse text = .ok h.url) (link : String) (n : Network) :
    ∃ fetch store : Option Trail,
      n.Carries (fetch.toList ++ store.toList) ((h.uploadLink link).run n).2 ∧
      fetch.map Trail.first = (Request.bare .get link).prepare.toOption ∧
      ∀ t ∈ fetch, ∀ status received body, t.Brings status received body → 200 ≤ status →
        status < 300 → (∀ u ∈ store, h.Posts received body u.first) ∧
          (store.isSome ↔ h.Takes uploadPath) := by
  obtain ⟨fetch, store, hc, hsteps⟩ := exists_steps h link n
  refine ⟨fetch, store, hc, hsteps.fetch_eq, ?_⟩
  intro t ht status received body hbrings hlow hhigh
  have hcame : t.Fetches ⟨status, collectHeaders (passed received), body⟩ :=
    ⟨received, hbrings, rfl, hlow, hhigh⟩
  refine ⟨?_, ?_⟩
  · intro u hu
    obtain ⟨t', ht', status', received', body', hbrings', -, -, hposts⟩ := hsteps.posts hparse u hu
    cases Option.mem_unique ht ht'
    obtain ⟨rfl, rfl⟩ := hbrings.unique hbrings'
    exact hposts
  · rw [hsteps.isSome_store_iff hparse]
    exact and_iff_right ⟨t, ht, _, hcame⟩

/-- **Whatever headers come with a file**, there is a response, which has for each name, in lower
case, the last header whose value can be shown, and nothing for a name without such a header. What
is missing are the headers about the coding of a body that was decoded, and no others. The type
that is told can be sent again. So a file that came whole, wherever the link led, is sent on with
this type exactly if the homeserver takes files, and the headers have no part in that. -/
theorem uploadLink_any_headers (received : List (String × List UInt8)) :
    ((collectHeaders received).map Prod.fst).Nodup ∧
    (∀ name text, (name, text) ∈ collectHeaders received ↔ LastShown name text received) ∧
    (∀ name, name ∉ (collectHeaders received).map Prod.fst ↔
      ∀ header ∈ received, lower header.1 = name → ∃ b ∈ header.2, ¬isVisible b) ∧
    ∀ (status : Nat) (payload : Payload) (body : List UInt8),
      payload.content (isCoded received) = .ok body →
      (∀ url, ∃ response, (Reply.answered status received payload).interpret url = .ok response ∧
        (response.headers.map Prod.fst).Nodup ∧
        (∀ name text, (name, text) ∈ response.headers ↔
          LastShown name text received ∧ ¬TellsCoding received name) ∧
        ∀ kind, response.contentType = some kind ↔
          LastShown "content-type" kind received ∧ isHeaderValue kind) ∧
      ∀ (client : Client) (settings : MatrixSettings) (h : Homeserver),
        ofSettings client settings = .ok h → 200 ≤ status → status < 300 →
        ∀ (link : String) (n : Network), ∃ fetch store : Option Trail,
          n.Carries (fetch.toList ++ store.toList) ((h.uploadLink link).run n).2 ∧
          fetch.map Trail.first = (Request.bare .get link).prepare.toOption ∧
          ∀ t ∈ fetch, (∃ u ∈ t.turns.getLast?, u.reply = .answered status received payload) →
            (∀ u ∈ store, h.Posts received body u.first) ∧
            (store.isSome ↔ h.Takes uploadPath) := by
  refine ⟨nodup_names_collectHeaders received, fun _ _ => mem_collectHeaders_iff,
    fun _ => not_mem_names_collectHeaders_iff, ?_⟩
  intro status payload body hbody
  refine ⟨?_, ?_⟩
  · intro url
    refine ⟨⟨status, collectHeaders (passed received), body⟩,
      Reply.interpret_eq_ok_iff.mpr ⟨received, payload, rfl, hbody, rfl⟩,
      nodup_names_collectHeaders _, fun _ _ => mem_collectHeaders_passed_iff, ?_⟩
    intro kind
    rw [Response.contentType, lookup_contentType_passed, lookup_collectHeaders_eq_some_iff]
    exact (and_iff_left_of_imp fun hlast => hlast.isHeaderValue).symm
  · intro client settings h hh hlow hhigh link n
    obtain ⟨fetch, store, hc, hfetch, hstore⟩ :=
      exists_store_of_brings (parse_of_ofSettings hh) link n
    refine ⟨fetch, store, hc, hfetch, ?_⟩
    rintro t ht ⟨u, hu, hreply⟩
    have hlast : u.request.onward? u.reply = none := by
      rw [hreply]
      exact Sent.onward?_of_success hlow hhigh
    exact hstore t ht status received body ⟨u, hu, hlast, payload, hreply, hbody⟩ hlow hhigh

/-- The last type that can be shown is the second of three, and stands in front of bytes that can be
no header. The body is coded, which the response does not tell any more. -/
theorem uploadLink_any_headers_example :
    let settings : MatrixSettings := ⟨"https://example.org/matrix/", "token", true⟩
    let client : Client := .timeouts Settings.defaultOutgoing
    let link := "http://images.example/cat.png#top"
    let received := [("Content-Type", Utf8.bytes "text/html"),
      ("content-TYPE", Utf8.bytes "image/png;\tq=1"), ("Content-Encoding", Utf8.bytes "gzip"),
      ("CONTENT-TYPE", [0xFF, 0x0A, 0x7F])]
    let payload : Payload := .whole [31, 139] (.content [1, 2, 3])
    let q : Sent := ⟨.get, ⟨"http", some ⟨"", "", .domain "images.example", none⟩,
      .segments ["cat.png"], none, some "top"⟩, defaultHeaders, []⟩
    let n : Network := ⟨[.answered 203 received payload], .lost .timeout, []⟩
    payload.content (isCoded received) = .ok [1, 2, 3] ∧
    ∃ response h, (Reply.answered 203 received payload).interpret q.url = .ok response ∧
      response.headers = [("content-type", "image/png;\tq=1")] ∧
      LastShown "content-type" "image/png;\tq=1" received ∧ isHeaderValue "image/png;\tq=1" ∧
      ofSettings client settings = .ok h ∧ (Request.bare .get link).prepare = .ok q ∧
      ∃ fetch store : Option Trail,
        n.Carries (fetch.toList ++ store.toList) ((h.uploadLink link).run n).2 ∧
        fetch.map Trail.first = some q ∧
        (∀ u ∈ store, h.Posts received [1, 2, 3] u.first) ∧ store.isSome := by
  intro settings client link received payload q n
  let home : Url := ⟨"https", some ⟨"", "", .domain "example.org", none⟩, .segments ["matrix", ""],
    none, none⟩
  let h : Homeserver := ⟨client, home, "token"⟩
  let url : Url := { home with path := .segments ["matrix", "_matrix", "media", "r0", "upload"] }
  have hbody : payload.content (isCoded received) = .ok [1, 2, 3] :=
    toOption_eq_some_iff.mp (by decide +kernel)
  have hh : ofSettings client settings = .ok h := ofSettings_eq_ok client settings parse_example
  have hq : (Request.bare .get link).prepare = .ok q :=
    toOption_eq_some_iff.mp (by decide +kernel)
  have hbelow : h.endpoint uploadPath = .ok url := toOption_eq_some_iff.mp (by decide +kernel)
  have hhome : Url.parse home.text = .ok home := toOption_eq_some_iff.mp (by decide +kernel)
  have hread : Url.parse url.text = .ok url := toOption_eq_some_iff.mp (by decide +kernel)
  have htakes : h.Takes uploadPath := by
    rw [takes_iff_of_endpoint hbelow]
    refine ⟨⟨.inr rfl, ⟨home, hhome, by decide +kernel⟩, by decide⟩, ?_⟩
    intro w hw
    cases hread.symm.trans hw
    decide +kernel
  obtain ⟨-, -, -, hanswer⟩ := uploadLink_any_headers received
  obtain ⟨hresponse, hupload⟩ := hanswer 203 payload [1, 2, 3] hbody
  obtain ⟨response, hi, -, -, hkinds⟩ := hresponse q.url
  have hheaders : response.headers = [("content-type", "image/png;\tq=1")] := by
    cases hi
    decide +kernel
  obtain ⟨hlast, hvalue⟩ :=
    (hkinds "image/png;\tq=1").mp (by rw [Response.contentType, hheaders]; rfl)
  obtain ⟨fetch, store, hc, hfetch, hstore⟩ :=
    hupload client settings h hh (by decide) (by decide) link n
  rw [hq] at hfetch
  cases fetch with
  | none => cases hfetch
  | some t =>
    have hturns : t.turns = [⟨t.first, .answered 203 received payload⟩] :=
      hc.turns_eq (Sent.onward?_of_success (by decide) (by decide))
    obtain ⟨hposts, hsome⟩ := hstore t rfl ⟨_, by rw [hturns]; rfl, rfl⟩
    exact ⟨hbody, response, h, hi, hheaders, hlast, hvalue, hh, hq, some t, store, hc, hfetch,
      hposts, hsome.mpr htakes⟩

end Homeserver

end ImageBot
