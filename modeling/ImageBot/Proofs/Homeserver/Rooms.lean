import ImageBot.Proofs.Relay.Stages
import ImageBot.Proofs.Url.Endpoint
import ImageBot.Proofs.Url.Query
/-!
# Where messages to a room go

The endpoint for a message is below the homeserver's own path and names the room in one
segment. This is so for every room that a segment can stand for, and for no other: a tab or
a line end in the name of a room is dropped, and a name of one or two dots is left out.
-/
namespace ImageBot

open Http Text Url

/-- An identifier of a transaction: 32 hexadecimal digits in lower case. -/
structure IsTransaction (t : String) : Prop where
  length : t.length = 32
  digits : ∀ c ∈ t.toList, c ∈ "0123456789abcdef".toList

instance (t : String) : Decidable (IsTransaction t) :=
  let _ := List.decidableBAll (· ∈ "0123456789abcdef".toList) t.toList
  decidable_of_iff (t.length = 32 ∧ ∀ c ∈ t.toList, c ∈ "0123456789abcdef".toList)
    ⟨fun ⟨hlength, hdigits⟩ => ⟨hlength, hdigits⟩, fun h => ⟨h.length, h.digits⟩⟩

namespace Homeserver

variable {h : Homeserver} {url : Url} {room transaction : String}

/-- Where messages to a room go in a transaction: to this path, be it that of the endpoint or
that of the URL which leaves. -/
structure SendsTo (h : Homeserver) (room transaction : String) (path : List String) : Prop where
  endpoint : ∃ url, h.endpoint (messagePath room transaction) = .ok url ∧ url.path = .segments path
  sent : ∀ message n,
    ((h.sendMessage room message transaction).run n).2.sent = n.sent ∨
    ∃ t : Trail, ((h.sendMessage room message transaction).run n).2.sent =
        n.sent ++ (t.turns.filter Turn.left).map Turn.request ∧
      t.first.method = .put ∧ (∃ w : Url, t.first.target = w.text ∧ w.path = .segments path) ∧
      ∀ w, Url.parse t.first.target = .ok w → w.path = .segments path

/-- The request for a message is read from the text of its URL. -/
theorem fullUrl_messageRequest (h : Homeserver) (url : Url) (message : Message) :
    (h.messageRequest url message).fullUrl = Url.parse url.text :=
  Request.fullUrl_of_pairs _ rfl

/-- What is sent for a message goes to the path of its endpoint. -/
theorem path_of_prepare (hweb : url.IsWeb) {message : Message} {q : Sent}
    (hq : (h.messageRequest url message).prepare = .ok q) :
    q.method = .put ∧ (∃ w : Url, q.target = w.text ∧ w.path = url.path) ∧
      ∀ w, Url.parse q.target = .ok w → w.path = url.path := by
  obtain ⟨w, hw, rfl⟩ := Request.prepare_eq_ok hq
  have hread : Url.parse url.text = .ok w := by rw [← fullUrl_messageRequest h url message, hw]
  obtain ⟨hscheme, hpath⟩ := hweb.path_of_parse hread
  have hwWeb : w.IsWeb := isWeb_of_parse (hscheme ▸ hweb.scheme) hread
  rw [target_withoutCredentials]
  refine ⟨rfl, ⟨_, rfl, hpath⟩, ?_⟩
  -- neither the user nor the fragment is sent, and the path does not depend on them
  intro v hv
  exact (hwWeb.bare.path_of_parse hv).2.trans hpath

/-- A message is sent to the endpoint, if at all. -/
theorem sent_sendMessage (hweb : url.IsWeb)
    (hurl : h.endpoint (messagePath room transaction) = .ok url) (message : Message)
    (n : Network) :
    ((h.sendMessage room message transaction).run n).2.sent = n.sent ∨
    ∃ t : Trail, ((h.sendMessage room message transaction).run n).2.sent =
        n.sent ++ (t.turns.filter Turn.left).map Turn.request ∧
      t.first.method = .put ∧ (∃ w : Url, t.first.target = w.text ∧ w.path = url.path) ∧
      ∀ w, Url.parse t.first.target = .ok w → w.path = url.path := by
  obtain ⟨trail, hc, -, hq, -⟩ := h.run_sendMessage room message transaction n
  rw [hc.sent_eq]
  cases trail with
  | none => simp
  | some t =>
    right
    obtain ⟨url', hurl', hprepare⟩ := (hq t.first).mp rfl
    rw [hurl, Except.ok.injEq] at hurl'
    subst hurl'
    exact ⟨t, by simp, path_of_prepare hweb hprepare⟩

/-- The segments of the endpoint for a message in which one names the room. -/
def roomPath (own : List String) (r transaction : String) : List String :=
  own ++ ["_matrix", "client", "r0", "rooms"] ++ [r] ++ ["send", "m.room.message", transaction]

variable {list : List String}

theorem isName_transaction (ht : IsTransaction transaction) : IsName transaction := by
  have hall : ("0123456789abcdef".toList.all fun c =>
      !isGap c && (c.toNat < 0x80 && !specialSegmentSet c.toNat)) = true := by decide
  have hdigits : ∀ c ∈ transaction.toList,
      isGap c = false ∧ c.toNat < 0x80 ∧ specialSegmentSet c.toNat = false := by
    intro c hc
    simpa using List.all_eq_true.mp hall c (ht.digits c hc)
  refine ⟨⟨fun c hc => (hdigits c hc).1, ?_, ?_⟩, ?_, ?_⟩
  · rintro rfl
    exact absurd ht.length (by decide)
  · rintro rfl
    exact absurd ht.length (by decide)
  · rw [segmentOf, encode_eq_self fun c hc => (hdigits c hc).2, String.ofList_toList]
  · rintro rfl
    exact absurd ht.length (by decide)

/-- The endpoint for a message: the own path and the endpoint's names, with what is added for
the room in between. -/
theorem endpoint_messagePath (hweb : h.url.IsWeb) (hpath : h.url.path = .segments list)
    (hempty : ∀ s ∈ list.dropLast, s ≠ "") (ht : IsTransaction transaction) (room : String) :
    ∃ url, h.endpoint (messagePath room transaction) = .ok url ∧ url.IsWeb ∧
      url.path = .segments (pushSegment true
        (ownSegments list ++ ["_matrix", "client", "r0", "rooms"]) room ++
          ["send", "m.room.message", transaction]) := by
  have hbefore : ∀ s ∈ ["_matrix", "client", "r0", "rooms"], IsName s := by decide
  have hbehind : ∀ s ∈ ["send", "m.room.message", transaction], IsName s :=
    List.forall_mem_cons.mpr ⟨by decide, List.forall_mem_cons.mpr ⟨by decide,
      List.forall_mem_singleton.mpr (isName_transaction ht)⟩⟩
  have hfold : (messagePath room transaction).foldl (pushSegment true) (dropEmptyEnd list) =
      kept (pushSegment true (ownSegments list ++ ["_matrix", "client", "r0", "rooms"]) room) ++
        ["send", "m.room.message", transaction] := by
    rw [show messagePath room transaction = ["_matrix", "client", "r0", "rooms"] ++
      room :: ["send", "m.room.message", transaction] from rfl, List.foldl_append,
      foldl_pushSegment hbefore (by simp), kept_dropEmptyEnd hempty, List.foldl_cons,
      foldl_pushSegment hbehind (by simp)]
  have hlong : 4 ≤ (kept (ownSegments list ++ ["_matrix", "client", "r0", "rooms"])).length := by
    rw [kept_of_two_le (by simp)]
    simp
  have hroom := length_kept_le (ownSegments list ++ ["_matrix", "client", "r0", "rooms"]) room
  refine ⟨_, below_eq_ok hweb hpath, hweb.below (below_eq_ok hweb hpath), ?_⟩
  rw [hfold, kept_of_two_le (by omega)]

/-- Where messages to a room go is told by what is added for the room. -/
theorem sendsTo_iff (hweb : h.url.IsWeb) (hpath : h.url.path = .segments list)
    (hempty : ∀ s ∈ list.dropLast, s ≠ "") (ht : IsTransaction transaction) (room : String)
    (path : List String) : h.SendsTo room transaction path ↔
      path = pushSegment true (ownSegments list ++ ["_matrix", "client", "r0", "rooms"]) room ++
        ["send", "m.room.message", transaction] := by
  obtain ⟨url, hurl, hurlWeb, hurlPath⟩ := endpoint_messagePath hweb hpath hempty ht room
  constructor
  · rintro ⟨⟨url', hurl', hpath'⟩, -⟩
    rw [hurl, Except.ok.injEq] at hurl'
    rw [← hurl', hurlPath, Path.segments.injEq] at hpath'
    exact hpath'.symm
  · rintro rfl
    refine ⟨⟨url, hurl, hurlPath⟩, ?_⟩
    intro message n
    have hsent := sent_sendMessage hurlWeb hurl message n
    rwa [hurlPath] at hsent

/-- **The room in the endpoint.** Messages to a room go to the endpoint below the homeserver's
own path in which one segment is read back as the room, exactly if a segment can stand for
the room: no tab or line end is in it, and it is not one or two dots. Of such rooms no two
have the same endpoint, and any other room has its endpoint in common with a different one. -/
theorem sendMessage_path {client : Client} {settings : MatrixSettings}
    (hh : ofSettings client settings = .ok h)
    (hscheme : h.url.scheme = "http" ∨ h.url.scheme = "https")
    (hpath : h.url.path = .segments list) (hempty : ∀ s ∈ list.dropLast, s ≠ "")
    (ht : IsTransaction transaction) :
    (∀ room, IsNameable room ↔ ∃ r, decodeBytes (Utf8.bytes r) = Utf8.bytes room ∧
      h.SendsTo room transaction (roomPath (ownSegments list) r transaction)) ∧
    (∀ room other path, IsNameable room → IsNameable other → h.SendsTo room transaction path →
      h.SendsTo other transaction path → room = other) ∧
    ∀ room, ¬IsNameable room → ∃ other path, other ≠ room ∧
      h.SendsTo room transaction path ∧ h.SendsTo other transaction path := by
  have hweb : h.url.IsWeb := by
    rw [ofSettings] at hh
    split at hh
    · next url hurl =>
      cases hh
      exact isWeb_of_parse hscheme hurl
    · cases hh
  have hsends := sendsTo_iff hweb hpath hempty ht
  have hkept : kept (ownSegments list ++ ["_matrix", "client", "r0", "rooms"]) =
      ownSegments list ++ ["_matrix", "client", "r0", "rooms"] := kept_of_two_le (by simp)
  refine ⟨?_, ?_, ?_⟩
  · intro room
    constructor
    · intro hn
      refine ⟨segmentOf room, decodeBytes_segmentOf room, (hsends _ _).mpr ?_⟩
      rw [pushSegment_eq hn, hkept, roomPath]
    · rintro ⟨r, hr, hto⟩
      have hadded := List.append_cancel_right ((hsends _ _).mp hto)
      refine isNameable_of_pushSegment hr (by rw [hkept]; simp) ?_
      rw [← hadded, hkept]
  · intro room other path hn hn' hto hto'
    have hsame := List.append_cancel_right (((hsends _ _).mp hto).symm.trans ((hsends _ _).mp hto'))
    rw [pushSegment_eq hn, pushSegment_eq hn'] at hsame
    have hsegment : segmentOf room = segmentOf other := by simpa using hsame
    apply Utf8.bytes_injective
    rw [← decodeBytes_segmentOf, hsegment, decodeBytes_segmentOf]
  · intro room hn
    obtain ⟨other, hne, hsame⟩ := exists_pushSegment_eq hn
    exact ⟨other, _, hne, (hsends _ _).mpr rfl, (hsends _ _).mpr (by rw [hsame])⟩

theorem parse_example : Url.parse "https://example.org/matrix/" = .ok ⟨"https",
    some ⟨"", "", .domain "example.org", none⟩, .segments ["matrix", ""], none, none⟩ :=
  toOption_eq_some_iff.mp (by decide +kernel)

/-- A room whose name has path syntax in it, below a homeserver with a path of its own. -/
theorem sendMessage_path_example :
    let settings : MatrixSettings := ⟨"https://example.org/matrix/", "token", true⟩
    let client : Client := .timeouts Settings.default.outgoing
    let t := "00112233445566778899aabbccddeeff"
    ∃ h, ofSettings client settings = .ok h ∧ IsTransaction t ∧
      h.url.path = .segments ["matrix", ""] ∧
      ∃ r, decodeBytes (Utf8.bytes r) = Utf8.bytes "../%2F?" ∧
        h.SendsTo "../%2F?" t (roomPath ["matrix"] r t) := by
  intro settings client t
  have hh := ofSettings_eq_ok client settings parse_example
  have ht : IsTransaction t := by decide
  have hpath := sendMessage_path hh (.inr rfl) rfl (by decide) ht
  exact ⟨_, hh, ht, rfl, (hpath.1 "../%2F?").mp (by decide)⟩

/-- A room whose name is a dot is left out of the endpoint. -/
theorem sendMessage_path_dot :
    let settings : MatrixSettings := ⟨"https://example.org/matrix/", "token", true⟩
    let client : Client := .timeouts Settings.default.outgoing
    let t := "00112233445566778899aabbccddeeff"
    ∃ h, ofSettings client settings = .ok h ∧ IsTransaction t ∧
      h.SendsTo "." t ["matrix", "_matrix", "client", "r0", "rooms", "send", "m.room.message", t] ∧
      ¬∃ r, decodeBytes (Utf8.bytes r) = Utf8.bytes "." ∧
        h.SendsTo "." t (roomPath ["matrix"] r t) := by
  intro settings client t
  have hh := ofSettings_eq_ok client settings parse_example
  have ht : IsTransaction t := by decide
  let h : Homeserver := ⟨client, ⟨"https", some ⟨"", "", .domain "example.org", none⟩,
    .segments ["matrix", ""], none, none⟩, settings.accessToken⟩
  have hweb : h.url.IsWeb := isWeb_of_parse (.inr rfl) parse_example
  have hpath : h.url.path = .segments ["matrix", ""] := rfl
  have hsends := sendsTo_iff hweb hpath (by decide) ht "."
  refine ⟨h, hh, ht, (hsends _).mpr rfl, ?_⟩
  rintro ⟨r, -, hto⟩
  have hlength := congrArg List.length ((hsends _).mp hto)
  rw [pushSegment_dots (.inl rfl)] at hlength
  simp [roomPath, ownSegments] at hlength

end Homeserver

end ImageBot
