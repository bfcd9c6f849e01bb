import ImageBot.Proofs.Message.Wire
import ImageBot.Proofs.Relay.Stages
import ImageBot.Proofs.Service.Handling
/-!
# Delivery compared

Of two services with the same settings one delivers replies to rooms and the other does not.
Whatever they are asked, and whatever the network replies, the first one does what the second
one does, and then makes at most one request more. What a client is told of the reply is the same,
and so is what the room is sent.
-/
namespace ImageBot

open Http Http.Network Json

/-- The settings with or without the wish for delivery. -/
def Settings.delivering (wish : Bool) (s : Settings) : Settings :=
  { s with matrix := { s.matrix with deliverMessages := wish } }

/-- What a client is told by the answer to a chat message. An event that is `null` is not one
that is absent. -/
structure Told where
  command : Option String
  content : Option Message
  event : Option (Option String)
  error : Option String
  deriving Repr, DecidableEq

namespace Told

/-- A member that need not be there. -/
def member {α : Type} (name : String) (read : Decoder α) (put : α → Told → Told) :
    Json.Field Told :=
  { Field.required name read put with inObject := false, inArray := false }

/-- An answer as a record. -/
def record : Record Told :=
  ⟨"answer", ⟨none, none, none, none⟩,
    [member "command" .string fun a t => { t with command := some a },
      member "content" Message.decoder fun a t => { t with content := some a },
      member "event_id" (.optional .string) fun a t => { t with event := some a },
      member "error" .string fun a t => { t with error := some a }]⟩

variable {α : Type} {read : Decoder α} {depth : Nat} {v : Value} {a : α}

theorem reads_member (h : read.Reads depth v a) {name : String} {put : α → Told → Told} {t : Told} :
    (member name read put).Reads depth v t (put a t) := by
  intro node hnode
  simp only [member, Field.required, h node hnode, Except.map]

end Told

/-- What an answer tells a client, if it can be read. -/
def Outgoing.told? (out : Outgoing) : Option Told :=
  (Json.decode Told.record.decode out.body).toOption

theorem Outgoing.told?_json {v : Value} {t : Told}
    (h : Decoder.Reads Told.record.decode 128 v t) (hv : v.Exact) (status : Nat) :
    (Outgoing.json status v).shared.told? = some t := by
  rw [told?, toOption_eq_some_iff]
  exact h.decode hv

namespace Answer

/-- A reply is told with its command and its event. -/
theorem told?_replied (command : String) (content : Message) (event : Option String) :
    (replied command content event).outgoing.shared.told? =
      some ⟨some command, some content, some event, none⟩ := by
  have hcommand := Decoder.reads_string 127 command
  have hcontent := content.reads_toValue (by decide : 3 ≤ 127)
  have htold {value : Value} (hvalue : value.Exact)
      (hevent : (Decoder.optional .string).Reads 127 value event) :
      (Outgoing.json 200 (.object [("command", .string command), ("content", content.toValue),
        ("event_id", value)])).shared.told? =
        some ⟨some command, some content, some event, none⟩ := by
    have htakes : Told.record.Takes 127 [] Told.record.empty [("command", .string command),
        ("content", content.toValue), ("event_id", value)]
        ⟨some command, some content, some event, none⟩ :=
      .field rfl rfl (Told.reads_member hcommand) <| .field rfl rfl (Told.reads_member hcontent) <|
        .field rfl rfl (Told.reads_member hevent) <| .nil rfl
    have hreads : Decoder.Reads Told.record.decode 128 _ _ := htakes.reads (by decide)
    exact Outgoing.told?_json hreads ⟨trivial, content.exact_toValue, hvalue, trivial⟩ 200
  cases event with
  | none => exact htold trivial (Decoder.reads_optional_null _ _)
  | some id => exact htold trivial ((Decoder.reads_string 127 id).optional Value.noConfusion)

/-- A reply that could not be delivered is told with the error. -/
theorem told?_undelivered (content : Message) (error : DeliveryError) :
    (undelivered content error).outgoing.shared.told? =
      some ⟨none, some content, none, some error.message⟩ := by
  have hcontent := content.reads_sorted (by decide : 3 ≤ 127)
  have herror := Decoder.reads_string 127 error.message
  have hsorted : (Value.object [("error", .string error.message),
      ("content", content.toValue)]).sorted =
        .object [("content", content.toValue.sorted), ("error", .string error.message)] := by
    simp +decide only [Value.sorted, Value.sortedMembers, Value.sortMembers, Value.insertMember,
      List.foldl, if_true, if_false]
  have htakes : Told.record.Takes 127 [] Told.record.empty
      [("content", content.toValue.sorted), ("error", .string error.message)]
      ⟨none, some content, none, some error.message⟩ :=
    .field rfl rfl (Told.reads_member hcontent) <| .field rfl rfl (Told.reads_member herror) <|
      .nil rfl
  rw [outgoing, hsorted]
  have hreads : Decoder.Reads Told.record.decode 128 _ _ := htakes.reads (by decide)
  exact Outgoing.told?_json hreads ⟨content.exact_toValue.sorted, trivial, trivial⟩ 502

end Answer

namespace Service

/-- How a run that delivers a reply to a room goes on where one ends that does not. Each is given
by what the client gets and by the network that is left. -/
structure Delivers (h : Homeserver) (room transaction command : String) (content : Message)
    (trail : Option Trail) (off on : Outgoing × Network) : Prop where
  /-- Without delivery the client is told that there is no event. -/
  quiet : off.1.status = 200 ∧
    off.1.told? = some ⟨some command, some content, some none, none⟩
  /-- There is at most one request more, after all others, and what it is sent on as. -/
  carries : off.2.Carries trail.toList on.2
  sent : on.2.sent = off.2.sent ++
    ((trail.toList.flatMap Trail.turns).filter Turn.left).map Turn.request
  left : ∀ t ∈ trail, t.left = h.client.redirects
  /-- The room is sent what the client is told. -/
  request : ∀ t ∈ trail, t.first.method = .put ∧ Message.decode t.first.body = .ok content
  /-- The message is kept by every request that it is sent on as, unless this only asks. -/
  onward : ∀ t ∈ trail, ∀ u ∈ t.turns, u.request.method ≠ .get →
    u.request.method = .put ∧ Message.decode u.request.body = .ok content
  /-- The client is told the event exactly if the reply names it. -/
  accepted : ∀ event, (on.1.status = 200 ∧
    on.1.told? = some ⟨some command, some content, some (some event), none⟩) ↔
      ∃ t ∈ trail, t.Accepts event
  /-- If it names none, the client is told why, and the content as before. -/
  refused : (∀ t ∈ trail, ∀ event, ¬t.Accepts event) → ∃ error,
    (h.sendMessage room content transaction).run off.2 = (.error error, on.2) ∧
      on.1.status = 502 ∧ on.1.told? = some ⟨none, some content, none, some error.message⟩

variable {client : Client} {settings : Settings} {quiet loud : Service}

/-- What is sent to a room is the message, as JSON. -/
theorem decode_messageRequest {h : Homeserver} {url : Url} {content : Message} {q : Sent}
    (hq : (h.messageRequest url content).prepare = .ok q) :
    q.method = .put ∧ Message.decode q.body = .ok content := by
  obtain ⟨full, -, rfl⟩ := Request.prepare_eq_ok hq
  exact ⟨rfl, content.decode_sorted⟩

/-- Delivering a reply adds one request at most to not delivering it. -/
theorem deliver_delivers (s : Service) (o o' : Occasion) (room command : String)
    (content : Message) (n : Network) :
    ∃ trail,
      let off := ({ s with delivers := false }.deliver o room command content).run n
      let on := ({ s with delivers := true }.deliver o' room command content).run n
      Delivers s.homeserver room o'.transaction command content trail
        (off.1.outgoing.shared, off.2) (on.1.outgoing.shared, on.2) := by
  obtain ⟨trail, hc, hleft, hq, ha⟩ := s.homeserver.run_sendMessage room content o'.transaction n
  have hrequest : ∀ t ∈ trail, t.first.method = .put ∧
      Message.decode t.first.body = .ok content := by
    intro t ht
    have hsome : trail.map Trail.first = some t.first := by
      rw [Option.mem_def.mp ht, Option.map_some]
    obtain ⟨url, -, hprepare⟩ := (hq _).mp hsome
    exact decode_messageRequest hprepare
  have honward : ∀ t ∈ trail, ∀ u ∈ t.turns, u.request.method ≠ .get →
      u.request.method = .put ∧ Message.decode u.request.body = .ok content := by
    intro t ht u hu hget
    obtain ⟨hmethod, hbody⟩ := (t.follows.asks_or_keeps u hu).resolve_left hget
    rw [hmethod, hbody]
    exact hrequest t ht
  refine ⟨trail, ?_⟩
  simp only [run_deliver, Bool.false_eq_true, if_false, if_true]
  rcases hsend : (s.homeserver.sendMessage room content o'.transaction).run n with ⟨e | event, k⟩
  · rw [hsend] at hc ha
    refine ⟨⟨rfl, Answer.told?_replied command content none⟩, hc, hc.sent_eq, hleft, hrequest,
      honward, ?_, ?_⟩
    · intro event
      rw [← ha]
      simp [Answer.outgoing, Outgoing.json, Outgoing.shared, Outgoing.withHeader]
    · intro _
      exact ⟨e, hsend, rfl, Answer.told?_undelivered content e⟩
  · rw [hsend] at hc ha
    refine ⟨⟨rfl, Answer.told?_replied command content none⟩, hc, hc.sent_eq, hleft, hrequest,
      honward, ?_, ?_⟩
    · intro event'
      rw [← ha, Answer.told?_replied]
      simp [Answer.outgoing, Outgoing.json, Outgoing.shared, Outgoing.withHeader]
    · intro hnone
      obtain ⟨t, ht, haccepts⟩ := (ha event).mp rfl
      exact (hnone t ht event haccepts).elim

/-- The wish for delivery is all that the two services differ in. -/
theorem eq_of_delivering (hquiet : ofSettings client (settings.delivering false) = .ok quiet)
    (hloud : ofSettings client (settings.delivering true) = .ok loud) :
    quiet = { loud with delivers := false } ∧ loud = { loud with delivers := true } := by
  obtain ⟨h, hhome, rfl⟩ := ofSettings_eq_ok_iff.mp hquiet
  obtain ⟨h', hhome', rfl⟩ := ofSettings_eq_ok_iff.mp hloud
  have heq : Homeserver.ofSettings client (settings.delivering false).matrix =
      Homeserver.ofSettings client (settings.delivering true).matrix := rfl
  rw [heq, hhome', Except.ok.injEq] at hhome
  subst hhome
  exact ⟨rfl, rfl⟩

/-- **Delivery changes nothing else.** A request with a chat message is handled by the service
that delivers as by the one that does not: the same is sent up to the delivery, the same outcome
is recorded for the same command, and the client gets the same content. A body that is no chat
message, or too long to be one, is refused by both. -/
theorem handle_command_delivery
    (hquiet : ofSettings client (settings.delivering false) = .ok quiet)
    (hloud : ofSettings client (settings.delivering true) = .ok loud) (o o' : Occasion)
    (metrics : Metrics) {r : Incoming} (hr : r.IsCommand) (n : Network) :
    (∀ refused, chatMessage r = .error refused →
      (quiet.handle o metrics r).run n = ((metrics, refused.shared), n) ∧
      (loud.handle o' metrics r).run n = ((metrics, refused.shared), n)) ∧
    (chatMessage r =
        .error (.text 413 "Failed to buffer the request body: length limit exceeded") ↔
      r.mediaType?.any MediaType.isJson ∧ 2 ^ 21 < r.body.length) ∧
    ∀ m, chatMessage r = .ok m →
      (loud.registry.parse m.body = none →
        (quiet.handle o metrics r).run n = ((metrics, (Outgoing.empty 204).shared), n) ∧
        (loud.handle o' metrics r).run n = ((metrics, (Outgoing.empty 204).shared), n)) ∧
      ∀ c args, loud.registry.parse m.body = some (c, args) →
        ∃ (outcome : Outcome) (content : Message) (trail : Option Trail),
          let off := (quiet.handle o metrics r).run n
          let on := (loud.handle o' metrics r).run n
          off.1.1 = metrics.record c.name outcome o.elapsed ∧
          on.1.1 = metrics.record c.name outcome o'.elapsed ∧
          Delivers loud.homeserver m.roomId o'.transaction c.name content trail
            (off.1.2, off.2) (on.1.2, on.2) := by
  obtain ⟨hq, hl⟩ := eq_of_delivering hquiet hloud
  rw [run_handle_command quiet o metrics hr n, run_handle_command loud o' metrics hr n]
  refine ⟨?_, chatMessage_eq_tooLong_iff, ?_⟩
  · intro refused h
    rw [h]
    exact ⟨rfl, rfl⟩
  · intro m h
    rw [h]
    have hregistry : quiet.registry = loud.registry := by rw [hq]
    simp only [run_answer, hregistry]
    refine ⟨?_, ?_⟩
    · intro hparse
      rw [hparse]
      exact ⟨rfl, rfl⟩
    · intro c args hparse
      rw [hparse]
      -- Both services run the command alike; only then do they part.
      obtain ⟨trail, hdelivers⟩ := deliver_delivers loud o o' m.roomId c.name
        (reply ((c.run ⟨m.roomId, m.userId⟩ args).run n).1)
        ((c.run ⟨m.roomId, m.userId⟩ args).run n).2
      rw [← hq, ← hl] at hdelivers
      exact ⟨_, _, trail, rfl, rfl, hdelivers⟩

/-- The two runs for an image that is found and stored: the one that delivers it tells the event
that the room answers. -/
theorem handle_command_delivery_image :
    let settings : Settings := { Settings.default with
      google := ⟨"key", "cx", "http://search.example/v1", "large"⟩
      matrix := ⟨"http://hs.example", "token", true⟩ }
    let client : Client := .timeouts settings.outgoing
    let r : Incoming := ⟨"POST", "/commands",
      [("content-type", Text.Utf8.bytes "application/json")], Text.Utf8.bytes
        "\x7b\"room_id\":\"!r:h\",\"user_id\":\"@u:h\",\"body\":\"!google image cats\"\x7d"⟩
    let m : ChatMessage := ⟨"!r:h", "@u:h", "!google image cats"⟩
    let o : Occasion := ⟨7, "00112233445566778899aabbccddeeff"⟩
    let o' : Occasion := ⟨9, "ffeeddccbbaa99887766554433221100"⟩
    let json (text : String) : Payload := .plain (Text.Utf8.bytes text)
    let n : Network := ⟨[.answered 200 [] (json
        "\x7b\"items\":[\x7b\"link\":\"http://images.example/cat.png\"\x7d]\x7d"),
      .answered 200 [("content-type", Text.Utf8.bytes "image/png")] (.plain [0x89]),
      .answered 200 [] (json "\x7b\"content_uri\":\"mxc://h/1\"\x7d"),
      .answered 200 [] (json "\x7b\"age\":1,\"event_id\":\"$e\"\x7d")], .lost .timeout, []⟩
    let content : Message := .image ⟨"cats", ⟨"mxc://h/1"⟩, ⟨0, 0, ""⟩⟩
    ∃ quiet loud c args, ofSettings client (settings.delivering false) = .ok quiet ∧
      ofSettings client (settings.delivering true) = .ok loud ∧
      r.IsCommand ∧ chatMessage r = .ok m ∧ loud.registry.parse m.body = some (c, args) ∧
      let off := (quiet.handle o .empty r).run n
      let on := (loud.handle o' .empty r).run n
      off.1.2.told? = some ⟨some "google", some content, some none, none⟩ ∧
      on.1.2.told? = some ⟨some "google", some content, some (some "$e"), none⟩ ∧
      on.2.sent.take 3 = off.2.sent ∧ on.2.sent.map (·.method) = [.get, .get, .post, .put] ∧
      ∃ (outcome : Outcome) (content : Message) (trail : Option Trail),
        off.1.1 = Metrics.empty.record c.name outcome 7 ∧
        on.1.1 = Metrics.empty.record c.name outcome 9 ∧
        Delivers loud.homeserver "!r:h" "ffeeddccbbaa99887766554433221100" c.name content trail
          (off.1.2, off.2) (on.1.2, on.2) := by
  intro settings client r m o o' json n content
  let h : Homeserver := ⟨client, ⟨"http", some ⟨"", "", .domain "hs.example", none⟩, .segments [""],
    none, none⟩, "token"⟩
  let c := imageCommand (relay client settings.google h)
  let quiet : Service := ⟨⟨"!", [c]⟩, h, false⟩
  let loud : Service := ⟨⟨"!", [c]⟩, h, true⟩
  have hurl : Url.parse "http://hs.example" = .ok h.url :=
    toOption_eq_some_iff.mp (by decide +kernel)
  have hquiet : ofSettings client (settings.delivering false) = .ok quiet :=
    ofSettings_of_parse client hurl
  have hloud : ofSettings client (settings.delivering true) = .ok loud :=
    ofSettings_of_parse client hurl
  have hm : chatMessage r = .ok m := toOption_eq_some_iff.mp (by decide +kernel)
  have hr : r.IsCommand := ⟨rfl, by decide +kernel⟩
  have hwords : (Registry.empty "!").addressed? m.body = some ["google", "image", "cats"] := by
    decide +kernel
  have hparse : loud.registry.parse m.body = some (c, ["image", "cats"]) := by
    have haddressed : Registry.addressed? ⟨"!", [c]⟩ m.body = some ["google", "image", "cats"] :=
      hwords
    show Registry.parse ⟨"!", [c]⟩ m.body = _
    rw [Registry.parse, Registry.locate, haddressed]
    rfl
  have hruns : ((quiet.answer o .empty m).run n).1.2 = .replied "google" content none ∧
      ((loud.answer o' .empty m).run n).1.2 = .replied "google" content (some "$e") ∧
      ((loud.answer o' .empty m).run n).2.sent.take 3 = ((quiet.answer o .empty m).run n).2.sent ∧
      ((loud.answer o' .empty m).run n).2.sent.map (·.method) = [.get, .get, .post, .put] := by
    decide +kernel
  obtain ⟨hoff, hon, hsame, hmethods⟩ := hruns
  obtain ⟨htold, hafter⟩ := handle_of_chatMessage quiet o .empty hr hm n
  obtain ⟨htold', hafter'⟩ := handle_of_chatMessage loud o' .empty hr hm n
  refine ⟨quiet, loud, c, _, hquiet, hloud, hr, hm, hparse, ?_, ?_, ?_, ?_,
    ((handle_command_delivery hquiet hloud o o' .empty hr n).2.2 m hm).2 c _ hparse⟩
  · rw [htold, hoff]
    exact Answer.told?_replied "google" content none
  · rw [htold', hon]
    exact Answer.told?_replied "google" content (some "$e")
  · rw [hafter, hafter']
    exact hsame
  · rw [hafter']
    exact hmethods

/-- A reply whose delivery is answered with another place is delivered there as well, and a message
with blanks behind it that make its body too long is not answered with a reply. -/
theorem handle_command_sent_twice_or_refused :
    let settings : Settings := { Settings.default with
      google := ⟨"key", "cx", "http://search.example/v1", "large"⟩
      matrix := ⟨"http://hs.example", "token", true⟩ }
    let client : Client := .timeouts settings.outgoing
    let headers := [("content-type", Text.Utf8.bytes "application/json")]
    let body := Text.Utf8.bytes
      "\x7b\"room_id\":\"!r:h\",\"user_id\":\"@u:h\",\"body\":\"!google\"\x7d"
    let o : Occasion := ⟨7, "00112233445566778899aabbccddeeff"⟩
    let n : Network := ⟨[
      .answered 307 [("location", Text.Utf8.bytes "http://other.example/")] (.plain []),
      .answered 200 [] (.plain (Text.Utf8.bytes "\x7b\"event_id\":\"$e\"\x7d"))],
      .lost .timeout, []⟩
    ∃ loud, ofSettings client (settings.delivering true) = .ok loud ∧
      (let on := (loud.handle o .empty ⟨"POST", "/commands", headers, body⟩).run n
       on.1.2.told? = some ⟨some "google", some (.notice imageUsage), some (some "$e"), none⟩ ∧
         on.2.sent.map (fun q => (q.method, q.url.hostText?)) =
          [(.put, some "hs.example"), (.put, some "other.example")]) ∧
      (loud.handle o .empty ⟨"POST", "/commands", headers,
          body ++ List.replicate longestBody 0x20⟩).run n =
        ((.empty, (Outgoing.text 413
          "Failed to buffer the request body: length limit exceeded").shared), n) := by
  intro settings client headers body o n
  let h : Homeserver := ⟨client, ⟨"http", some ⟨"", "", .domain "hs.example", none⟩, .segments [""],
    none, none⟩, "token"⟩
  let loud : Service := ⟨⟨"!", [imageCommand (relay client settings.google h)]⟩, h, true⟩
  have hloud : ofSettings client (settings.delivering true) = .ok loud :=
    ofSettings_of_parse client (toOption_eq_some_iff.mp (by decide +kernel))
  have hlong : 2 ^ 21 < (body ++ List.replicate longestBody 0x20).length := by
    rw [List.length_append, List.length_replicate]
    exact Nat.lt_add_of_pos_left (by decide +kernel)
  refine ⟨loud, hloud, ?_,
    run_handle_of_long loud o .empty ⟨rfl, by decide +kernel⟩ (by decide +kernel) hlong n⟩
  show _ ∧ _
  decide +kernel

end Service

end ImageBot
