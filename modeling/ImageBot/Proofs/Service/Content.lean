import ImageBot.Proofs.Service.Course
import ImageBot.Proofs.Service.Delivery
/-!
# One message for the room and the client

A message has two JSON texts: one with its members as they were given, which clients get, and one
with its members sorted, which rooms get. Each of them is read back as the message, so no two
messages share a text, and what a client is told is what the room is sent.
-/
namespace ImageBot

open Http Json Text

namespace Message

/-- The type of a message. -/
def Kind.of : Message → Kind
  | .notice _ => .notice
  | .image _ => .image

/-- The JSON text of a message with sorted members. -/
def sortedWire (m : Message) : String := m.toValue.sorted.write

/-- The texts of a message. -/
def texts (m : Message) : List String := [m.wire, m.sortedWire]

/-- A message is read back from each of its texts. -/
theorem decode_of_mem_texts {m : Message} {text : String} (h : text ∈ m.texts) :
    decode (Utf8.bytes text) = .ok m := by
  rw [texts, List.mem_cons, List.mem_singleton] at h
  rcases h with rfl | rfl
  · exact (m.reads_toValue (by decide)).decode m.exact_toValue
  · exact m.decode_sorted

/-- No text is that of two messages. -/
theorem eq_of_mem_texts {m m' : Message} {text : String} (h : text ∈ m.texts)
    (h' : text ∈ m'.texts) : m = m' := by
  have hread := decode_of_mem_texts h
  rw [decode_of_mem_texts h', Except.ok.injEq] at hread
  exact hread.symm

end Message

/-- What is sent for a message is its text with sorted members. What it is sent on as has the same
text or none. -/
theorem Homeserver.sent_sendMessage_eq (h : Homeserver) (room : String) (message : Message)
    (transaction : String) (n : Network) :
    ∃ sent, ((h.sendMessage room message transaction).run n).2.sent = n.sent ++ sent ∧
      sent.length ≤ h.client.redirects + 1 ∧ (∀ q ∈ sent.head?, q.method = .put) ∧
      ∀ q ∈ sent, q.method = .get ∨ q.method = .put ∧ q.body = Utf8.bytes message.sortedWire := by
  obtain ⟨trail, hc, hleft, hq, -⟩ := h.run_sendMessage room message transaction n
  refine ⟨_, hc.sent_eq, ?_⟩
  cases trail with
  | none => simp
  | some t =>
    obtain ⟨url, -, hprepare⟩ := (hq t.first).mp rfl
    obtain ⟨full, -, hrequest⟩ := Request.prepare_eq_ok hprepare
    have hfirst : t.first.method = .put ∧ t.first.body = Utf8.bytes message.sortedWire := by
      rw [hrequest]
      exact ⟨rfl, rfl⟩
    simp only [Option.toList_some, List.flatMap_singleton]
    refine ⟨?_, ?_, ?_⟩
    · rw [List.length_map, ← hleft t rfl]
      exact (List.length_filter_le _ _).trans t.length_turns_le
    · intro q hhead
      rw [t.first_of_mem_head? hhead]
      exact hfirst.1
    · intro q hmem
      obtain ⟨u, hu, rfl⟩ := List.mem_map.mp hmem
      rcases t.follows.asks_or_keeps u (List.mem_filter.mp hu).1 with hget | ⟨hmethod, hbody⟩
      · exact .inl hget
      · rw [hmethod, hbody]
        exact .inr hfirst

/-- The client is told the content of the answer. -/
theorem Answer.told?_content {a : Answer} {content : Message} (h : content ∈ a.content?) :
    ∃ told, a.outgoing.shared.told? = some told ∧ told.content = some content := by
  cases a with
  | unaddressed => cases h
  | replied command content' event =>
    obtain rfl := Option.some.inj h
    exact ⟨_, told?_replied command content' event, rfl⟩
  | undelivered content' error =>
    obtain rfl := Option.some.inj h
    exact ⟨_, told?_undelivered content' error, rfl⟩

namespace Service

variable {client : Client} {settings : Settings} {s : Service}

/-- Of the requests made while a message is answered only the delivery puts something: the content
that is answered. -/
theorem Follows.put {o : Occasion} {m : ChatMessage} {c : Course} {answer : Answer}
    (hf : s.Follows client settings o m c answer) {t : Trail} (ht : t ∈ c.trails)
    (hput : t.first.method = .put) :
    ∃ content ∈ answer.content?, Message.decode t.first.body = .ok content := by
  have hmade {stage : Option Trail} (hmem : t ∈ stage.toList) :
      stage.map Trail.first = some t.first := by
    rw [Option.mem_toList.mp hmem, Option.map_some]
  have hmethod {r : Request} (hr : r.prepare = .ok t.first) : r.method = .put := by
    obtain ⟨url, -, hrequest⟩ := Request.prepare_eq_ok hr
    rw [hrequest] at hput
    exact hput
  simp only [Course.trails, List.mem_append] at ht
  rcases ht with ((hsearch | hlink) | hupload) | hdelivery
  · obtain ⟨phrase, -, hr⟩ := (hf.made.search _).mp (hmade hsearch)
    cases hmethod hr
  · obtain ⟨-, -, item, -, -, hr⟩ := (hf.made.link _).mp (hmade hlink)
    cases hmethod hr
  · obtain ⟨-, -, source, url, -, -, hr⟩ := (hf.made.upload _).mp (hmade hupload)
    cases hmethod hr
  · obtain ⟨-, content, hcontent, url, -, hr⟩ := (hf.delivery _).mp (hmade hdelivery)
    exact ⟨content, hcontent, (decode_messageRequest hr).2⟩

/-- Whatever is put while a request is handled is the content that the client is told. -/
theorem put_of_handle (hs : ofSettings client settings = .ok s) (o : Occasion)
    (metrics : Metrics) (r : Incoming) (n : Network) :
    let run := (s.handle o metrics r).run n
    ∃ sent, run.2.sent = n.sent ++ sent ∧ ∀ q ∈ sent, q.method = .put →
      ∃ told content, run.1.2.told? = some told ∧ told.content = some content ∧
        Message.decode q.body = .ok content := by
  by_cases hr : r.IsCommand
  · rw [run_handle_command s o metrics hr n]
    cases hm : chatMessage r with
    | error refused => exact ⟨[], by simp, by simp⟩
    | ok m =>
      obtain ⟨c, hc, hf⟩ := run_answer_follows hs o metrics m n
      refine ⟨_, hc.sent_eq, ?_⟩
      intro q hq hput
      obtain ⟨u, hu, rfl⟩ := List.mem_map.mp hq
      obtain ⟨t, ht, hmem⟩ := List.mem_flatMap.mp (List.mem_filter.mp hu).1
      obtain ⟨hmethod, hkept⟩ := (t.follows.asks_or_keeps u hmem).resolve_left (by simp [hput])
      obtain ⟨content, hcontent, hbody⟩ := hf.put ht (hmethod ▸ hput)
      obtain ⟨told, htold, htoldContent⟩ := Answer.told?_content hcontent
      exact ⟨told, content, htold, htoldContent, hkept ▸ hbody⟩
  · obtain ⟨out, hrun⟩ := s.run_handle_other o metrics hr n
    rw [hrun]
    exact ⟨[], by simp, by simp⟩

/-- **A message is what its texts say.** It is read back from both of them, the one of which is
sent to rooms, so no two messages have a text in common and no notice is read as an image. While
a request is handled, the room is sent the very message that the client is told. -/
theorem texts_denote_messages :
    (∀ m : Message, Message.decode (Utf8.bytes m.wire) = .ok m ∧
      Message.decode (Utf8.bytes m.sortedWire) = .ok m) ∧
    (∀ (h : Homeserver) (room : String) (m : Message) (transaction : String) (n : Network),
      ∃ sent, ((h.sendMessage room m transaction).run n).2.sent = n.sent ++ sent ∧
        sent.length ≤ h.client.redirects + 1 ∧ (∀ q ∈ sent.head?, q.method = .put) ∧
        ∀ q ∈ sent, q.method = .get ∨ q.method = .put ∧ q.body = Utf8.bytes m.sortedWire ∧
          Message.decode q.body = .ok m) ∧
    (∀ m m' : Message, ∀ text, text ∈ m.texts → text ∈ m'.texts → m = m') ∧
    (∀ m m' : Message, ∀ text ∈ m.texts, Message.decode (Utf8.bytes text) = .ok m' →
      Message.Kind.of m' = Message.Kind.of m) ∧
    ∀ client settings s, ofSettings client settings = .ok s →
      ∀ (o : Occasion) (metrics : Metrics) (r : Incoming) (n : Network),
        let run := (s.handle o metrics r).run n
        ∃ sent, run.2.sent = n.sent ++ sent ∧ ∀ q ∈ sent, q.method = .put →
          ∃ told content, run.1.2.told? = some told ∧ told.content = some content ∧
            Message.decode q.body = .ok content := by
  refine ⟨?_, ?_, fun m m' text => Message.eq_of_mem_texts, ?_, ?_⟩
  · intro m
    exact ⟨Message.decode_of_mem_texts (by simp [Message.texts]),
      Message.decode_of_mem_texts (by simp [Message.texts])⟩
  · intro h room m transaction n
    obtain ⟨sent, hsent, hlength, hfirst, hall⟩ := h.sent_sendMessage_eq room m transaction n
    refine ⟨sent, hsent, hlength, hfirst, ?_⟩
    intro q hq
    refine (hall q hq).imp_right ?_
    rintro ⟨hmethod, hbody⟩
    refine ⟨hmethod, hbody, ?_⟩
    rw [hbody]
    exact m.decode_sorted
  · intro m m' text htext hread
    rw [Message.decode_of_mem_texts htext, Except.ok.injEq] at hread
    rw [hread]
  · intro client settings s hs
    exact put_of_handle hs

/-- The two texts of an image. -/
theorem texts_denote_messages_image :
    let m : Message := .image ⟨"cats", ⟨"mxc://h/1"⟩, ⟨48, 64, "image/png"⟩⟩
    m.wire = "\x7b\"msgtype\":\"m.image\",\"body\":\"cats\",\"url\":\"mxc://h/1\"," ++
        "\"info\":\x7b\"h\":48,\"w\":64,\"mimetype\":\"image/png\"\x7d\x7d" ∧
      m.sortedWire = "\x7b\"body\":\"cats\",\"info\":\x7b\"h\":48,\"mimetype\":\"image/png\"," ++
        "\"w\":64\x7d,\"msgtype\":\"m.image\",\"url\":\"mxc://h/1\"\x7d" ∧
      Message.decode (Utf8.bytes m.wire) = .ok m ∧
      Message.decode (Utf8.bytes m.sortedWire) = .ok m := by
  intro m
  exact ⟨by decide +kernel, by decide +kernel, texts_denote_messages.1 m⟩

end Service

end ImageBot
