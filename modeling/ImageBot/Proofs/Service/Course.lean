import ImageBot.Proofs.Relay.Stages
import ImageBot.Proofs.Service.Handling
/-!
# The course of a command

What the service sends while it answers a chat message is at most a search, the fetch of what
was found, its upload, and the delivery of the reply, each at most once and in this order, and
each followed by what it is sent on as. Which of them are sent is determined by the message and
by the answers to the earlier ones.
-/
namespace ImageBot

open Http Http.Network

/-- The phrase to search for, if arguments ask for an image. -/
def Invocation.phrase? : Invocation → Option String
  | usage => none
  | image phrase => some phrase

namespace Course

variable {c : Course} {search : ImageSearch} {h : Homeserver} {phrase? : Option String}
  {phrase : String} {result : Except CommandError Message}

/-- A course with a trail at its end. -/
theorem trails_append_delivery (hc : c.delivery = none) (d : Option Trail) :
    ({ c with delivery := d } : Course).trails = c.trails ++ d.toList := by
  simp [trails, hc]

theorem Made.withDelivery (hm : c.Made search h phrase?) (d : Option Trail) :
    ({ c with delivery := d } : Course).Made search h phrase? :=
  ⟨hm.search, hm.link, hm.upload⟩

theorem Ends.withDelivery (he : c.Ends search h phrase result) (d : Option Trail) :
    ({ c with delivery := d } : Course).Ends search h phrase result := by
  cases he with
  | unfound hs => exact .unfound hs
  | unlinked hs hf hl => exact .unlinked hs hf hl
  | unstored hs hf hl hu => exact .unstored hs hf hl hu
  | posted hs hf hl hu hst => exact .posted hs hf hl hu hst

/-- Nothing is made without a phrase. -/
theorem made_silent (search : ImageSearch) (h : Homeserver) : silent.Made search h none :=
  ⟨by simp [silent], by simp [silent], by simp [silent]⟩

/-- Whoever stores a file has fetched one. -/
theorem Made.fetched (hm : c.Made search h phrase?) {u : Trail} (hu : u ∈ c.upload) :
    ∃ t ∈ c.link, ∃ source, t.Fetches source := by
  have hq : c.upload.map Trail.first = some u.first := by
    rw [Option.mem_def.mp hu, Option.map_some]
  obtain ⟨t, ht, source, -, hf, -⟩ := (hm.upload _).mp hq
  exact ⟨t, ht, source, hf⟩

/-- The reply is an image exactly if every stage succeeded. -/
theorem Ends.image_iff (hm : c.Made search h phrase?)
    (he : c.Ends search h phrase result) :
    (∃ image, Service.reply result = .image image) ↔
      (∃ t ∈ c.search, ∃ item, t.Finds item ∧ item.link ≠ "") ∧
      (∃ t ∈ c.link, ∃ source, t.Fetches source) ∧ ∃ t ∈ c.upload, ∃ uri, t.Stores uri := by
  cases he with
  | unfound hs =>
    simp only [Service.reply, reduceCtorEq, exists_false, false_iff]
    rintro ⟨⟨t, ht, item, hf, -⟩, -⟩
    cases (hs.ok_iff item).mpr ⟨t, ht, hf⟩
  | unlinked hs hf hl =>
    simp only [Service.reply, reduceCtorEq, exists_false, false_iff]
    rintro ⟨⟨t', ht', item', hf', hl'⟩, -⟩
    rw [Option.mem_unique ht' hs] at hf'
    rw [hf'.unique hf] at hl'
    exact hl' hl
  | unstored hs hf hl hu =>
    simp only [Service.reply, reduceCtorEq, exists_false, false_iff]
    rintro ⟨-, -, t, ht, uri, hst⟩
    cases (hu.ok_iff uri).mpr ⟨t, ht, hst⟩
  | posted hs hf hl hu hst =>
    simp only [Service.reply, Relay.imageMessage, Message.image.injEq, exists_eq', true_iff]
    exact ⟨⟨_, hs, _, hf, hl⟩, hm.fetched hu, ⟨_, hu, _, hst⟩⟩

/-- What becomes of an image command, whether it has a phrase or not. -/
def Results (c : Course) (search : ImageSearch) (h : Homeserver)
    (result : Except CommandError Message) : Option String → Prop
  | none => c = .silent ∧ result = .ok (.notice imageUsage)
  | some phrase => c.Ends search h phrase result

theorem Results.image_iff (hm : c.Made search h phrase?) (hr : c.Results search h result phrase?) :
    (∃ image, Service.reply result = .image image) ↔
      (∃ t ∈ c.search, ∃ item, t.Finds item ∧ item.link ≠ "") ∧
      (∃ t ∈ c.link, ∃ source, t.Fetches source) ∧ ∃ t ∈ c.upload, ∃ uri, t.Stores uri := by
  cases phrase? with
  | none =>
    obtain ⟨rfl, rfl⟩ := hr
    simp [silent, Service.reply]
  | some phrase => exact Ends.image_iff hm hr

end Course

namespace Service

variable {client : Client} {settings : Settings} {s : Service}

/-- The phrase that a chat message asks an image for. -/
def phrase? (s : Service) (body : String) : Option String :=
  (s.registry.parse body).bind fun p => (Invocation.ofArgs p.2).phrase?

/-- The rules for the requests made while a chat message is answered, and for the answer. -/
structure Follows (s : Service) (client : Client) (settings : Settings) (o : Occasion)
    (m : ChatMessage) (c : Course) (answer : Answer) : Prop where
  /-- No request is sent on more often than the client lets it be. -/
  left : ∀ t ∈ c.trails, t.left = client.redirects
  /-- What is searched, fetched and stored. -/
  made : c.Made (.ofSettings client settings.google) s.homeserver (s.phrase? m.body)
  /-- The reply to an addressed message is delivered if this is wanted. -/
  delivery : ∀ q, c.delivery.map Trail.first = some q ↔ settings.matrix.deliverMessages ∧
    ∃ content ∈ answer.content?, ∃ url,
      s.homeserver.endpoint (Homeserver.messagePath m.roomId o.transaction) = .ok url ∧
        (s.homeserver.messageRequest url content).prepare = .ok q
  /-- A message is replied to exactly if it addresses a command. -/
  addressed : answer.content?.isSome ↔ (s.registry.parse m.body).isSome
  /-- The reply is an image exactly if it was found, fetched and stored. -/
  image : ∀ content ∈ answer.content?, (∃ image, content = .image image) ↔
    (∃ t ∈ c.search, ∃ item, t.Finds item ∧ item.link ≠ "") ∧
    (∃ t ∈ c.link, ∃ source, t.Fetches source) ∧ ∃ t ∈ c.upload, ∃ uri, t.Stores uri
  /-- Any other reply is a notice: how to use the command, or what came in between. -/
  told : ∀ content ∈ answer.content?, match s.phrase? m.body with
    | none => content = .notice imageUsage
    | some phrase => ∃ result,
      c.Ends (.ofSettings client settings.google) s.homeserver phrase result ∧
        content = reply result

/-- The image command searches, fetches and stores, if it is used as it should be. -/
theorem run_runImage (g : GoogleSettings) (h : Homeserver) (args : List String) (n : Network) :
    let search := ImageSearch.ofSettings h.client g
    ∃ c : Course, c.delivery = none ∧ (∀ t ∈ c.trails, t.left = h.client.redirects) ∧
      n.Carries c.trails ((runImage (relay h.client g h) args).run n).2 ∧
      c.Made search h (Invocation.ofArgs args).phrase? ∧
      c.Results search h ((runImage (relay h.client g h) args).run n).1
        (Invocation.ofArgs args).phrase? := by
  rw [runImage]
  cases Invocation.ofArgs args with
  | usage =>
    exact ⟨.silent, rfl, by simp [Course.trails, Course.silent], .nil n, Course.made_silent _ _,
      rfl, rfl⟩
  | image phrase => exact run_relay g h phrase n

/-- A reply is delivered by at most one request, and only if this is wanted. -/
theorem run_deliver_trail (s : Service) (o : Occasion) (room command : String) (content : Message)
    (n : Network) :
    ∃ d : Option Trail,
      n.Carries d.toList ((s.deliver o room command content).run n).2 ∧
      (∀ t ∈ d, t.left = s.homeserver.client.redirects) ∧
      (∀ q, d.map Trail.first = some q ↔ s.delivers ∧ ∃ url,
        s.homeserver.endpoint (Homeserver.messagePath room o.transaction) = .ok url ∧
          (s.homeserver.messageRequest url content).prepare = .ok q) ∧
      ((s.deliver o room command content).run n).1.content? = some content := by
  rw [run_deliver]
  by_cases hd : s.delivers
  · obtain ⟨d, hc, hleft, hq, -⟩ :=
      s.homeserver.run_sendMessage room content o.transaction n
    simp only [hd, if_true, true_and]
    refine ⟨d, ?_, hleft, hq, ?_⟩
    · rcases hsend : (s.homeserver.sendMessage room content o.transaction).run n with
        ⟨e | event, m⟩ <;> simpa only [hsend] using hc
    · rcases (s.homeserver.sendMessage room content o.transaction).run n with ⟨e | event, m⟩ <;> rfl
  · simp only [hd, Bool.false_eq_true, if_false, false_and]
    exact ⟨none, .nil n, by simp, by simp, rfl⟩

/-- Nothing happens for a message that addresses no command. -/
theorem follows_unaddressed {m : ChatMessage} (hp : s.registry.parse m.body = none) (o : Occasion) :
    s.Follows client settings o m .silent .unaddressed := by
  have hphrase : s.phrase? m.body = none := by
    rw [phrase?, hp]
    rfl
  constructor
  · simp [Course.trails, Course.silent]
  · rw [hphrase]
    exact Course.made_silent _ _
  · simp [Course.silent, Answer.content?]
  · simp [Answer.content?, hp]
  · simp [Answer.content?]
  · simp [Answer.content?]

/-- A command that ran and whose reply was delivered, if wanted, followed the rules. -/
theorem follows_replied {o : Occasion} {m : ChatMessage} {c : Course} {answer : Answer}
    {result : Except CommandError Message} {d : Option Trail}
    (hleft : ∀ t ∈ ({ c with delivery := d } : Course).trails, t.left = client.redirects)
    (hmade : c.Made (.ofSettings client settings.google) s.homeserver (s.phrase? m.body))
    (hend : c.Results (.ofSettings client settings.google) s.homeserver result (s.phrase? m.body))
    (hp : (s.registry.parse m.body).isSome) (hcontent : answer.content? = some (reply result))
    (hd : ∀ q, d.map Trail.first = some q ↔ settings.matrix.deliverMessages ∧ ∃ url,
      s.homeserver.endpoint (Homeserver.messagePath m.roomId o.transaction) = .ok url ∧
        (s.homeserver.messageRequest url (reply result)).prepare = .ok q) :
    s.Follows client settings o m { c with delivery := d } answer := by
  refine ⟨hleft, hmade.withDelivery d, ?_, ?_, ?_, ?_⟩
  · intro q
    simp only [hd, hcontent, Option.mem_some_iff, exists_eq_left']
  · simp [hcontent, hp]
  · intro content hmem
    rw [hcontent, Option.mem_some_iff] at hmem
    rw [← hmem]
    have himage := hend.image_iff hmade
    exact himage
  · intro content hmem
    rw [hcontent, Option.mem_some_iff] at hmem
    rw [← hmem]
    cases hph : s.phrase? m.body with
    | none =>
      rw [hph] at hend
      rw [hend.2]
      rfl
    | some phrase =>
      rw [hph] at hend
      exact ⟨result, hend.withDelivery d, rfl⟩

/-- Whatever is addressed is the image command, and runs as that. -/
theorem run_addressed (hs : ofSettings client settings = .ok s) {body : String}
    {command : Command} {args : List String} (hp : s.registry.parse body = some (command, args))
    (context : Context) (n : Network) :
    let search := ImageSearch.ofSettings client settings.google
    ∃ c : Course, c.delivery = none ∧ (∀ t ∈ c.trails, t.left = client.redirects) ∧
      n.Carries c.trails ((command.run context args).run n).2 ∧
      c.Made search s.homeserver (s.phrase? body) ∧
      c.Results search s.homeserver ((command.run context args).run n).1 (s.phrase? body) := by
  obtain ⟨h, hhome, hservice⟩ := ofSettings_eq_ok_iff.mp hs
  obtain rfl : h.client = client := Homeserver.client_of_ofSettings hhome
  have hmem := Registry.mem_of_parse hp
  have hphrase : s.phrase? body = (Invocation.ofArgs args).phrase? := by
    rw [phrase?, hp]
    rfl
  rw [hphrase]
  subst hservice
  cases List.mem_singleton.mp hmem
  exact run_runImage settings.google h args n

/-- Answering a chat message follows the rules. -/
theorem run_answer_follows (hs : ofSettings client settings = .ok s) (o : Occasion)
    (metrics : Metrics) (m : ChatMessage) (n : Network) :
    ∃ c : Course, n.Carries c.trails ((s.answer o metrics m).run n).2 ∧
      s.Follows client settings o m c ((s.answer o metrics m).run n).1.2 := by
  rw [run_answer]
  cases hp : s.registry.parse m.body with
  | none => exact ⟨.silent, .nil n, follows_unaddressed hp o⟩
  | some p =>
    obtain ⟨command, args⟩ := p
    obtain ⟨c, hnone, hleft, hc, hmade, hend⟩ := run_addressed hs hp ⟨m.roomId, m.userId⟩ n
    simp only
    generalize (command.run ⟨m.roomId, m.userId⟩ args).run n = ran at hc hend ⊢
    obtain ⟨result, k⟩ := ran
    obtain ⟨d, hd, hleft', hq, hcontent⟩ :=
      run_deliver_trail s o m.roomId command.name (reply result) k
    obtain ⟨hwish, hclient⟩ : s.delivers = settings.matrix.deliverMessages ∧
        s.homeserver.client = client := by
      obtain ⟨h, hhome, rfl⟩ := ofSettings_eq_ok_iff.mp hs
      exact ⟨rfl, Homeserver.client_of_ofSettings hhome⟩
    rw [hwish] at hq
    rw [hclient] at hleft'
    have hall : ∀ t ∈ ({ c with delivery := d } : Course).trails, t.left = client.redirects := by
      rw [Course.trails_append_delivery hnone, List.forall_mem_append]
      exact ⟨hleft, fun t ht => hleft' t (Option.mem_toList.mp ht)⟩
    refine ⟨{ c with delivery := d }, ?_,
      follows_replied hall hmade hend (by simp [hp]) hcontent hq⟩
    rw [Course.trails_append_delivery hnone]
    exact hc.append hd

/-- **The course of a command.** While a request with a chat message is handled, the network
is asked for the search, the fetch, the upload and the delivery, each at most once and in this
order, as the rules say, and for what these are sent on as. A body that is no chat message sends
nothing, and one of more than two mebibytes is none. -/
theorem handle_command_course (hs : ofSettings client settings = .ok s) (o : Occasion)
    (metrics : Metrics) {r : Incoming} (hr : r.IsCommand) (n : Network) :
    (∀ refused, chatMessage r = .error refused →
      (s.handle o metrics r).run n = ((metrics, refused.shared), n)) ∧
    (chatMessage r =
        .error (.text 413 "Failed to buffer the request body: length limit exceeded") ↔
      r.mediaType?.any MediaType.isJson ∧ 2 ^ 21 < r.body.length) ∧
    ∀ m, chatMessage r = .ok m → ∃ (c : Course) (answer : Answer),
      ((s.handle o metrics r).run n).1.2 = answer.outgoing.shared ∧
      n.Carries c.trails ((s.handle o metrics r).run n).2 ∧
      ((s.handle o metrics r).run n).2.sent =
        n.sent ++ ((c.trails.flatMap Trail.turns).filter Turn.left).map Turn.request ∧
      s.Follows client settings o m c answer := by
  rw [run_handle_command s o metrics hr n]
  refine ⟨?_, chatMessage_eq_tooLong_iff, ?_⟩
  · intro refused h
    rw [h]
  · intro m h
    rw [h]
    obtain ⟨c, hc, hf⟩ := run_answer_follows hs o metrics m n
    exact ⟨c, _, rfl, hc, hc.sent_eq, hf⟩

/-- The rules at work: an image is found, fetched, stored and delivered by one request each. -/
theorem handle_command_course_image :
    let settings : Settings := { Settings.default with
      google := ⟨"key", "cx", "http://search.example/v1", "large"⟩
      matrix := ⟨"http://hs.example", "token", true⟩ }
    let client : Client := .timeouts settings.outgoing
    let r : Incoming := ⟨"POST", "/commands",
      [("content-type", Text.Utf8.bytes "application/json")], Text.Utf8.bytes
        "\x7b\"room_id\":\"!r:h\",\"user_id\":\"@u:h\",\"body\":\"!google image cats\"\x7d"⟩
    let m : ChatMessage := ⟨"!r:h", "@u:h", "!google image cats"⟩
    let o : Occasion := ⟨7, "00112233445566778899aabbccddeeff"⟩
    let json (text : String) : Payload := .plain (Text.Utf8.bytes text)
    let n : Network := ⟨[.answered 200 [] (json
        "\x7b\"items\":[\x7b\"link\":\"http://images.example/cat.png\"\x7d]\x7d"),
      .answered 200 [("content-type", Text.Utf8.bytes "image/png")] (.plain [0x89]),
      .answered 200 [] (json "\x7b\"content_uri\":\"mxc://h/1\"\x7d"),
      .answered 200 [] (json "\x7b\"event_id\":\"$e\"\x7d")], .lost .timeout, []⟩
    let content : Message := .image ⟨"cats", ⟨"mxc://h/1"⟩, ⟨0, 0, ""⟩⟩
    let place (host : String) (path : List String) : Url :=
      ⟨"http", some ⟨"", "", .domain host, none⟩, .segments path, none, none⟩
    let token := ("authorization", "Bearer token")
    ∃ s, ofSettings client settings = .ok s ∧ r.IsCommand ∧ chatMessage r = .ok m ∧
      ((s.handle o .empty r).run n).1.2 =
        (Answer.replied "google" content (some "$e")).outgoing.shared ∧
      ((s.handle o .empty r).run n).2.sent = [
        ⟨.get, { place "search.example" ["v1"] with query :=
          "q=cats&num=1&start=1&imgSize=large&searchType=image&key=key&cx=cx" },
          defaultHeaders, []⟩,
        ⟨.get, place "images.example" ["cat.png"], defaultHeaders, []⟩,
        ⟨.post, place "hs.example" ["_matrix", "media", "r0", "upload"],
          token :: ("content-type", "image/png") :: defaultHeaders, [0x89]⟩,
        ⟨.put, place "hs.example" ["_matrix", "client", "r0", "rooms", "!r:h", "send",
            "m.room.message", o.transaction],
          token :: ("content-type", "application/json") :: defaultHeaders,
          Text.Utf8.bytes content.toValue.sorted.write⟩] ∧
      ∃ (c : Course) (answer : Answer),
        ((s.handle o .empty r).run n).1.2 = answer.outgoing.shared ∧
        n.Carries c.trails ((s.handle o .empty r).run n).2 ∧
        s.Follows client settings o m c answer := by
  intro settings client r m o json n content place token
  let h : Homeserver := ⟨client, place "hs.example" [""], "token"⟩
  let s : Service := ⟨⟨"!", [imageCommand (relay client settings.google h)]⟩, h, true⟩
  have hs : ofSettings client settings = .ok s :=
    ofSettings_of_parse client (toOption_eq_some_iff.mp (by decide +kernel))
  have hm : chatMessage r = .ok m := toOption_eq_some_iff.mp (by decide +kernel)
  have hr : r.IsCommand := ⟨rfl, by decide +kernel⟩
  obtain ⟨c, answer, hout, hc, -, hf⟩ := (handle_command_course hs o .empty hr n).2.2 m hm
  obtain ⟨htold, hafter⟩ := handle_of_chatMessage s o .empty hr hm n
  rw [htold] at hout
  rw [hafter] at hc
  refine ⟨s, hs, hr, hm, ?_⟩
  rw [htold, hafter]
  refine And.imp (congrArg fun answer : Answer => answer.outgoing.shared)
    (fun hsent => ⟨hsent, c, answer, hout, hc, hf⟩) ?_
  decide +kernel

/-- Two things that the network and the client can make of a command: a search that is answered with
the place where the engine is now is sent there as well, and a message with blanks behind it that
make its body too long is refused. -/
theorem handle_command_sent_on_or_refused :
    let settings : Settings := { Settings.default with
      google := ⟨"key", "cx", "http://search.example/v1", "large"⟩
      matrix := ⟨"http://hs.example", "token", false⟩ }
    let client : Client := .timeouts settings.outgoing
    let headers := [("content-type", Text.Utf8.bytes "application/json")]
    let body := Text.Utf8.bytes
      "\x7b\"room_id\":\"!r:h\",\"user_id\":\"@u:h\",\"body\":\"!google image cats\"\x7d"
    let o : Occasion := ⟨7, "00112233445566778899aabbccddeeff"⟩
    let n : Network := ⟨[.answered 302 [("location", Text.Utf8.bytes "/v2")] (.plain []),
      .answered 200 [] (.plain (Text.Utf8.bytes "\x7b\x7d"))], .lost .timeout, []⟩
    ∃ s, ofSettings client settings = .ok s ∧
      ((s.handle o .empty ⟨"POST", "/commands", headers, body⟩).run n).2.sent.map (·.url.path) =
        [.segments ["v1"], .segments ["v2"]] ∧
      (s.handle o .empty ⟨"POST", "/commands", headers,
          body ++ List.replicate longestBody 0x20⟩).run n =
        ((.empty, (Outgoing.text 413
          "Failed to buffer the request body: length limit exceeded").shared), n) := by
  intro settings client headers body o n
  let h : Homeserver := ⟨client, ⟨"http", some ⟨"", "", .domain "hs.example", none⟩, .segments [""],
    none, none⟩, "token"⟩
  let s : Service := ⟨⟨"!", [imageCommand (relay client settings.google h)]⟩, h, false⟩
  have hs : ofSettings client settings = .ok s :=
    ofSettings_of_parse client (toOption_eq_some_iff.mp (by decide +kernel))
  have hlong : 2 ^ 21 < (body ++ List.replicate longestBody 0x20).length := by
    rw [List.length_append, List.length_replicate]
    exact Nat.lt_add_of_pos_left (by decide +kernel)
  exact ⟨s, hs, by decide +kernel,
    run_handle_of_long s o .empty ⟨rfl, by decide +kernel⟩ (by decide +kernel) hlong n⟩

end Service

end ImageBot
