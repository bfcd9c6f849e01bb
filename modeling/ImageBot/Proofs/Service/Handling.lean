import ImageBot.Proofs.Command.Selection
import ImageBot.Proofs.Http.Conversation
import ImageBot.Proofs.Settings.Loading
import ImageBot.Service.Router
/-!
# What the service does with a request

The equations below take the handling of a request apart: by its place and method, by what
its body is, by the command it addresses, and by whether the reply is delivered. Everything
else about the service is proved from them.
-/
namespace ImageBot

open Http Http.Network

/-- A request with a chat message, as far as method and path tell. -/
structure Incoming.IsCommand (r : Incoming) : Prop where
  method : r.method = "POST"
  place : Place.ofPath? r.path = some .commands

/-- A request for the report about the metrics, or for its head. -/
structure Incoming.IsReport (r : Incoming) : Prop where
  method : r.method = "GET" ∨ r.method = "HEAD"
  place : Place.ofPath? r.path = some .stats

/-- The message in an answer, if there is one. -/
def Answer.content? : Answer → Option Message
  | unaddressed => none
  | replied _ content _ => some content
  | undelivered content _ => some content

/-- A homeserver is talked to by the client that it was made with. -/
theorem Homeserver.client_of_ofSettings {client : Client} {settings : MatrixSettings}
    {h : Homeserver} (hh : ofSettings client settings = .ok h) : h.client = client := by
  rw [ofSettings] at hh
  split at hh <;> cases hh
  rfl

namespace Service

variable {client : Client} {settings : Settings} {s : Service}

/-- The service of the settings has one command, and the homeserver and the wish for delivery
are those of the settings. -/
theorem ofSettings_eq_ok_iff : ofSettings client settings = .ok s ↔
    ∃ h, Homeserver.ofSettings client settings.matrix = .ok h ∧
      s = ⟨⟨settings.server.commandPrefix, [imageCommand (relay client settings.google h)]⟩, h,
        settings.matrix.deliverMessages⟩ := by
  rw [ofSettings]
  cases Homeserver.ofSettings client settings.matrix with
  | error f => simp
  | ok h => simp [Registry.empty, Registry.register, eq_comm]

/-- The service of settings that tell the URL of a homeserver. -/
theorem ofSettings_of_parse (client : Client) {settings : Settings} {url : Url}
    (h : Url.parse settings.matrix.homeserverUrl = .ok url) :
    ofSettings client settings =
      let home : Homeserver := ⟨client, url, settings.matrix.accessToken⟩
      .ok ⟨⟨settings.server.commandPrefix, [imageCommand (relay client settings.google home)]⟩,
        home, settings.matrix.deliverMessages⟩ :=
  ofSettings_eq_ok_iff.mpr ⟨_, by rw [Homeserver.ofSettings, h], rfl⟩

/-- There is a service for settings with the default homeserver. -/
theorem exists_ofSettings (client : Client) {settings : Settings}
    (h : settings.matrix.homeserverUrl = Settings.default.matrix.homeserverUrl) :
    ∃ s, ofSettings client settings = .ok s :=
  ⟨_, ofSettings_of_parse client ((congrArg Url.parse h).trans
    Settings.parse_defaultHomeserverUrl)⟩

/-- A request is refused for its type, for the length of its body, or for what the body is. -/
theorem refused_of_chatMessage {r : Incoming} {refused : Outgoing}
    (h : chatMessage r = .error refused) :
    refused = .text 415 "Expected request with `Content-Type: application/json`" ∨
    (r.mediaType?.any MediaType.isJson ∧ 2 ^ 21 < r.body.length ∧
      refused = .text 413 "Failed to buffer the request body: length limit exceeded") ∨
    refused.status = 400 ∨ refused.status = 422 := by
  rw [chatMessage] at h
  split at h
  · exact .inl (Except.error.inj h).symm
  · next htype =>
    rw [Bool.not_eq_true', Bool.not_eq_false] at htype
    split at h
    · next hlong => exact .inr (.inl ⟨htype, hlong, (Except.error.inj h).symm⟩)
    · split at h
      · next p _ =>
        cases h
        rw [refusal]
        split
        · exact .inr (.inr (.inr rfl))
        · exact .inr (.inr (.inl rfl))
      · cases h

/-- A body is refused as too long exactly if it is told to be JSON and has more than two
mebibytes. -/
theorem chatMessage_eq_tooLong_iff {r : Incoming} : chatMessage r =
      .error (.text 413 "Failed to buffer the request body: length limit exceeded") ↔
    r.mediaType?.any MediaType.isJson ∧ 2 ^ 21 < r.body.length := by
  constructor
  · intro h
    rcases refused_of_chatMessage h with he | ⟨htype, hlong, -⟩ | hstatus | hstatus
    · cases congrArg Outgoing.status he
    · exact ⟨htype, hlong⟩
    · cases hstatus
    · cases hstatus
  · rintro ⟨htype, hlong⟩
    have hlong' : longestBody < r.body.length := hlong
    simp [chatMessage, htype, hlong']

/-- Delivering is one attempt to send, if it is wanted. -/
theorem run_deliver (s : Service) (o : Occasion) (room command : String) (content : Message)
    (n : Network) : (s.deliver o room command content).run n =
      if s.delivers then
        match (s.homeserver.sendMessage room content o.transaction).run n with
        | (.ok event, m) => (.replied command content (some event), m)
        | (.error e, m) => (.undelivered content e, m)
      else (.replied command content none, n) := by
  cases hd : s.delivers with
  | false => simp only [deliver, hd, Bool.not_false, if_true, Bool.false_eq_true, if_false]; rfl
  | true =>
    simp only [deliver, hd, Bool.not_true, Bool.false_eq_true, if_false, if_true, run_bind]
    rcases (s.homeserver.sendMessage room content o.transaction).run n with ⟨e | event, m⟩ <;> rfl

/-- A command that ran is recorded before its reply is delivered. -/
theorem run_answer (s : Service) (o : Occasion) (metrics : Metrics) (m : ChatMessage)
    (n : Network) : (s.answer o metrics m).run n =
      match s.registry.parse m.body with
      | none => ((metrics, .unaddressed), n)
      | some (c, args) =>
        let ran := (c.run ⟨m.roomId, m.userId⟩ args).run n
        let told := (s.deliver o m.roomId c.name (reply ran.1)).run ran.2
        ((metrics.record c.name (.of ran.1) o.elapsed, told.1), told.2) := by
  simp only [answer, Registry.dispatch]
  cases s.registry.parse m.body with
  | none => rfl
  | some p => rfl

/-- Handling a chat message is answering it. -/
theorem run_handle_command (s : Service) (o : Occasion) (metrics : Metrics) {r : Incoming}
    (hr : r.IsCommand) (n : Network) : (s.handle o metrics r).run n =
      match chatMessage r with
      | .error refused => ((metrics, refused.shared), n)
      | .ok m =>
        let answered := (s.answer o metrics m).run n
        ((answered.1.1, answered.1.2.outgoing.shared), answered.2) := by
  have hnot : ¬r.method = "OPTIONS" := by rw [hr.method]; decide
  have hhead : ¬r.method = "HEAD" := by rw [hr.method]; decide
  have hmethod : (!Place.commands.methods.contains r.method) = false := by rw [hr.method]; decide
  simp only [handle, route, hr.place, serve, hnot, hhead, hmethod, if_false, Bool.false_eq_true]
  cases chatMessage r <;> rfl

/-- A body that is too long is not looked at, and changes nothing. -/
theorem run_handle_of_long (s : Service) (o : Occasion) (metrics : Metrics) {r : Incoming}
    (hr : r.IsCommand) (htype : r.mediaType?.any MediaType.isJson)
    (hlong : 2 ^ 21 < r.body.length) (n : Network) : (s.handle o metrics r).run n =
      ((metrics, (Outgoing.text 413
        "Failed to buffer the request body: length limit exceeded").shared), n) := by
  rw [run_handle_command s o metrics hr n, chatMessage_eq_tooLong_iff.mpr ⟨htype, hlong⟩]

/-- Handling a request with a chat message is answering this. -/
theorem handle_of_chatMessage (s : Service) (o : Occasion) (metrics : Metrics) {r : Incoming}
    (hr : r.IsCommand) {m : ChatMessage} (hm : chatMessage r = .ok m) (n : Network) :
    ((s.handle o metrics r).run n).1.2 = ((s.answer o metrics m).run n).1.2.outgoing.shared ∧
      ((s.handle o metrics r).run n).2 = ((s.answer o metrics m).run n).2 := by
  rw [run_handle_command s o metrics hr n, hm]
  exact ⟨rfl, rfl⟩

/-- No other request runs a command, and what is told to it depends on nothing but the metrics,
and on them only in a report. -/
theorem exists_told {r : Incoming} (hr : ¬r.IsCommand) : ∃ told : Metrics → Outgoing,
    (∀ (s : Service) (o : Occasion) (metrics : Metrics) (n : Network),
      (s.handle o metrics r).run n = ((metrics, told metrics), n)) ∧
    ((∀ m m', told m = told m') ∨ r.IsReport ∧
      ∀ m, told m = (Outgoing.json 200 m.toValue.sorted).shared) := by
  by_cases ho : r.method = "OPTIONS"
  · refine ⟨fun _ => (permission r).shared, ?_, .inl fun _ _ => rfl⟩
    intro s o metrics n
    simp only [handle, ho, if_true]
    rfl
  · simp only [handle, ho, if_false, route]
    cases hp : Place.ofPath? r.path with
    | none => exact ⟨_, fun _ _ _ _ => rfl, .inl fun _ _ => rfl⟩
    | some p =>
      by_cases hm : p.methods.contains r.method
      · simp only [hm, Bool.not_true, Bool.false_eq_true, if_false]
        cases p with
        | commands =>
          refine absurd ⟨?_, hp⟩ hr
          simpa [Place.methods] using hm
        | health => exact ⟨_, fun _ _ _ _ => rfl, .inl fun _ _ => rfl⟩
        | stats =>
          by_cases hh : r.method = "HEAD"
          · simp only [hh, if_true]
            exact ⟨fun _ => { Outgoing.json 200 (Metrics.toValue .empty).sorted with
              body := [] }.shared, fun _ _ _ _ => rfl, .inl fun _ _ => rfl⟩
          · have hget : r.method = "GET" := by simpa [Place.methods, hh] using hm
            simp only [hh, if_false]
            exact ⟨_, fun _ _ _ _ => rfl, .inr ⟨⟨.inl hget, hp⟩, fun _ => rfl⟩⟩
      · simp only [hm, Bool.not_false, if_true]
        exact ⟨fun _ => ((Outgoing.empty 405).allowing (some p)).shared, fun _ _ _ _ => rfl,
          .inl fun _ _ => rfl⟩

/-- No other request runs a command. -/
theorem run_handle_other (s : Service) (o : Occasion) (metrics : Metrics) {r : Incoming}
    (hr : ¬r.IsCommand) (n : Network) :
    ∃ out, (s.handle o metrics r).run n = ((metrics, out), n) := by
  obtain ⟨told, hrun, -⟩ := exists_told hr
  exact ⟨told metrics, hrun s o metrics n⟩

end Service

end ImageBot
