import ImageBot.Proofs.Metrics.Report
import ImageBot.Proofs.Service.Handling
/-!
# The accounts of the service

The metrics count exactly the requests that were answered with 200 or 502 on behalf of a
command. One request adds at most one to one count, and requests that run no command change
nothing. By induction over the requests, what the service reports is the number of such answers.
-/
namespace ImageBot

open Http Json

/-- A request that was handled, with the metrics and the network before and after. -/
structure Handled where
  occasion : Occasion
  request : Incoming
  answer : Outgoing
  metrics : Metrics
  metricsAfter : Metrics
  network : Network
  networkAfter : Network
  deriving Repr

/-- Whether the answer is that to a command. -/
def Handled.isCounted (h : Handled) : Bool :=
  h.request.method == "POST" && Place.ofPath? h.request.path == some .commands &&
    (h.answer.status == 200 || h.answer.status == 502)

/-- Handles one request. -/
def Service.handled (s : Service) (metrics : Metrics) (n : Network) (o : Occasion)
    (r : Incoming) : Handled :=
  let ((metricsAfter, answer), networkAfter) := (s.handle o metrics r).run n
  ⟨o, r, answer, metrics, metricsAfter, n, networkAfter⟩

/-- Handles requests one after the other. -/
def Service.handleAll (s : Service) :
    Metrics → Network → List (Occasion × Incoming) → List Handled × Metrics × Network
  | metrics, n, [] => ([], metrics, n)
  | metrics, n, (o, r) :: rest =>
    let h := s.handled metrics n o r
    let (later, last) := s.handleAll h.metricsAfter h.networkAfter rest
    (h :: later, last)

/-- How a request is accounted for that made a command run: one more for the command and its
outcome, whatever became of the delivery. -/
structure Handled.Accounts (h : Handled) (s : Service) (m : ChatMessage)
    (ran : Registry.Dispatched) (outcome : Outcome) : Prop where
  message : Service.chatMessage h.request = .ok m
  dispatched : ((s.registry.dispatch ⟨m.roomId, m.userId⟩ m.body).run h.network).1 = some ran
  answer :
    (∃ event, h.answer =
      (Answer.replied ran.command (Service.reply ran.result) event).outgoing.shared) ∨
    ∃ e, h.answer = (Answer.undelivered (Service.reply ran.result) e).outgoing.shared
  total : h.metricsAfter.total = h.metrics.total + 1
  count : ∀ name o, h.metricsAfter.count name o =
    h.metrics.count name o + if name = ran.command ∧ o = outcome then 1 else 0
  image : outcome = .image ↔ ∃ image, Service.reply ran.result = .image image
  searchError : outcome = .searchError ↔ ∃ e, ran.result = .error (.search e) ∧
    Service.reply ran.result = .notice (CommandError.search e).message
  uploadError : outcome = .uploadError ↔ ∃ e, ran.result = .error (.upload e) ∧
    Service.reply ran.result = .notice (CommandError.upload e).message
  notice : outcome = .notice ↔ ∃ text, ran.result = .ok (.notice text)

/-- How a request is accounted for that made no command run: it leaves everything as it is. -/
structure Handled.Leaves (h : Handled) : Prop where
  metrics : h.metricsAfter = h.metrics
  network : h.networkAfter = h.network

theorem Handled.isCounted_iff {h : Handled} : h.isCounted ↔
    h.request.IsCommand ∧ (h.answer.status = 200 ∨ h.answer.status = 502) := by
  simp only [isCounted, Bool.and_eq_true, Bool.or_eq_true, beq_iff_eq]
  exact and_congr_left' ⟨fun ⟨hm, hp⟩ => ⟨hm, hp⟩, fun ⟨hm, hp⟩ => ⟨hm, hp⟩⟩

namespace Outcome

variable (result : Except CommandError Message)

/-- An image is told by the reply. -/
theorem of_eq_image_iff : of result = .image ↔ ∃ image, Service.reply result = .image image := by
  rcases result with (e | e) | (text | image) <;> simp [of, Service.reply]

/-- A failure of the search is told by the reply. -/
theorem of_eq_searchError_iff : of result = .searchError ↔ ∃ e, result = .error (.search e) ∧
    Service.reply result = .notice (CommandError.search e).message := by
  rcases result with (e | e) | (text | image) <;> simp [of, Service.reply]

/-- A failure of the upload is told by the reply. -/
theorem of_eq_uploadError_iff : of result = .uploadError ↔ ∃ e, result = .error (.upload e) ∧
    Service.reply result = .notice (CommandError.upload e).message := by
  rcases result with (e | e) | (text | image) <;> simp [of, Service.reply]

theorem of_eq_notice_iff : of result = .notice ↔ ∃ text, result = .ok (.notice text) := by
  rcases result with (e | e) | (text | image) <;> simp [of]

end Outcome

/-- The command that a body addresses is run. -/
theorem Registry.run_dispatch {g : Registry} {body : String} {c : Command} {args : List String}
    (h : g.parse body = some (c, args)) (ctx : Context) (n : Network) :
    ((g.dispatch ctx body).run n).1 = some ⟨c.name, ((c.run ctx args).run n).1⟩ := by
  simp only [dispatch, h]
  rfl

namespace Service

/-- No chat message, no answer on behalf of a command. -/
theorem status_of_chatMessage_error {r : Incoming} {refused : Outgoing}
    (h : chatMessage r = .error refused) : refused.status ≠ 200 ∧ refused.status ≠ 502 := by
  rcases refused_of_chatMessage h with rfl | ⟨-, -, rfl⟩ | hstatus | hstatus
  · exact ⟨by simp [Outgoing.text], by simp [Outgoing.text]⟩
  · exact ⟨by simp [Outgoing.text], by simp [Outgoing.text]⟩
  · simp [hstatus]
  · simp [hstatus]

/-- An answer on behalf of a command has one of the two statuses of such answers. -/
theorem status_of_content {a : Answer} :
    a.content?.isSome ↔ a.outgoing.shared.status = 200 ∨ a.outgoing.shared.status = 502 := by
  cases a <;> simp [Answer.content?, Answer.outgoing, Outgoing.shared, Outgoing.withHeader,
    Outgoing.empty, Outgoing.json]

/-- What is answered to an addressed message carries the reply, delivered or not. -/
theorem deliver_answer (s : Service) (o : Occasion) (room command : String) (content : Message)
    (n : Network) :
    (∃ event, ((s.deliver o room command content).run n).1 = .replied command content event) ∨
      ∃ e, ((s.deliver o room command content).run n).1 = .undelivered content e := by
  rw [run_deliver]
  by_cases hd : s.delivers
  · rw [if_pos hd]
    rcases (s.homeserver.sendMessage room content o.transaction).run n with ⟨e | event, m⟩
    · exact .inr ⟨e, rfl⟩
    · exact .inl ⟨event, rfl⟩
  · rw [if_neg hd]
    exact .inl ⟨none, rfl⟩

variable (s : Service) (metrics : Metrics) (n : Network) (o : Occasion) {r : Incoming}

/-- A request that leaves everything as it is, and is not answered on behalf of a command. -/
theorem handled_leaves {out : Outgoing}
    (hrun : (s.handle o metrics r).run n = ((metrics, out), n))
    (hno : r.IsCommand → out.status ≠ 200 ∧ out.status ≠ 502) :
    (s.handled metrics n o r).isCounted = false ∧ (s.handled metrics n o r).Leaves := by
  constructor
  · apply Bool.eq_false_iff.mpr
    intro h
    obtain ⟨hr, hstatus⟩ := Handled.isCounted_iff.mp h
    simp only [handled, hrun] at hr hstatus
    exact hstatus.elim (hno hr).1 (hno hr).2
  · constructor
    · simp [handled, hrun]
    · simp [handled, hrun]

/-- A request without a command is not accounted for, and changes nothing. -/
theorem handled_other (hr : ¬r.IsCommand) :
    (s.handled metrics n o r).isCounted = false ∧ (s.handled metrics n o r).Leaves := by
  obtain ⟨out, hrun⟩ := s.run_handle_other o metrics hr n
  apply handled_leaves s metrics n o hrun
  intro h
  exact absurd h hr

/-- A body that is no chat message is not accounted for, and changes nothing. -/
theorem handled_refused (hr : r.IsCommand) {refused : Outgoing}
    (hm : chatMessage r = .error refused) :
    (s.handled metrics n o r).isCounted = false ∧ (s.handled metrics n o r).Leaves := by
  have hrun := s.run_handle_command o metrics hr n
  rw [hm] at hrun
  apply handled_leaves s metrics n o hrun
  intro _
  have hstatus := status_of_chatMessage_error hm
  exact hstatus

/-- A message that addresses no command is not accounted for, and changes nothing. -/
theorem handled_unaddressed (hr : r.IsCommand) {m : ChatMessage} (hm : chatMessage r = .ok m)
    (hp : s.registry.parse m.body = none) :
    (s.handled metrics n o r).isCounted = false ∧ (s.handled metrics n o r).Leaves := by
  have hrun := s.run_handle_command o metrics hr n
  have hanswer := s.run_answer o metrics m n
  rw [hp] at hanswer
  simp only [hm, hanswer] at hrun
  apply handled_leaves s metrics n o hrun
  intro _
  have hstatus := mt (status_of_content (a := .unaddressed)).mpr Bool.false_ne_true
  exact not_or.mp hstatus

/-- A command that ran is accounted for, whatever becomes of its reply. -/
theorem handled_addressed (hr : r.IsCommand) {m : ChatMessage} (hm : chatMessage r = .ok m)
    {c : Command} {args : List String} (hp : s.registry.parse m.body = some (c, args)) :
    (s.handled metrics n o r).isCounted ∧
      ∃ ran outcome, (s.handled metrics n o r).Accounts s m ran outcome ∧
        (s.handled metrics n o r).metricsAfter = metrics.record ran.command outcome o.elapsed := by
  have hrun := s.run_handle_command o metrics hr n
  have hanswer := s.run_answer o metrics m n
  rw [hp] at hanswer
  simp only [hm, hanswer] at hrun
  let result := ((c.run ⟨m.roomId, m.userId⟩ args).run n).1
  have htold := s.deliver_answer o m.roomId c.name (reply result)
    ((c.run ⟨m.roomId, m.userId⟩ args).run n).2
  have hmetrics : (s.handled metrics n o r).metricsAfter =
      metrics.record c.name (.of result) o.elapsed := by simp [handled, hrun, result]
  refine ⟨Handled.isCounted_iff.mpr ⟨hr, ?_⟩, ⟨c.name, result⟩, .of result, ?_, hmetrics⟩
  · simp only [handled, hrun]
    apply status_of_content.mp
    rcases htold with ⟨_, h⟩ | ⟨_, h⟩
    · rw [h]
      rfl
    · rw [h]
      rfl
  · exact {
      message := hm
      dispatched := Registry.run_dispatch hp _ n
      answer := by
        simp only [handled, hrun]
        rcases htold with ⟨event, h⟩ | ⟨e, h⟩
        · exact .inl ⟨event, by rw [h]⟩
        · exact .inr ⟨e, by rw [h]⟩
      total := by rw [hmetrics]; rfl
      count := fun name o' => by rw [hmetrics, Metrics.count_record]; rfl
      image := Outcome.of_eq_image_iff result
      searchError := Outcome.of_eq_searchError_iff result
      uploadError := Outcome.of_eq_uploadError_iff result
      notice := Outcome.of_eq_notice_iff result }

/-- One request is accounted for. -/
theorem handled_accounts (r : Incoming) :
    ((s.handled metrics n o r).isCounted = false ∧ (s.handled metrics n o r).Leaves) ∨
    (s.handled metrics n o r).isCounted ∧
      ∃ m ran outcome, (s.handled metrics n o r).Accounts s m ran outcome ∧
        (s.handled metrics n o r).metricsAfter = metrics.record ran.command outcome o.elapsed := by
  by_cases hr : r.IsCommand
  · cases hm : chatMessage r with
    | error refused => exact .inl (s.handled_refused metrics n o hr hm)
    | ok m =>
      cases hp : s.registry.parse m.body with
      | none => exact .inl (s.handled_unaddressed metrics n o hr hm hp)
      | some p =>
        obtain ⟨hc, ran, outcome, ha, hrecord⟩ := s.handled_addressed metrics n o hr hm hp
        exact .inr ⟨hc, m, ran, outcome, ha, hrecord⟩
  · exact .inl (s.handled_other metrics n o hr)

/-- One request keeps metrics balanced, and adds one to their total if it is counted. -/
theorem handled_balanced (hb : metrics.Balanced) (r : Incoming) :
    let h := s.handled metrics n o r
    h.metricsAfter.Balanced ∧
      h.metricsAfter.total = metrics.total + (if h.isCounted then 1 else 0) ∧
      (h.isCounted → ∃ m ran outcome, h.Accounts s m ran outcome) ∧
      (h.isCounted = false → h.Leaves) := by
  intro h
  rcases s.handled_accounts metrics n o r with
    ⟨hc, hleaves⟩ | ⟨hc, m, ran, outcome, haccounts, hrecord⟩
  · change h.isCounted = false at hc
    have hsame : h.metricsAfter = metrics := hleaves.metrics
    exact ⟨hsame.symm ▸ hb, by simp [hc, hsame], by simp [hc], fun _ => hleaves⟩
  · change h.isCounted = true at hc
    change h.metricsAfter = _ at hrecord
    have htotal : h.metricsAfter.total = metrics.total + 1 := haccounts.total
    exact ⟨hrecord ▸ hb.record _ _ _, by simp [hc, htotal], fun _ => ⟨m, ran, outcome, haccounts⟩,
      by simp [hc]⟩

/-- Asking for the report changes nothing. -/
theorem run_handle_stats (hr : r.method = "GET") (hp : Place.ofPath? r.path = some .stats) :
    (s.handle o metrics r).run n =
      ((metrics, (Outgoing.json 200 metrics.toValue.sorted).shared), n) := by
  have hnot : ¬r.method = "OPTIONS" := by rw [hr]; decide
  have hhead : ¬r.method = "HEAD" := by rw [hr]; decide
  have hmethod : (!Place.stats.methods.contains r.method) = false := by rw [hr]; decide
  simp only [handle, route, hp, serve, hnot, hhead, hmethod, if_false, Bool.false_eq_true]
  rfl

/-- Metrics stay balanced, and every request is accounted for, while requests are handled. -/
theorem handleAll_balanced (hb : metrics.Balanced) (steps : List (Occasion × Incoming)) :
    let run := s.handleAll metrics n steps
    run.2.1.Balanced ∧ run.2.1.total = metrics.total + run.1.countP Handled.isCounted ∧
      ∀ h ∈ run.1, (h.isCounted → ∃ m ran outcome, h.Accounts s m ran outcome) ∧
        (h.isCounted = false → h.Leaves) := by
  induction steps generalizing metrics n with
  | nil => exact ⟨hb, rfl, fun h hm => absurd hm List.not_mem_nil⟩
  | cons step rest ih =>
    obtain ⟨o, r⟩ := step
    obtain ⟨hafter, hone, hfirst⟩ := s.handled_balanced metrics n o hb r
    obtain ⟨hb', htotal, hall⟩ := ih _ (s.handled metrics n o r).networkAfter hafter
    simp only [handleAll, List.countP_cons, List.forall_mem_cons]
    refine ⟨hb', ?_, hfirst, hall⟩
    rw [htotal, hone, Nat.add_assoc, Nat.add_comm (ite _ _ _)]

/-- **The accounts of the service.** However many requests are handled, and whatever the
network replies, the report at the end tells the number of requests answered on behalf of a
command. Each of them was counted once, and the others changed and sent nothing. -/
theorem handleAll_accounts (steps : List (Occasion × Incoming)) :
    let run := s.handleAll .empty n steps
    run.2.1.total = run.1.countP Handled.isCounted ∧
    (∀ (later : Occasion) (r : Incoming) (m : Network), r.method = "GET" →
      Place.ofPath? r.path = some .stats →
      ∃ report : Value, ((s.handle later run.2.1 r).run m).1.2.status = 200 ∧
        ((s.handle later run.2.1 r).run m).1.2.body = Text.Utf8.bytes report.write ∧
        report.Reports run.2.1) ∧
    ∀ h ∈ run.1, (h.isCounted → ∃ m ran outcome, h.Accounts s m ran outcome) ∧
      (h.isCounted = false → h.Leaves) := by
  intro run
  obtain ⟨hb, htotal, hall⟩ := s.handleAll_balanced .empty n Metrics.balanced_empty steps
  refine ⟨?_, ?_, hall⟩
  · rw [htotal]
    exact Nat.zero_add _
  · intro later r m hr hp
    rw [run_handle_stats s _ m later hr hp]
    have htold (v : Value) : (Outgoing.json 200 v).shared.status = 200 ∧
        (Outgoing.json 200 v).shared.body = Text.Utf8.bytes v.write := ⟨rfl, rfl⟩
    exact ⟨_, (htold _).1, (htold _).2, hb.reports⟩

/-- Of four requests one makes a command run: a message that addresses none, a body that is not told
to be JSON, and a look at the health of the service are not counted. -/
theorem handleAll_accounts_mixed :
    let settings := Settings.default
    let client : Client := .timeouts settings.outgoing
    let post (type body : String) : Incoming := ⟨"POST", "/commands",
      [("content-type", Text.Utf8.bytes type)], Text.Utf8.bytes
        ("\x7b\"room_id\":\"!r:h\",\"user_id\":\"@u:h\",\"body\":\"" ++ body ++ "\"\x7d")⟩
    let steps : List (Occasion × Incoming) := [
      (⟨7, "00112233445566778899aabbccddeeff"⟩, post "application/json" "!google image cats"),
      (⟨0, ""⟩, post "application/json" "google image cats"),
      (⟨0, ""⟩, post "text/plain" "!google image cats"), (⟨0, ""⟩, ⟨"GET", "/health", [], []⟩)]
    let n : Network := ⟨[.answered 404 [] (.plain []), .lost .timeout], .lost .timeout, []⟩
    ∃ s, ofSettings client settings = .ok s ∧
      let run := s.handleAll .empty n steps
      run.1.map (·.answer.status) = [502, 204, 415, 200] ∧
        run.1.map Handled.isCounted = [true, false, false, false] ∧ run.2.1.total = 1 ∧
        ∀ h ∈ run.1, (h.isCounted → ∃ m ran outcome, h.Accounts s m ran outcome) ∧
          (h.isCounted = false → h.Leaves) := by
  intro settings client post steps n
  let h : Homeserver := ⟨client,
    ⟨"http", some ⟨"", "", .domain "localhost", some 8008⟩, .segments [""], none, none⟩, ""⟩
  let s : Service := ⟨⟨"!", [imageCommand (relay client settings.google h)]⟩, h, true⟩
  have hs : ofSettings client settings = .ok s :=
    ofSettings_of_parse client Settings.parse_defaultHomeserverUrl
  have hrun : (s.handleAll .empty n steps).1.map (·.answer.status) = [502, 204, 415, 200] ∧
      (s.handleAll .empty n steps).1.map Handled.isCounted = [true, false, false, false] ∧
      (s.handleAll .empty n steps).1.countP Handled.isCounted = 1 := by
    decide +kernel
  obtain ⟨hstatus, hcounted, hone⟩ := hrun
  obtain ⟨htotal, -, hall⟩ := s.handleAll_accounts n steps
  exact ⟨s, hs, hstatus, hcounted, htotal.trans hone, hall⟩

end Service

end ImageBot
