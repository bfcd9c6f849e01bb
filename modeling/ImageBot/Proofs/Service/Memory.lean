import ImageBot.Proofs.Homeserver.Transaction
import ImageBot.Proofs.Service.Comparison
/-!
# What the service remembers

The metrics are all that the service keeps from one request to the next, and they are looked at
for reports only. Two services that were made from the same settings and have been through
different requests handle the next one alike, and so all later ones: what was asked before, and
what came of it, is seen in reports and nowhere else.
-/
namespace ImageBot

open Http

/-- The same request, in any two transactions, however long it took. -/
structure SameRequest (step step' : Occasion × Incoming) : Prop where
  request : step.2 = step'.2
  transaction : IsTransaction step.1.transaction
  transaction' : IsTransaction step'.1.transaction

/-- How one request was handled by two services: the answers are the same, unless they are
reports, and so are the requests to others, but for the transactions. -/
structure Handled.Agrees (h h' : Handled) : Prop where
  request : h.request = h'.request
  answer : ¬h.request.IsReport → h.answer = h'.answer
  sent : ∃ a b, h.networkAfter.sent = h.network.sent ++ a ∧
    h'.networkAfter.sent = h'.network.sent ++ b ∧
    List.Forall₂ (InTransactions h.occasion.transaction h'.occasion.transaction) a b

namespace Service

variable {client : Client} {settings : Settings} {s : Service}

/-- Every stage of a command is like itself. -/
theorem stagesAlike_self (client : Client) (g : GoogleSettings) (h : Homeserver) :
    StagesAlike (fun _ => True) Eq Eq (fun _ => True) (relay client g h) (relay client g h)
      h h := by
  have hself (r : Request) : Matches Eq r.prepare r.prepare := .of_eq (fun _ => rfl) _
  refine ⟨?_, ?_, ?_⟩
  · intro phrase _
    show Alike _ Eq _ ((ImageSearch.ofSettings client g).search phrase)
      ((ImageSearch.ofSettings client g).search phrase)
    rw [ImageSearch.search_eq_stage]
    exact Alike.stage (preserved_eq _) client (.ok (hself _))
  · exact Homeserver.uploadLink_alike (preserved_eq _) rfl rfl (fun _ _ _ => rfl)
      fun _ _ _ => hself _
  · exact Homeserver.sendMessage_alike (preserved_eq _) rfl rfl fun _ _ _ _ _ => hself _

section

variable {g : GoogleSettings} {h : Homeserver} {marker text : String} {delivers : Bool}
  {o o' : Occasion} (hparse : Url.parse text = .ok h.url)
  (ht : IsTransaction o.transaction) (ht' : IsTransaction o'.transaction)

include hparse ht ht'

/-- A reply is delivered alike in any two transactions. -/
theorem deliver_forgets (r : Relay) (room command : String) (content : Message) :
    Alike (fun _ => True) Eq (List.Forall₂ (InTransactions o.transaction o'.transaction))
      ((ofRelay marker r h delivers).deliver o room command content)
      ((ofRelay marker r h delivers).deliver o' room command content) := by
  rw [deliver, deliver, ofRelay]
  by_cases hd : delivers
  · simp only [hd, Bool.not_true, Bool.false_eq_true, if_false]
    apply (Homeserver.sendMessage_transaction hparse ht ht' room content).bind_silent
    rintro sent _ rfl
    cases sent with
    | error e => exact .pure rfl ⟨rfl, rfl⟩
    | ok event => exact .pure rfl ⟨rfl, rfl⟩
  · simp only [hd, Bool.not_false, if_true]
    exact .pure rfl .nil

/-- A chat message is answered alike, whatever the metrics are. -/
theorem answer_forgets (metrics metrics' : Metrics) (m : ChatMessage) :
    Alike (fun _ => True) (fun a b => a.2 = b.2)
      (List.Forall₂ (InTransactions o.transaction o'.transaction))
      ((ofRelay marker (relay client g h) h delivers).answer o metrics m)
      ((ofRelay marker (relay client g h) h delivers).answer o' metrics' m) := by
  rw [answer, answer]
  refine ((stagesAlike_self client g h).dispatch marker ⟨m.roomId, m.userId⟩
    fun _ _ _ _ => trivial).bind
    (S := List.Forall₂ (InTransactions o.transaction o'.transaction)) ?_ ?_
  · rintro ran _ rfl
    cases ran with
    | none => exact .pure rfl .nil
    | some ran =>
      apply (deliver_forgets hparse ht ht' _ m.roomId ran.command (reply ran.result)).bind_silent
      rintro answer _ rfl
      exact .pure rfl ⟨rfl, rfl⟩
  · intro a b a' b' hab hab'
    exact List.rel_append (hab.forall₂.imp fun q _ hq => hq ▸ .first (.same q)) hab'

/-- A request is handled alike, whatever the metrics are, unless it is one for a report. -/
theorem handle_forgets (metrics metrics' : Metrics) (i : Incoming) :
    Alike (fun _ => True) (fun a b => ¬i.IsReport → a.2 = b.2)
      (List.Forall₂ (InTransactions o.transaction o'.transaction))
      ((ofRelay marker (relay client g h) h delivers).handle o metrics i)
      ((ofRelay marker (relay client g h) h delivers).handle o' metrics' i) := by
  intro n k hlike
  by_cases hi : i.IsCommand
  · rw [run_handle_command _ _ _ hi, run_handle_command _ _ _ hi]
    cases chatMessage i with
    | error refused => exact ⟨fun _ => rfl, hlike, [], [], by simp, by simp, .nil⟩
    | ok m =>
      obtain ⟨hanswer, hlike', hsent⟩ :=
        answer_forgets hparse ht ht' metrics metrics' m n k hlike
      exact ⟨fun _ => congrArg (fun a => a.outgoing.shared) hanswer, hlike', hsent⟩
  · obtain ⟨told, hrun, htold⟩ := exists_told hi
    rw [hrun, hrun]
    refine ⟨fun hreport => ?_, hlike, [], [], by simp, by simp, .nil⟩
    rcases htold with hsame | ⟨hi, -⟩
    · exact hsame metrics metrics'
    · exact absurd hi hreport

end

/-- Requests are handled alike one after the other, whatever the metrics were at first. -/
theorem handleAll_agrees {g : GoogleSettings} {h : Homeserver} {marker text : String}
    {delivers : Bool} (hparse : Url.parse text = .ok h.url)
    {later later' : List (Occasion × Incoming)} (hlater : List.Forall₂ SameRequest later later')
    (metrics metrics' : Metrics) {n k : Network} (hlike : n.Pair (fun _ => True) k) :
    List.Forall₂ Handled.Agrees
      ((ofRelay marker (relay client g h) h delivers).handleAll metrics n later).1
      ((ofRelay marker (relay client g h) h delivers).handleAll metrics' k later').1 := by
  -- only the replies to come go on from step to step; the metrics may be any on both sides
  induction hlater generalizing metrics metrics' n k with
  | nil => exact .nil
  | @cons step step' later later' hstep hlater ih =>
    obtain ⟨o, i⟩ := step
    obtain ⟨o', i'⟩ := step'
    obtain ⟨rfl : i = i', ht, ht'⟩ := hstep
    obtain ⟨hanswer, hlike', hsent⟩ :=
      handle_forgets hparse ht ht' metrics metrics' i n k hlike
    exact .cons ⟨rfl, hanswer, hsent⟩ (ih _ _ hlike')

/-- **Nothing but reports tells what was before.** When a service has been through one course of
requests and replies, and through another one, and the replies to come are the same, then the
requests that follow are answered alike in both cases, unless they are for reports, and make the
service send the same requests but for the identifiers of transactions. -/
theorem handleAll_forgets (hs : ofSettings client settings = .ok s)
    (past past' : List (Occasion × Incoming)) (n n' : Network)
    {later later' : List (Occasion × Incoming)} (hlater : List.Forall₂ SameRequest later later') :
    let reached := (s.handleAll .empty n past).2
    let reached' := (s.handleAll .empty n' past').2
    reached.2.RepliesLike reached'.2 →
      List.Forall₂ Handled.Agrees (s.handleAll reached.1 reached.2 later).1
        (s.handleAll reached'.1 reached'.2 later').1 := by
  intro reached reached' hlike
  obtain ⟨h, hhome, rfl⟩ := ofSettings_eq_ok_iff.mp hs
  exact handleAll_agrees (Homeserver.parse_of_ofSettings hhome) hlater reached.1 reached'.1
    ⟨hlike, reached.2.tells_trivial⟩

/-- A service that has run a command before, and one that has not, run the next one alike. -/
theorem handleAll_forgets_command :
    let settings := Settings.default
    let client : Client := .timeouts settings.outgoing
    let command : Incoming := ⟨"POST", "/commands",
      [("content-type", Text.Utf8.bytes "application/json")], Text.Utf8.bytes
        "\x7b\"room_id\":\"!r:h\",\"user_id\":\"@u:h\",\"body\":\"!google image cats\"\x7d"⟩
    let past : List (Occasion × Incoming) := [(⟨3, "ffeeddccbbaa99887766554433221100"⟩, command)]
    let later : List (Occasion × Incoming) := [(⟨7, "00112233445566778899aabbccddeeff"⟩, command)]
    let later' : List (Occasion × Incoming) := [(⟨9, "0123456789abcdef0123456789abcdef"⟩, command)]
    let n : Network := ⟨[.answered 404 [] (.plain []), .lost .timeout, .lost (.broken "closed"),
      .answered 307 [("location", Text.Utf8.bytes "?again")] (.plain [])], .lost .timeout, []⟩
    let n' : Network := ⟨[.lost (.broken "closed"),
      .answered 307 [("location", Text.Utf8.bytes "?again")] (.plain [])], .lost .timeout, []⟩
    ∃ s, ofSettings client settings = .ok s ∧ List.Forall₂ SameRequest later later' ∧
      let reached := (s.handleAll .empty n past).2
      let reached' := (s.handleAll .empty n' []).2
      reached.1 ≠ reached'.1 ∧ reached.2.RepliesLike reached'.2 ∧
        List.Forall₂ Handled.Agrees (s.handleAll reached.1 reached.2 later).1
          (s.handleAll reached'.1 reached'.2 later').1 := by
  intro settings client command past later later' n n'
  let h : Homeserver := ⟨client,
    ⟨"http", some ⟨"", "", .domain "localhost", some 8008⟩, .segments [""], none, none⟩, ""⟩
  let s : Service := ofRelay "!" (relay client settings.google h) h true
  have hs : ofSettings client settings = .ok s :=
    ofSettings_of_parse client Settings.parse_defaultHomeserverUrl
  have hlater : List.Forall₂ SameRequest later later' :=
    .cons ⟨rfl, by decide, by decide⟩ .nil
  let reached := (s.handleAll .empty n past).2
  obtain ⟨hmetrics, hreplies, hafterwards⟩ : reached.1 ≠ .empty ∧ reached.2.replies = n'.replies ∧
      reached.2.afterwards = n'.afterwards := by decide +kernel
  have hlike : reached.2.RepliesLike n' := ⟨hreplies, hafterwards⟩
  exact ⟨s, hs, hlater, hmetrics, hlike, handleAll_forgets hs past [] n n' hlater hlike⟩

end Service

end ImageBot
