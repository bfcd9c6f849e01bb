import ImageBot.Proofs.Homeserver.Requests
import ImageBot.Proofs.Homeserver.Rooms
import ImageBot.Proofs.Http.Redirect
import ImageBot.Proofs.Url.Locality
import Mathlib.Data.String.Basic
/-!
# Transactions of messages

The identifier of a transaction is the last name in the path of a delivery. Two identifiers are
told from each other by nothing but themselves: a delivery in one transaction fails for the same
reason as in the other one, or the requests for both differ in that name and nowhere else, as long
as they are sent on.
-/
namespace ImageBot

open Http Text Url

/-- The path of a delivery: what the homeserver and the room add, and the names behind that. -/
def deliveryPath (front : List String) (t : String) : Path :=
  .segments (front ++ ["send", "m.room.message", t])

/-- Two URLs that are the same, or those of deliveries in two transactions and otherwise the
same. -/
inductive Url.SameButName (t t' : String) : Url → Url → Prop
  | same (u : Url) : SameButName t t' u u
  | delivery {u : Url} (server : u.authority.isSome) (front : List String) : SameButName t t'
    { u with path := deliveryPath front t } { u with path := deliveryPath front t' }

/-- Two requests that are the same, or deliveries that are in two transactions and otherwise the
same. -/
inductive SameButTransaction (t t' : String) : Sent → Sent → Prop
  | same (q : Sent) : SameButTransaction t t' q q
  | delivery {q : Sent} {u : Url} (method : q.method = .put) (url : q.url.SameButName t t' u) :
    SameButTransaction t t' q { q with url := u }

/-- Two requests that are the same but for transactions, or what such requests are sent on as. -/
def InTransactions (t t' : String) : Sent → Sent → Prop :=
  SentOn (SameButTransaction t t') (SameBut (Url.SameButName t t') (Url.SameButName t t'))

variable {t t' : String}

namespace IsTransaction

theorem forall_mem (ht : IsTransaction t) {p : Char → Bool}
    (hp : "0123456789abcdef".toList.all p = true) {c : Char} (hc : c ∈ t.toList) : p c :=
  List.all_eq_true.mp hp c (ht.digits c hc)

theorem isLastName (ht : IsTransaction t) : IsLastName t.toList := by
  have hname := Homeserver.isName_transaction ht
  have hsegment := isSegment_encode_special hname.single hname.double
  rw [hname.encode_eq] at hsegment
  refine ⟨hsegment, ?_, ?_⟩
  · intro hc
    exact absurd (ht.forall_mem (p := (· != ':')) (by decide) hc) (by decide)
  · rw [String.length_toList, ht.length]
    decide

theorem utf8ByteSize (ht : IsTransaction t) : t.utf8ByteSize = 32 := by
  have hsize (s : List Char) (hs : ∀ c ∈ s, c.utf8Size = 1) : String.utf8Len s = s.length := by
    induction s with
    | nil => rfl
    | cons c s ih =>
      obtain ⟨hc, hrest⟩ := List.forall_mem_cons.mp hs
      rw [String.utf8Len_cons, ih hrest, hc, List.length_cons]
  rw [← String.utf8Len_toList, hsize, String.length_toList, ht.length]
  intro c hc
  have hone := ht.forall_mem (p := (·.utf8Size == 1)) (by decide) hc
  exact beq_iff_eq.mp hone

end IsTransaction

/-! ### The path of a delivery -/

namespace Url

/-- A name is added to any path as it is. -/
theorem pushSegment_name {s : String} (h : IsName s)
    (hplain : encode segmentSet s.toList = s.toList) (special : Bool) (path : List String) :
    pushSegment special path s = kept path ++ [s] := by
  cases special with
  | true => rw [pushSegment_eq h.toIsNameable, h.segment]
  | false =>
    have hsingle := h.single
    have hdouble := h.double
    rw [h.encode_eq] at hsingle hdouble
    simp [pushSegment, h.dot, h.dots, filter_eq_closed, h.closed_eq, hplain, hsingle, hdouble, kept]

theorem looksLikeAuthority_cons (a b : String) (rest : List String) :
    (Path.segments (a :: b :: rest)).looksLikeAuthority = decide (a = "") := by
  by_cases ha : a = ""
  · subst ha
    rfl
  · simp [Path.looksLikeAuthority, ha]

/-- The identifier stands once in the text of a URL with the path of a delivery. -/
theorem exists_text_delivery (u : Url) (front : List String) :
    ∃ start, ∀ t, ({ u with path := deliveryPath front t } : Url).text =
      u.scheme ++ ":" ++ start ++ "/send/m.room.message/" ++ t ++ String.ofList u.tail := by
  let start := u.authority.elim
    (if (Path.segments (front ++ ["send", "m.room.message"])).looksLikeAuthority then "/." else "")
    fun a => "//" ++ a.text
  refine ⟨start ++ (Path.segments front).text, fun t => String.toList_injective ?_⟩
  have hlooks : (deliveryPath front t).looksLikeAuthority =
      (Path.segments (front ++ ["send", "m.room.message"])).looksLikeAuthority := by
    cases front with
    | nil => rfl
    | cons a front =>
      cases front <;>
        exact (looksLikeAuthority_cons _ _ _).trans (looksLikeAuthority_cons _ _ _).symm
  have hpath : (deliveryPath front t).text.toList = (Path.segments front).text.toList ++
      ("/send/m.room.message/".toList ++ t.toList) := by
    rw [deliveryPath, toList_text_segments, toList_text_segments, List.map_append,
      List.flatMap_append]
    simp
  rw [Url.text, tail]
  simp only [hlooks, String.toList_append, hpath, start]
  cases u.authority <;> cases u.query <;> cases u.fragment <;> simp

/-- Only the length of the identifier is part of whether the URL is a URI. -/
theorem isUri_delivery (u : Url) (front : List String) (ht : IsTransaction t)
    (ht' : IsTransaction t') : isUri { u with path := deliveryPath front t } =
      isUri { u with path := deliveryPath front t' } := by
  obtain ⟨start, htext⟩ := exists_text_delivery u front
  have hsize {t : String} (ht : IsTransaction t) :
      ({ u with path := deliveryPath front t } : Url).text.utf8ByteSize =
        (u.scheme ++ ":" ++ start ++ "/send/m.room.message/").utf8ByteSize + 32 +
          (String.ofList u.tail).utf8ByteSize := by
    rw [← ht.utf8ByteSize, ← String.utf8ByteSize_append, ← String.utf8ByteSize_append]
    exact congrArg String.utf8ByteSize (htext t)
  rw [isUri, isUri, hsize ht, hsize ht']
  rfl

/-- The addresses of deliveries are on the same server, and stay so if they are seen from each
other. -/
theorem isDetail_sameButName (t t' : String) : IsDetail (SameButName t t') (SameButName t t') := by
  refine ⟨.same, ?_, ?_, ?_, ?_⟩
  · rintro u u' (_ | _) <;> rfl
  · rintro u u' (_ | _) <;> rfl
  · intro u u' reference h
    cases h with
    | same => exact .same _
    | @delivery u server front =>
      -- the identifier is the last name of the path, which one that is not from the root replaces
      have hfolder (t : String) : Reference.folder (deliveryPath front t) =
          front ++ ["send", "m.room.message"] := by
        rw [deliveryPath, Reference.folder, List.append_cons, List.append_cons,
          List.dropLast_concat]
        simp
      cases reference with
      | whole | fromRoot => exact .same _
      | fromHere =>
        simp only [Reference.resolve, hfolder]
        exact .same _
      | fromQuery query fragment =>
        exact .delivery (u := { u with query, fragment }) server front
      | fromFragment fragment => exact .delivery (u := { u with fragment }) server front
  · intro u u' h
    cases h with
    | same => exact .same _
    | @delivery u server front =>
      exact .delivery (u := { u.anonymous with fragment := none }) (by simpa [anonymous]) front

theorem SameButName.isAnyUri_eq {u u' : Url} (h : u.SameButName t t' u') (ht : IsTransaction t)
    (ht' : IsTransaction t') : isAnyUri u = isAnyUri u' := by
  cases h with
  | same => rfl
  | @delivery u server front =>
    rw [isAnyUri, isAnyUri, isUri_delivery u front ht ht', if_pos server, if_pos server]
    rfl

end Url

/-- Requests in two transactions are sent on alike. -/
theorem preserved_inTransactions (ht : IsTransaction t) (ht' : IsTransaction t')
    (Ok : Reply → Prop) : Preserved Ok (InTransactions t t') := by
  refine Preserved.sentOn ((isDetail_sameButName t t').preserved ?_) ?_
  · intro reply u u' reference _ hu _
    exact ((isDetail_sameButName t t').resolve reference hu).isAnyUri_eq ht ht'
  · rintro q q' (_ | ⟨-, url⟩)
    · exact .of_eq (.same _) rfl
    · exact .of_eq url rfl

/-! ### The request for a delivery -/

/-- Requests that cannot be sent for the schemes of their URLs fail for the same reason, if they
are alike in what is looked at before. -/
theorem Http.Request.prepare_matches_of_scheme {Q : Sent → Sent → Prop} {r r' : Request}
    (hurl : Matches (fun u u' => u.hasHost = u'.hasHost ∧ u.scheme = u'.scheme ∧
      ¬(u.scheme = "http" ∨ u.scheme = "https")) r.fullUrl r'.fullUrl)
    (hheaders : r.headers.all (isHeaderValue ·.2) = r'.headers.all (isHeaderValue ·.2)) :
    Matches Q r.prepare r'.prepare := by
  rw [prepare, prepare]
  revert hurl
  generalize r.fullUrl = u, r'.fullUrl = u'
  rintro (f | ⟨hhost, hscheme, hweb⟩)
  · exact .error _
  · have hneither := not_or.mp hweb
    rw [hscheme] at hneither
    simp only [build, hhost, hscheme, hheaders, hneither, ne_eq, not_false_eq_true, and_self,
      if_true]
    split
    · exact .error _
    · split
      · exact .error _
      · exact .error _

namespace Homeserver

variable {h : Homeserver} {text : String} {front : List String}

/-- The endpoint for a message is below what the homeserver and the room make of the path, if the
homeserver has endpoints. -/
theorem exists_endpoint_delivery (h : Homeserver) (room : String) :
    (∀ t, h.endpoint (messagePath room t) = .error .noHierarchy) ∨
    ∃ front, ∀ t, IsTransaction t →
      h.endpoint (messagePath room t) = .ok { h.url with path := deliveryPath front t } := by
  cases hpath : h.url.path with
  | plain text =>
    left
    intro t
    exact endpoint_eq_error_iff.mpr ⟨rfl, text, hpath⟩
  | segments list =>
    right
    let special := (Kind.of h.url.scheme).isSpecial
    let own := ["_matrix", "client", "r0", "rooms", room].foldl (pushSegment special)
      (dropEmptyEnd list)
    refine ⟨kept own, fun t ht => ?_⟩
    have hname := isName_transaction ht
    have hplain : encode segmentSet t.toList = t.toList := by
      apply encode_eq_self
      intro c hc
      simpa using ht.forall_mem (p := fun c => c.toNat < 0x80 && !segmentSet c.toNat) (by decide) hc
    have hfold : (messagePath room t).foldl (pushSegment special) (dropEmptyEnd list) =
        kept own ++ ["send", "m.room.message", t] := by
      have hsend : IsName "send" := by decide
      have htype : IsName "m.room.message" := by decide
      show pushSegment special (pushSegment special (pushSegment special own "send")
        "m.room.message") t = _
      rw [pushSegment_name hname hplain, pushSegment_name htype (by decide),
        pushSegment_name hsend (by decide), kept_append_name hsend, kept_append_name htype]
      simp
    rw [endpoint, below, hpath]
    exact congrArg (fun path => Except.ok { h.url with path := .segments path }) hfold

variable {room : String} (hparse : Url.parse text = .ok h.url) (ht : IsTransaction t)
  (ht' : IsTransaction t')

include hparse ht ht'

/-- Deliveries to a web server are sent alike. -/
theorem prepare_delivery_web (hweb : h.url.scheme = "http" ∨ h.url.scheme = "https")
    (hbelow : h.endpoint (messagePath room t) = .ok { h.url with path := deliveryPath front t })
    (hbelow' : h.endpoint (messagePath room t') = .ok { h.url with path := deliveryPath front t' })
    (message : Message) : Matches (SameButTransaction t t')
      (h.messageRequest { h.url with path := deliveryPath front t } message).prepare
      (h.messageRequest { h.url with path := deliveryPath front t' } message).prepare := by
  have hhome : h.url.IsWeb := isWeb_of_parse hweb hparse
  obtain ⟨found, hfound⟩ := (hhome.below hbelow).exists_parse_text
  have hread := hfound _ (hhome.below hbelow)
  have hread' := hfound _ (hhome.below hbelow')
  have hmatches : Matches (fun _ _ => True)
      (h.messageRequest { h.url with path := deliveryPath front t } message).prepare
      (h.messageRequest { h.url with path := deliveryPath front t' } message).prepare := by
    apply Request.prepare_matches
    · rw [fullUrl_messageRequest, fullUrl_messageRequest, hread, hread']
      cases found with
      | error f => exact .error f
      | ok a =>
        exact .ok ⟨rfl, rfl, isUri_delivery (withoutCredentials (finish h.url.scheme (some a)
          (.segments []) h.url.tail)) front ht ht'⟩
    · rfl
  apply hmatches.imp
  intro q q' hq hq' _
  obtain ⟨w, hw, rfl⟩ := Request.prepare_eq_ok hq
  obtain ⟨w', hw', rfl⟩ := Request.prepare_eq_ok hq'
  rw [fullUrl_messageRequest] at hw hw'
  rw [hread] at hw
  rw [hread'] at hw'
  cases found with
  | error f => cases hw
  | ok a =>
    cases hw
    cases hw'
    let server : Url := withoutCredentials (finish h.url.scheme (some a) (.segments []) h.url.tail)
    exact .delivery rfl (.delivery (u := server) rfl front)

/-- Deliveries that are not to a web server fail alike. -/
theorem prepare_delivery_other (hweb : ¬(h.url.scheme = "http" ∨ h.url.scheme = "https"))
    (message : Message) : Matches (SameButTransaction t t')
      (h.messageRequest { h.url with path := deliveryPath front t } message).prepare
      (h.messageRequest { h.url with path := deliveryPath front t' } message).prepare := by
  have hscheme := (scheme_of_parse hparse).1
  obtain ⟨start, htext⟩ := exists_text_delivery h.url front
  have hlist (t : String) : ({ h.url with path := deliveryPath front t } : Url).text.toList =
      h.url.scheme.toList ++ ':' :: ((start ++ "/sen").toList ++ 'd' :: '/' ::
        ("m.room.message".toList ++ '/' :: (t.toList ++ h.url.tail))) := by
    rw [htext t]
    simp
  have hserver := parse_matches hscheme (by decide) (by decide) (by decide) ht.isLastName
    ht'.isLastName (endsPath_tail h.url) (hlist t) (hlist t')
  apply Request.prepare_matches_of_scheme
  · rw [fullUrl_messageRequest, fullUrl_messageRequest]
    apply hserver.imp
    intro u u' hu _ hsame
    refine ⟨?_, hsame.scheme, ?_⟩
    · rw [hasHost, hasHost, hsame.authority]
    · have hread := scheme_of_parse_text (v := { h.url with path := deliveryPath front t }) hparse
        rfl hu
      rwa [hread]
  · rfl

/-- **Transactions.** A message is sent alike in two transactions: the outcome is the same, and so
are the requests but for the identifiers. -/
theorem sendMessage_transaction (room : String) (message : Message) :
    Alike (fun _ => True) Eq (List.Forall₂ (InTransactions t t')) (h.sendMessage room message t)
      (h.sendMessage room message t') := by
  rw [sendMessage_eq_stage, sendMessage_eq_stage]
  apply Alike.stage (preserved_inTransactions ht ht' _)
  rw [delivering, delivering]
  rcases exists_endpoint_delivery h room with hnone | ⟨front, hbelow⟩
  · rw [hnone, hnone]
    exact .error _
  · rw [hbelow t ht, hbelow t' ht']
    refine .ok ?_
    have hprepared : Matches (SameButTransaction t t')
        (h.messageRequest { h.url with path := deliveryPath front t } message).prepare
        (h.messageRequest { h.url with path := deliveryPath front t' } message).prepare := by
      by_cases hweb : h.url.scheme = "http" ∨ h.url.scheme = "https"
      · exact prepare_delivery_web hparse ht ht' hweb (hbelow t ht) (hbelow t' ht') message
      · exact prepare_delivery_other hparse ht ht' hweb message
    exact hprepared.imp fun _ _ _ _ => .first

end Homeserver

end ImageBot
