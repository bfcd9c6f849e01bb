import ImageBot.Proofs.Http.Comparison
/-!
# Requests that are sent on, compared

Two requests may differ in the details of a URL: in those of the one they go to, and of the one
they say they come from. What they are sent on as by the same reply differs in nothing else, and
is made on both sides or on neither, as long as the details do not decide whether a URL is a URI.
-/
namespace ImageBot.Http

open Text

/-- What the first location in headers refers to, if it is text that refers to something. -/
def reference? (scheme : String) (headers : List (String × List UInt8)) :
    Option Url.Reference := do
  let value ← (headerValues "location" headers).head?
  (Url.Reference.read scheme (← Utf8.text? value)).toOption

/-- A reply refers to something, and might send a request on to it. -/
inductive Reply.Refers (scheme : String) : Reply → Url.Reference → Prop
  | intro {status : Nat} {headers : List (String × List UInt8)} {payload : Payload}
    {how : Onward} {reference : Url.Reference} (hhow : Onward.ofStatus? status = some how)
    (hreference : reference? scheme headers = some reference) :
    Refers scheme (.answered status headers payload) reference

theorem sameServer_trans {u v w : Url} (huv : sameServer u v) (hvw : sameServer v w) :
    sameServer u w := by
  simp only [sameServer, Bool.and_eq_true, beq_iff_eq] at huv hvw ⊢
  exact ⟨huv.1.trans hvw.1, huv.2.trans hvw.2⟩

namespace Sent

/-- A request is sent on to where the location is seen from its URL, if this is a URI. -/
theorem elsewhere?_eq (q : Sent) (headers : List (String × List UInt8)) : q.elsewhere? headers =
    (reference? q.url.scheme headers).bind fun reference =>
      if isAnyUri (reference.resolve q.url) then some (reference.resolve q.url) else none := by
  rw [elsewhere?, reference?]
  cases (headerValues "location" headers).head? with
  | none => rfl
  | some value =>
    simp only [Option.bind_eq_bind, Option.bind_some]
    cases Utf8.text? value with
    | none => rfl
    | some text =>
      simp only [Option.bind_some, Url.join]
      cases Url.Reference.read q.url.scheme text <;> rfl

end Sent

section

variable {H : String × String → String × String → Prop} {l l' : List (String × String)}
  (hname : ∀ h h', H h h' → h.1 = h'.1)

include hname

theorem forall₂_dropHeaders (names : List String) (h : List.Forall₂ H l l') :
    List.Forall₂ H (dropHeaders names l) (dropHeaders names l') := by
  refine List.rel_filter ?_ h
  intro a b hab
  simp only [hname a b hab]

theorem forall₂_putHeader {name value value' : String} (hput : H (name, value) (name, value'))
    (h : List.Forall₂ H l l') :
    List.Forall₂ H (putHeader name value l) (putHeader name value' l') := by
  induction h with
  | nil => exact .cons hput .nil
  | @cons a b l l' hab hrest ih =>
    obtain ⟨other, v⟩ := a
    obtain ⟨other', v'⟩ := b
    obtain rfl : other = other' := hname _ _ hab
    simp only [putHeader]
    split
    · exact .cons hput hrest
    · exact .cons hab ih

end

/-- Headers that are related one by one stay so when their requests are made again alike. -/
theorem Sent.forall₂_headers_madeAgain {H : String × String → String × String → Prop}
    (hname : ∀ h h', H h h' → h.1 = h'.1) {q q' : Sent} {u u' : Url}
    (hheaders : List.Forall₂ H q.headers q'.headers)
    (hserver : sameServer q.url u = sameServer q'.url u')
    (htold : Option.Rel (fun v v' => H ("referer", v) ("referer", v')) (referer? q.url u)
      (referer? q'.url u')) (how : Onward) :
    List.Forall₂ H (q.madeAgain how u).headers (q'.madeAgain how u').headers := by
  have hkept : List.Forall₂ H (how.kept q.headers) (how.kept q'.headers) := by
    cases how with
    | asking => exact forall₂_dropHeaders hname _ hheaders
    | unchanged => exact hheaders
  have hall : List.Forall₂ H (withReferer q.url u (how.kept q.headers))
      (withReferer q'.url u' (how.kept q'.headers)) := by
    rw [withReferer, withReferer]
    revert htold
    generalize referer? q.url u = v, referer? q'.url u' = v'
    rintro (hv | _)
    · exact forall₂_putHeader hname hv hkept
    · exact hkept
  simp only [madeAgain, hserver]
  split
  · exact hall
  · exact forall₂_dropHeaders hname _ hall

/-! ### Requests that differ in details -/

/-- Two headers that are the same, or tell two related URLs that requests come from. -/
inductive SameHeader (E : Url → Url → Prop) : String × String → String × String → Prop
  | same (h : String × String) : SameHeader E h h
  | referer {u u' : Url} (h : E u u') : SameHeader E ("referer", u.text) ("referer", u'.text)

/-- Two requests that differ in their URLs, and in what they tell of where they come from. -/
structure SameBut (D E : Url → Url → Prop) (q q' : Sent) : Prop where
  method : q.method = q'.method
  url : D q.url q'.url
  headers : List.Forall₂ (SameHeader E) q.headers q'.headers
  body : q.body = q'.body

/-- URLs on the same server that name related URLs with every reference. What is told of them to
another server is related by `E`. -/
structure IsDetail (D E : Url → Url → Prop) : Prop where
  refl : ∀ u, D u u
  scheme : ∀ {u u'}, D u u' → u.scheme = u'.scheme
  authority : ∀ {u u'}, D u u' → u.authority = u'.authority
  resolve : ∀ {u u'} (reference : Url.Reference), D u u' →
    D (reference.resolve u) (reference.resolve u')
  bare : ∀ {u u'}, D u u' →
    E { u.anonymous with fragment := none } { u'.anonymous with fragment := none }

section

variable {D D' E E' : Url → Url → Prop} {u u' v v' : Url} {q q' : Sent}

theorem SameHeader.name_eq {h h' : String × String} (hh : SameHeader E h h') : h.1 = h'.1 := by
  cases hh <;> rfl

theorem SameHeader.imp (hE : ∀ u u', E u u' → E' u u') {h h' : String × String}
    (hh : SameHeader E h h') : SameHeader E' h h' := by
  cases hh with
  | same h => exact .same h
  | referer hu => exact .referer (hE _ _ hu)

/-- Requests that differ in nothing but their URLs. -/
theorem SameBut.of_eq (hu : D q.url q'.url) (h : q' = { q with url := q'.url }) :
    SameBut D E q q' := by
  refine ⟨?_, hu, ?_, ?_⟩
  · rw [h]
  · rw [h]
    exact List.forall₂_same.mpr fun h _ => .same h
  · rw [h]

theorem SameBut.imp (hD : ∀ u u', D u u' → D' u u') (hE : ∀ u u', E u u' → E' u u')
    (h : SameBut D E q q') : SameBut D' E' q q' :=
  ⟨h.method, hD _ _ h.url, h.headers.imp fun _ _ => SameHeader.imp hE, h.body⟩

theorem IsDetail.sameServer (hD : IsDetail D E) (hu : D u u') (hv : D v v') :
    sameServer u v = sameServer u' v' := by
  simp only [Http.sameServer, Url.hostText?, Url.portInUse, hD.authority hu, hD.authority hv,
    hD.scheme hu, hD.scheme hv]

theorem IsDetail.referer? (hD : IsDetail D E) (hu : D u u') (hv : D v v') :
    Option.Rel (fun a b => SameHeader E ("referer", a) ("referer", b)) (referer? u v)
      (referer? u' v') := by
  rw [Http.referer?, Http.referer?, hD.scheme hu, hD.scheme hv]
  split
  · exact .none
  · exact .some (.referer (hD.bare hu))

/-- What is sent on alike differs in details again. -/
theorem IsDetail.preserved (hD : IsDetail D E) {Ok : Reply → Prop}
    (huri : ∀ {reply u u' reference}, Ok reply → D u u' → reply.Refers u.scheme reference →
      isAnyUri (reference.resolve u) = isAnyUri (reference.resolve u')) :
    Preserved Ok (SameBut D E) := by
  have hagain {q q' : Sent} (h : SameBut D E q q') (how : Onward) (reference : Url.Reference) :
      SameBut D E (q.madeAgain how (reference.resolve q.url))
        (q'.madeAgain how (reference.resolve q'.url)) := by
    have hnext := hD.resolve reference h.url
    refine ⟨?_, hnext, ?_, ?_⟩
    · cases how with
      | asking => rfl
      | unchanged => exact h.method
    · exact Sent.forall₂_headers_madeAgain (fun _ _ => SameHeader.name_eq) h.headers
        (hD.sameServer h.url hnext) (hD.referer? h.url hnext) how
    · cases how with
      | asking => rfl
      | unchanged => exact h.body
  refine ⟨?_, ?_⟩
  · intro q q' h
    rw [Sent.isWeb, Sent.isWeb, hD.scheme h.url]
  · intro q q' reply h hok
    cases reply with
    | lost | unreachable => exact .none
    | answered status headers payload =>
      simp only [Sent.onward?, Sent.elsewhere?_eq, ← hD.scheme h.url]
      cases hhow : Onward.ofStatus? status with
      | none => exact .none
      | some how =>
        cases href : reference? q.url.scheme headers with
        | none => exact .none
        | some reference =>
          simp only [Option.bind_eq_bind, Option.bind_some, ← huri hok h.url (.intro hhow href)]
          split
          · exact .some (hagain h how reference)
          · exact .none

end

end ImageBot.Http
