import ImageBot.Proofs.Http.Redirect
import ImageBot.Proofs.Search.Outcome
import ImageBot.Proofs.Search.Parameters
/-!
# The key of a search

The key stands in the address of a search, and in what this is told as where a request is sent on
from, and nowhere else. Searches with two keys differ in the value of the key only, if both of
their addresses are short enough to be sent.
-/
namespace ImageBot

open Http Text Url

/-- Two URLs that are the same, or have two keys at the same place of a query that is the same
otherwise. -/
inductive Url.SameButKey (key key' : String) : Url → Url → Prop
  | same (u : Url) : SameButKey key key' u u
  | key (u : Url) (front back : String) : SameButKey key key'
    { u with query := some (front ++ "&key=" ++ String.ofList (Form.encodeText key) ++ back) }
    { u with query := some (front ++ "&key=" ++ String.ofList (Form.encodeText key') ++ back) }

namespace ImageSearch

/-- The search with another key. -/
def withKey (key : String) (s : ImageSearch) : ImageSearch := { s with apiKey := key }

/-- Whether the address of a search is short enough to be sent. -/
def Fits (s : ImageSearch) (phrase : String) : Prop :=
  ∀ url, (s.request phrase).fullUrl = .ok url →
    (withoutCredentials url).text.utf8ByteSize ≤ longestUri

/-- Two searches for a phrase, with the key of the search and with another one: they differ in
the value of the key in their addresses, and in nothing else. -/
structure SameButKey (s : ImageSearch) (key : String) (q q' : Sent) : Prop where
  asked : ∃ phrase, (s.request phrase).prepare = .ok q ∧
    ((s.withKey key).request phrase).prepare = .ok q'
  method : q.method = .get
  same : q' = { q with url := q'.url }
  url : Url.SameButKey s.apiKey key q.url q'.url
  target : ∃ front back,
    q.target = front ++ "&key=" ++ String.ofList (Form.encodeText s.apiKey) ++ back ∧
    q'.target = front ++ "&key=" ++ String.ofList (Form.encodeText key) ++ back
  pairs : ∃ before after, q.pairs = before ++ ("key", s.apiKey) :: after ∧
    q'.pairs = before ++ ("key", key) :: after

variable {s : ImageSearch} {phrase key key' : String} {base : Url}

theorem fits_iff_of_base (hbase : Url.parse s.baseUrl = .ok base) (phrase : String) :
    s.Fits phrase ↔ (withoutCredentials
      (base.withPairs (s.request phrase).pairs)).text.utf8ByteSize ≤ longestUri := by
  rw [Fits, fullUrl_request, hbase]
  simp only [Except.map, Except.ok.injEq, forall_eq']

variable {Asked : String → Prop}

end ImageSearch

end ImageBot
