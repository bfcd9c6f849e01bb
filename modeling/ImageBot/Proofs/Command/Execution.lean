import ImageBot.Command.Image
import ImageBot.Proofs.Relay.Stages
/-!
# How the image command ends

The rules below say how a phrase is handled, and how the command ends for its arguments, each with
what has become of the network. There is one rule for each way to end, and the command ends by these
rules and in no other way, whatever the uploader does. Where a rule does not mention the uploader,
it is not called; where one does, it is called once.
-/
namespace ImageBot

open Http Http.Network Text

namespace Relay

/-- How a phrase is handled. What is found has its link uploaded, and the message for it has the
phrase as its text, the address from the uploader, and size and type from the item. -/
inductive Handles (r : Relay) (phrase : String) (n : Network) :
    Except CommandError Message → Network → Prop
  /-- Nothing is found. -/
  | unfound {trail : Option Trail} {e : SearchError} {m : Network}
    (hs : r.search.Searches phrase trail (.error e)) (hc : n.Carries trail.toList m) :
    Handles r phrase n (.error (.search e)) m
  /-- What is found has no link. -/
  | unlinked {trail : Option Trail} {item : Search.Item} {m : Network}
    (hs : r.search.Searches phrase trail (.ok item)) (hc : n.Carries trail.toList m)
    (hl : item.link = "") : Handles r phrase n (.ok (.notice noImageFound)) m
  /-- What is found cannot be uploaded. -/
  | unstored {trail : Option Trail} {item : Search.Item} {m k : Network} {e : UploadError}
    (hs : r.search.Searches phrase trail (.ok item)) (hc : n.Carries trail.toList m)
    (hl : item.link ≠ "") (hu : (r.upload item.link).run m = (.error e, k)) :
    Handles r phrase n (.error (.upload e)) k
  /-- What is found is uploaded. -/
  | posted {trail : Option Trail} {item : Search.Item} {m k : Network} {uri : ContentUri}
    (hs : r.search.Searches phrase trail (.ok item)) (hc : n.Carries trail.toList m)
    (hl : item.link ≠ "") (hu : (r.upload item.link).run m = (.ok uri, k)) :
    Handles r phrase n (.ok (.image ⟨phrase, uri,
      ⟨pixels item.image.height, pixels item.image.width, item.mime⟩⟩)) k

/-- How the image command ends for its arguments. -/
inductive Executes (r : Relay) (args : List String) (n : Network) :
    Except CommandError Message → Network → Prop
  /-- The arguments ask for no image. -/
  | usage (h : args.length < 2 ∨ args.head? ≠ some "image") :
    Executes r args n (.ok (.notice imageUsage)) n
  /-- The words behind the first argument make the phrase. -/
  | image {words : List String} {result : Except CommandError Message} {m : Network}
    (hargs : args = "image" :: words) (hne : words ≠ [])
    (hr : r.Handles (String.intercalate " " words) n result m) : Executes r args n result m

variable {r : Relay} {phrase : String} {n m : Network} {result : Except CommandError Message}

/-- **Phrases are handled by the rules.** -/
theorem run_handle_iff : (r.handle phrase).run n = (result, m) ↔ r.Handles phrase n result m := by
  rw [run_handle]
  constructor
  · rcases hs : (r.search.search phrase).run n with ⟨e | item, k⟩
    · rintro ⟨⟩
      obtain ⟨trail, hfound, hc⟩ := ImageSearch.run_search_iff.mp hs
      exact .unfound hfound hc
    · obtain ⟨trail, hfound, hc⟩ := ImageSearch.run_search_iff.mp hs
      simp only [run_post]
      by_cases hl : item.link = ""
      · rw [if_pos hl]
        rintro ⟨⟩
        exact .unlinked hfound hc hl
      · rw [if_neg hl]
        rcases hu : (r.upload item.link).run k with ⟨e | uri, j⟩
        · rintro ⟨⟩
          exact .unstored hfound hc hl hu
        · rintro ⟨⟩
          exact .posted hfound hc hl hu
  · intro h
    cases h with
    | unfound hs hc => rw [ImageSearch.run_search_iff.mpr ⟨_, hs, hc⟩]
    | unlinked hs hc hl =>
      rw [ImageSearch.run_search_iff.mpr ⟨_, hs, hc⟩]
      simp only [run_post, if_pos hl]
    | unstored hs hc hl hu =>
      rw [ImageSearch.run_search_iff.mpr ⟨_, hs, hc⟩]
      simp only [run_post, if_neg hl, hu]
    | posted hs hc hl hu =>
      rw [ImageSearch.run_search_iff.mpr ⟨_, hs, hc⟩]
      simp only [run_post, if_neg hl, hu]
      rfl

end Relay

namespace Invocation

variable {args : List String}

theorem ofArgs_eq_usage (h : args.length < 2 ∨ args.head? ≠ some "image") :
    ofArgs args = .usage := by
  match args, h with
  | [], _ => rfl
  | [_], _ => rfl
  | kind :: word :: rest, h =>
    have hkind : kind ≠ "image" := by
      rcases h with hlength | hhead
      · rw [List.length_cons, List.length_cons] at hlength
        omega
      · simpa using hhead
    rw [ofArgs, if_neg hkind]

theorem ofArgs_image {words : List String} (hne : words ≠ []) :
    ofArgs ("image" :: words) = .image (String.intercalate " " words) := by
  obtain ⟨word, rest, rfl⟩ := List.exists_cons_of_ne_nil hne
  rw [ofArgs, if_pos rfl]

end Invocation

/-- **The image command ends by the rules**, in any place, for any arguments and any uploader. -/
theorem run_imageCommand_iff (r : Relay) (ctx : Context) (args : List String) (n m : Network)
    (result : Except CommandError Message) :
    ((imageCommand r).run ctx args).run n = (result, m) ↔ r.Executes args n result m := by
  show (runImage r args).run n = (result, m) ↔ _
  constructor
  · by_cases h : args.length < 2 ∨ args.head? ≠ some "image"
    · rw [runImage, Invocation.ofArgs_eq_usage h]
      rintro ⟨⟩
      exact .usage h
    · obtain ⟨hlength, hhead⟩ := not_or.mp h
      rw [Nat.not_lt] at hlength
      rw [ne_eq, Classical.not_not] at hhead
      obtain ⟨words, rfl⟩ := List.head?_eq_some_iff.mp hhead
      have hne : words ≠ [] := by
        rintro rfl
        exact absurd hlength (by decide)
      rw [runImage, Invocation.ofArgs_image hne]
      intro hrun
      exact .image rfl hne (Relay.run_handle_iff.mp hrun)
  · intro h
    cases h with
    | usage h => rw [runImage, Invocation.ofArgs_eq_usage h, run_pure]
    | image hargs hne hr =>
      subst hargs
      rw [runImage, Invocation.ofArgs_image hne]
      exact Relay.run_handle_iff.mpr hr

/-- A search that finds an image of a known size, which is uploaded. -/
theorem run_imageCommand_found :
    let r : Relay := ⟨
      ⟨⟨.seconds 1, .seconds 1, 10⟩, "http://search.example/v1", "key", "cx", "large"⟩,
      fun _ => pure (.ok ⟨"mxc://h/1"⟩)⟩
    let found := "\x7b\"items\":[\x7b\"link\":\"http://images.example/cat.png\"," ++
      "\"mime\":\"image/png\",\"image\":\x7b\"height\":48,\"width\":64\x7d\x7d]\x7d"
    let n : Network := ⟨[.answered 200 [] (.plain (Utf8.bytes found))], .lost .timeout, []⟩
    let result : Except CommandError Message :=
      .ok (.image ⟨"two cats", ⟨"mxc://h/1"⟩, ⟨48, 64, "image/png"⟩⟩)
    let m := (((imageCommand r).run ⟨"!r:h", "@u:h"⟩ ["image", "two", "cats"]).run n).2
    m.sent.length = 1 ∧
      ((imageCommand r).run ⟨"!r:h", "@u:h"⟩ ["image", "two", "cats"]).run n = (result, m) ∧
      r.Executes ["image", "two", "cats"] n result m := by
  intro r found n result m
  have hfound :
      (((imageCommand r).run ⟨"!r:h", "@u:h"⟩ ["image", "two", "cats"]).run n).1.toOption =
        some (.image ⟨"two cats", ⟨"mxc://h/1"⟩, ⟨48, 64, "image/png"⟩⟩) ∧
      (((imageCommand r).run ⟨"!r:h", "@u:h"⟩ ["image", "two", "cats"]).run n).2.sent.length =
        1 := by
    decide +kernel
  have hrun := (Prod.eta _).symm.trans
    (congrArg (·, m) (toOption_eq_some_iff.mp hfound.1 : _ = result))
  exact ⟨hfound.2, hrun, (run_imageCommand_iff r _ _ n m result).mp hrun⟩

/-- An answer that is not coded as it tells fails the search, and the URL of it is not told. -/
example :
    let r : Relay := ⟨
      ⟨⟨.seconds 1, .seconds 1, 10⟩, "http://search.example/v1", "key", "cx", "large"⟩,
      fun _ => pure (.ok ⟨"mxc://h/1"⟩)⟩
    let n : Network := ⟨[.answered 200 [("Content-Encoding", Utf8.bytes "br")]
      (.whole [0x7b, 0x7d] (.fault "Invalid Data"))], .lost .timeout, []⟩
    (((imageCommand r).run ⟨"!r:h", "@u:h"⟩ ["image", "cats"]).run n).1 =
      .error (.search (.transport "error decoding response body: Invalid Data")) := by
  decide +kernel

/-- A search that is answered with the place where the engine is now: two requests are made, and the
status that counts is that of the answer to the second one. -/
theorem run_imageCommand_sent_on :
    let engine : Url := ⟨"http", some ⟨"", "", .domain "search.example", none⟩, .segments ["v1"],
      none, none⟩
    let r : Relay := ⟨
      ⟨⟨.seconds 1, .seconds 1, 10⟩, "http://search.example/v1", "key", "cx", "large"⟩,
      fun _ => pure (.ok ⟨"mxc://h/1"⟩)⟩
    let n : Network := ⟨[.answered 302 [("location", Utf8.bytes "v2")] (.plain []),
      .answered 200 [] (.plain (Utf8.bytes
        "\x7b\"items\":[\x7b\"link\":\"http://images.example/cat.png\"\x7d]\x7d"))],
      .lost .timeout, []⟩
    let query := "q=two+cats&num=1&start=1&imgSize=large&searchType=image&key=key&cx=cx"
    let run := ((imageCommand r).run ⟨"!r:h", "@u:h"⟩ ["image", "two", "cats"]).run n
    run.1 = .ok (.image ⟨"two cats", ⟨"mxc://h/1"⟩, ⟨0, 0, ""⟩⟩) ∧
      run.2.sent = [⟨.get, { engine with query }, defaultHeaders, []⟩,
        ⟨.get, { engine with path := .segments ["v2"] },
          defaultHeaders ++ [("referer", "http://search.example/v1?" ++ query)], []⟩] := by
  intro engine r n query
  show _ ∧ _
  rw [← toOption_eq_some_iff]
  decide +kernel

end ImageBot
