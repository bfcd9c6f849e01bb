import ImageBot.Command.Registry
import ImageBot.Proofs.Text.Words
import Mathlib.Data.List.Forall2
/-!
# Which command a body addresses

A body addresses a command if, once its leading blanks are gone, it starts with the marker and the
words behind this start with the path of the command. Of the commands it addresses the one with the
longest path is chosen, and of those with paths of this length the one registered last. Its
arguments are the words behind the path, so no word is lost and none is added.
-/
namespace ImageBot

open Text

/-- Some words are a path and what follows it. The words of the path may differ in ASCII case. -/
inductive Leads : (path words args : List String) → Prop
  | intro {path front args : List String} (hne : path ≠ [])
    (hsame : List.Forall₂ (fun p w => lower p = lower w) path front) :
    Leads path (front ++ args) args

namespace Leads

variable {path words args : List String}

/-- The path is not longer than the words. -/
theorem length_le (h : Leads path words args) : path.length ≤ words.length := by
  obtain ⟨-, hsame⟩ := h
  rw [hsame.length_eq, List.length_append]
  exact Nat.le_add_right _ _

/-- What follows the path are the words left when as many are dropped as the path has. -/
theorem args_eq (h : Leads path words args) : args = words.drop path.length := by
  obtain ⟨-, hsame⟩ := h
  rw [hsame.length_eq, List.drop_left]

theorem take_append (h : Leads path words args) : words.take path.length ++ args = words := by
  obtain ⟨-, hsame⟩ := h
  rw [hsame.length_eq, List.take_left]

end Leads

namespace Registry

variable {words args : List String} {commands : List Command} {c : Command}

theorem sameLetters_iff (p w : String) : sameLetters p.toList w.toList ↔ lower p = lower w := by
  rw [sameLetters, beq_iff_eq, lower, lower, String.ofList_inj]

/-- A path fits exactly if the words start with it. -/
theorem fits_iff {path : List String} :
    fits path words ↔ Leads path words (words.drop path.length) := by
  have hfront : ((path.zip words).all fun pair => sameLetters pair.1.toList pair.2.toList) ∧
      path.length ≤ words.length ↔
        List.Forall₂ (fun p w => lower p = lower w) path (words.take path.length) := by
    induction path generalizing words with
    | nil => simp
    | cons p path ih =>
      cases words with
      | nil => simp
      | cons w words =>
        simp only [List.zip_cons_cons, List.all_cons, Bool.and_eq_true, sameLetters_iff,
          List.length_cons, Nat.add_le_add_iff_right, List.take_succ_cons, List.forall₂_cons,
          and_assoc, ih]
  have hfits : fits path words ↔ path ≠ [] ∧
      List.Forall₂ (fun p w => lower p = lower w) path (words.take path.length) := by
    rw [← hfront, fits]
    simp only [Bool.and_eq_true, Bool.not_eq_true', List.isEmpty_eq_false_iff, decide_eq_true_eq]
    tauto
  rw [hfits]
  constructor
  · rintro ⟨hne, hsame⟩
    have hleads : Leads path (words.take path.length ++ words.drop path.length)
        (words.drop path.length) := .intro hne hsame
    rwa [List.take_append_drop] at hleads
  · generalize hargs : words.drop path.length = args
    rintro ⟨hne, hsame⟩
    refine ⟨hne, ?_⟩
    rwa [hsame.length_eq, List.take_left]

/-- A path fits exactly if the words are the path and something behind it. -/
theorem fits_iff_exists {path : List String} : fits path words ↔ ∃ args, Leads path words args := by
  rw [fits_iff]
  constructor
  · exact fun h => ⟨_, h⟩
  · rintro ⟨args, h⟩
    rwa [← h.args_eq]

/-- The command at a place is the best for some words: they start with its path, with no longer
path, and with none as long of a command behind it. -/
structure IsBest (words : List String) (commands : List Command) (k : Nat) (c : Command)
    (args : List String) : Prop where
  place : commands[k]? = some c
  leads : Leads c.path words args
  longest : ∀ d ∈ commands, ∀ others, Leads d.path words others →
    d.path.length ≤ c.path.length
  last : ∀ (j : Nat) (d : Command) (others : List String), k < j → commands[j]? = some d →
    Leads d.path words others → d.path.length < c.path.length

namespace IsBest

variable {k j : Nat} {d : Command} {others : List String}

/-- One command is the best. -/
theorem unique (h : IsBest words commands k c args) (h' : IsBest words commands j d others) :
    k = j ∧ c = d ∧ args = others := by
  obtain hlt | rfl | hlt := Nat.lt_trichotomy k j
  · have hshorter := h.last j d others hlt h'.place h'.leads
    have hlonger := h'.longest c (List.mem_of_getElem? h.place) args h.leads
    omega
  · obtain rfl := Option.some.inj (h.place.symm.trans h'.place)
    exact ⟨rfl, rfl, h.leads.args_eq.trans h'.leads.args_eq.symm⟩
  · have hshorter := h'.last k c args hlt h.place h.leads
    have hlonger := h.longest d (List.mem_of_getElem? h'.place) others h'.leads
    omega

/-- A command in front of the best one makes no difference, unless its path is longer. -/
theorem cons (h : IsBest words commands k c args)
    (hd : ∀ others, Leads d.path words others → d.path.length ≤ c.path.length) :
    IsBest words (d :: commands) (k + 1) c args := by
  refine ⟨h.place, h.leads, List.forall_mem_cons.mpr ⟨hd, h.longest⟩, ?_⟩
  intro j e others hj he
  obtain ⟨i, rfl⟩ : ∃ i, j = i + 1 := ⟨j - 1, by omega⟩
  exact h.last i e others (by omega) he

/-- A command with a longer path than those behind it is the best. -/
theorem head (hc : Leads c.path words args)
    (hlonger : ∀ d ∈ commands, ∀ others, Leads d.path words others →
      d.path.length < c.path.length) : IsBest words (c :: commands) 0 c args := by
  refine ⟨rfl, hc, List.forall_mem_cons.mpr ⟨fun _ _ => Nat.le_refl _, ?_⟩, ?_⟩
  · intro d hd others hleads
    exact Nat.le_of_lt (hlonger d hd others hleads)
  · intro j d others hj hd hleads
    obtain ⟨i, rfl⟩ : ∃ i, j = i + 1 := ⟨j - 1, by omega⟩
    exact hlonger d (List.mem_of_getElem? hd) others hleads

end IsBest

/-- What is chosen is the best; if nothing is chosen, the words start with no path. -/
theorem choose_spec (words : List String) (commands : List Command) (index : Nat) :
    match choose words index commands with
    | none => ∀ c ∈ commands, ∀ args, ¬Leads c.path words args
    | some (k, c) => ∃ place, k = index + place ∧
      IsBest words commands place c (words.drop c.path.length) := by
  induction commands generalizing index with
  | nil => simp [choose]
  | cons d rest ih =>
    have hrest := ih (index + 1)
    rw [choose]
    cases hchosen : choose words (index + 1) rest with
    | none =>
      simp only [hchosen] at hrest
      by_cases hd : fits d.path words
      · simp only [hd, if_true]
        exact ⟨0, rfl, .head (fits_iff.mp hd) fun e he others hleads =>
          absurd hleads (hrest e he others)⟩
      · simp only [hd, Bool.false_eq_true, if_false]
        exact List.forall_mem_cons.mpr
          ⟨fun args hleads => hd (fits_iff_exists.mpr ⟨args, hleads⟩), hrest⟩
    | some found =>
      obtain ⟨k, best⟩ := found
      simp only [hchosen] at hrest
      obtain ⟨place, rfl, hbest⟩ := hrest
      by_cases hd : fits d.path words ∧ best.path.length < d.path.length
      · simp only [hd.1, hd.2, decide_true, Bool.and_self, if_true]
        refine ⟨0, rfl, .head (fits_iff.mp hd.1) fun e he others hleads => ?_⟩
        exact Nat.lt_of_le_of_lt (hbest.longest e he others hleads) hd.2
      · have hnot : (fits d.path words && decide (best.path.length < d.path.length)) = false := by
          simpa using hd
        simp only [hnot, Bool.false_eq_true, if_false]
        refine ⟨place + 1, by omega, hbest.cons fun others hleads => ?_⟩
        exact Nat.le_of_not_lt fun hlt => hd ⟨fits_iff_exists.mpr ⟨others, hleads⟩, hlt⟩

theorem choose_eq_none_iff {index : Nat} : choose words index commands = none ↔
    ∀ c ∈ commands, ∀ args, ¬Leads c.path words args := by
  have hspec := choose_spec words commands index
  cases hchosen : choose words index commands with
  | none =>
    rw [hchosen] at hspec
    exact iff_of_true rfl hspec
  | some found =>
    obtain ⟨k, c⟩ := found
    rw [hchosen] at hspec
    obtain ⟨place, -, hbest⟩ := hspec
    refine iff_of_false (by simp) fun hall => ?_
    exact hall c (List.mem_of_getElem? hbest.place) _ hbest.leads

theorem choose_eq_some_iff {k : Nat} : choose words 0 commands = some (k, c) ↔
    IsBest words commands k c (words.drop c.path.length) := by
  have hspec := choose_spec words commands 0
  cases hchosen : choose words 0 commands with
  | none =>
    rw [hchosen] at hspec
    refine iff_of_false (by simp) fun hbest => ?_
    exact hspec c (List.mem_of_getElem? hbest.place) _ hbest.leads
  | some found =>
    obtain ⟨j, d⟩ := found
    rw [hchosen] at hspec
    obtain ⟨place, rfl, hbest⟩ := hspec
    rw [Nat.zero_add, Option.some.injEq, Prod.mk.injEq]
    constructor
    · rintro ⟨rfl, rfl⟩
      exact hbest
    · intro h
      obtain ⟨hplace, hcommand, -⟩ := hbest.unique h
      exact ⟨hplace, hcommand⟩

/-- A body tells words: without its leading blanks it is the marker and a text that falls into
them. -/
def Tells (r : Registry) (body : String) (words : List String) : Prop :=
  ∃ rest, trimStart body.toList = r.marker.toList ++ rest ∧ Splits rest words

theorem addressed?_eq_some_iff {r : Registry} {body : String} :
    r.addressed? body = some words ↔ r.Tells body words := by
  simp only [addressed?, Option.map_eq_some_iff, afterMarker?_eq_some_iff, Tells, splits_iff]

/-- A body tells no words exactly if it does not start with the marker. -/
theorem addressed?_eq_none_iff {r : Registry} {body : String} :
    r.addressed? body = none ↔ ¬r.marker.toList <+: trimStart body.toList := by
  rw [addressed?, Option.map_eq_none_iff, Option.eq_none_iff_forall_ne_some, List.IsPrefix,
    not_exists]
  exact forall_congr' fun rest => not_congr (afterMarker?_eq_some_iff.trans eq_comm)

/-- A body that tells words addresses the best command for them. -/
theorem locate_eq_some_iff {r : Registry} {body : String} {k : Nat} :
    r.locate body = some (k, c, args) ↔
      ∃ words, r.Tells body words ∧ IsBest words r.commands k c args := by
  simp only [locate, ← addressed?_eq_some_iff]
  cases r.addressed? body with
  | none => simp
  | some words =>
    simp only [Option.some.injEq, exists_eq_left', Option.map_eq_some_iff, Prod.mk.injEq]
    constructor
    · rintro ⟨⟨k, d⟩, hchosen, rfl, rfl, rfl⟩
      exact choose_eq_some_iff.mp hchosen
    · intro hbest
      obtain rfl := hbest.leads.args_eq
      exact ⟨(k, c), choose_eq_some_iff.mpr hbest, rfl, rfl, rfl⟩

/-- Only registered commands are addressed. -/
theorem mem_of_parse {r : Registry} {body : String} (h : r.parse body = some (c, args)) :
    c ∈ r.commands := by
  rw [parse, Option.map_eq_some_iff] at h
  obtain ⟨⟨k, found⟩, hlocate, hfound⟩ := h
  obtain rfl : found = (c, args) := hfound
  obtain ⟨words, -, hbest⟩ := locate_eq_some_iff.mp hlocate
  exact List.mem_of_getElem? hbest.place

/-- **The longest path wins, and of the longest the last.** A body addresses no command exactly if
it does not start with the marker behind its leading blanks, or the words behind the marker start
with no path. Otherwise it addresses the best command, and the arguments are the words behind the
path of this: there are as many words as the path has, and together they are all words. -/
theorem parse_longest_last (r : Registry) (body : String) :
    (r.parse body = none ↔ ¬r.marker.toList <+: trimStart body.toList ∨
      ∃ words, r.Tells body words ∧ ∀ c ∈ r.commands, ∀ args, ¬Leads c.path words args) ∧
    ∀ (c : Command) (args : List String), r.parse body = some (c, args) ↔
      ∃ words k, r.Tells body words ∧ IsBest words r.commands k c args ∧
        c.path.length ≤ words.length ∧ words.take c.path.length ++ args = words := by
  constructor
  · rw [← addressed?_eq_none_iff]
    simp only [← addressed?_eq_some_iff, parse, locate]
    cases r.addressed? body <;> simp [choose_eq_none_iff]
  · intro c args
    rw [parse, Option.map_eq_some_iff]
    constructor
    · rintro ⟨⟨k, found⟩, hlocate, hfound⟩
      obtain rfl : found = (c, args) := hfound
      obtain ⟨words, htells, hbest⟩ := locate_eq_some_iff.mp hlocate
      exact ⟨words, k, htells, hbest, hbest.leads.length_le, hbest.leads.take_append⟩
    · rintro ⟨words, k, htells, hbest, -, -⟩
      exact ⟨(k, c, args), locate_eq_some_iff.mpr ⟨words, htells, hbest⟩, rfl⟩

/-- Of two commands with one path the last one is addressed, although a command with a shorter path
comes after both. -/
theorem parse_longest_last_twice :
    let command (path : List String) (told : String) : Command :=
      ⟨path, "", fun _ _ => pure (.ok (.notice told))⟩
    let first := command ["google", "help"] "first"
    let last := command ["Google", "help"] "last"
    let r : Registry := ⟨"!", [first, last, command ["google"] "short"]⟩
    let body := " !google HELP me  please"
    r.parse body = some (last, ["me", "please"]) ∧
      ∃ words k, r.Tells body words ∧ IsBest words r.commands k last ["me", "please"] ∧
        last.path.length ≤ words.length ∧
          words.take last.path.length ++ ["me", "please"] = words := by
  intro command first last r body
  have hwords : r.addressed? body = some ["google", "HELP", "me", "please"] := by
    show (empty "!").addressed? body = _
    decide +kernel
  have hparse : r.parse body = some (last, ["me", "please"]) := by
    rw [parse, locate, hwords]
    rfl
  exact ⟨hparse, ((parse_longest_last r body).2 last _).mp hparse⟩

end Registry

end ImageBot
