import ImageBot.Proofs.Command.Selection
import Mathlib.Data.List.Nodup
/-!
# The order of registration

Commands are told apart by their paths in lower case. If these are distinct, the words of a body
start with at most one path of each length, so that no two commands tie. Then the command of the
longest path is the best wherever it was registered, and a body addresses the same command in every
order of registration.
-/
namespace ImageBot

open Text

/-- The path of a command in lower case. -/
def Command.key (c : Command) : List String := c.path.map lower

/-- A path in lower case is told by the words that start with it. -/
theorem Leads.map_lower {path words args : List String} (h : Leads path words args) :
    path.map lower = (words.take path.length).map lower := by
  obtain ⟨-, hsame⟩ := h
  rw [hsame.length_eq, List.take_left]
  rwa [← List.forall₂_eq_eq_eq, List.forall₂_map_left_iff, List.forall₂_map_right_iff]

namespace Registry

variable {words args : List String} {commands commands' : List Command} {c : Command}

/-- Registers commands, one after the other. -/
def registerAll (r : Registry) (commands : List Command) : Registry := commands.foldl register r

theorem registerAll_eq (r : Registry) (commands : List Command) :
    r.registerAll commands = ⟨r.marker, r.commands ++ commands⟩ := by
  induction commands generalizing r with
  | nil => simp [registerAll]
  | cons c rest ih =>
    show (r.register c).registerAll rest = _
    rw [ih]
    simp [register]

theorem registerAll_empty (marker : String) (commands : List Command) :
    (empty marker).registerAll commands = ⟨marker, commands⟩ :=
  registerAll_eq (empty marker) commands

/-- Some words start with the path of a command, and with no longer path of a command. -/
structure IsLongest (words : List String) (commands : List Command) (c : Command)
    (args : List String) : Prop where
  mem : c ∈ commands
  leads : Leads c.path words args
  longest : ∀ d ∈ commands, ∀ others, Leads d.path words others → d.path.length ≤ c.path.length

/-- This does not look at the order of the commands. -/
theorem IsLongest.perm (hp : commands.Perm commands') (h : IsLongest words commands c args) :
    IsLongest words commands' c args :=
  ⟨hp.mem_iff.mp h.mem, h.leads, fun d hd => h.longest d (hp.mem_iff.mpr hd)⟩

/-- Two paths of one length that the same words start with have the same key. -/
theorem key_eq_of_leads {d : Command} {others : List String} (hc : Leads c.path words args)
    (hd : Leads d.path words others) (hlength : c.path.length = d.path.length) : c.key = d.key := by
  rw [Command.key, Command.key, hc.map_lower, hd.map_lower, hlength]

/-- Among commands with distinct keys the best is the one with the longest path. -/
theorem exists_isBest_iff (hkeys : (commands.map Command.key).Nodup) :
    (∃ k, IsBest words commands k c args) ↔ IsLongest words commands c args := by
  constructor
  · rintro ⟨k, hbest⟩
    exact ⟨List.mem_of_getElem? hbest.place, hbest.leads, hbest.longest⟩
  · intro h
    obtain ⟨k, hplace⟩ := List.mem_iff_getElem?.mp h.mem
    refine ⟨k, hplace, h.leads, h.longest, ?_⟩
    intro j d others hkj hd hleads
    apply Nat.lt_of_le_of_ne (h.longest d (List.mem_of_getElem? hd) others hleads)
    intro hlength
    -- a path of this length would be the same path, at another place
    have hkey : (commands.map Command.key)[k]? = (commands.map Command.key)[j]? := by
      rw [List.getElem?_map, List.getElem?_map, hplace, hd, Option.map_some, Option.map_some,
        key_eq_of_leads h.leads hleads hlength.symm]
    have hk : k < (commands.map Command.key).length := by
      rw [List.length_map]
      exact (List.getElem?_eq_some_iff.mp hplace).1
    exact absurd ((List.getElem?_inj hk hkeys).mp hkey) (Nat.ne_of_lt hkj)

theorem parse_eq_some_iff {r : Registry} {body : String}
    (hkeys : (r.commands.map Command.key).Nodup) :
    r.parse body = some (c, args) ↔
      ∃ words, r.Tells body words ∧ IsLongest words r.commands c args := by
  simp only [← exists_isBest_iff hkeys, parse, Option.map_eq_some_iff, Prod.exists,
    locate_eq_some_iff]
  constructor
  · rintro ⟨k, d, others, ⟨words, htells, hbest⟩, hfound⟩
    obtain ⟨rfl, rfl⟩ := Prod.mk.inj hfound
    exact ⟨words, htells, k, hbest⟩
  · rintro ⟨words, htells, k, hbest⟩
    exact ⟨k, c, args, ⟨words, htells, hbest⟩, rfl⟩

/-- **The order of registration does not matter.** Commands whose paths differ in more than letter
case can be registered in any order: every body addresses the same command with the same arguments,
or no command. -/
theorem parse_registerAll_perm (hkeys : (commands.map Command.key).Nodup)
    (hp : commands.Perm commands') (marker body : String) :
    ((empty marker).registerAll commands).parse body =
      ((empty marker).registerAll commands').parse body := by
  have hkeys' : (commands'.map Command.key).Nodup := (hp.map _).nodup_iff.mp hkeys
  rw [registerAll_empty, registerAll_empty]
  apply Option.ext
  rintro ⟨c, args⟩
  rw [parse_eq_some_iff hkeys, parse_eq_some_iff hkeys']
  -- both registries have the same marker, so that a body tells the same words to both
  apply exists_congr
  intro words
  apply and_congr Iff.rfl
  exact ⟨IsLongest.perm hp, IsLongest.perm hp.symm⟩

/-- Of two commands the one with the longer path is addressed, although in other letter case, and
whether it is registered first or last. -/
theorem parse_registerAll_perm_help :
    let google : Command := ⟨["google"], "", fun _ _ => pure (.ok (.notice "google"))⟩
    let help : Command := ⟨["Google", "help"], "", fun _ _ => pure (.ok (.notice "help"))⟩
    let body := "!google HELP me"
    ([google, help].map Command.key).Nodup ∧ [google, help].Perm [help, google] ∧
    ((empty "!").registerAll [google, help]).parse body =
      ((empty "!").registerAll [help, google]).parse body ∧
    (((empty "!").registerAll [help, google]).parse body).map (fun found =>
      (found.1.path, found.2)) = some (["Google", "help"], ["me"]) := by
  intro google help body
  have hkeys : ([google, help].map Command.key).Nodup := by decide +kernel
  have hp : [google, help].Perm [help, google] := .swap help google []
  exact ⟨hkeys, hp, parse_registerAll_perm hkeys hp "!" body, by decide +kernel⟩

end Registry

end ImageBot
