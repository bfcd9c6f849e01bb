import ImageBot.Proofs.Metrics.Counting
import Mathlib.Data.List.DropRight
/-!
# Metrics of many runs

What is stored for a command comes from its own runs, whatever runs of other commands stand between
them. Of their times the last hundred are kept, and the average is taken over these. Times are
natural numbers without a bound here; a sum below `2 ^ 64` is the same in 64 bits.
-/
namespace ImageBot

/-- A finished run of a command. -/
structure Metrics.Run where
  command : String
  outcome : Outcome
  time : Nat
  deriving Repr, DecidableEq

open Metrics (Run)

namespace Window

/-- The last times, as many as there is room for. -/
def ofTimes (times : List Nat) : Window := times.rtake responseWindow

/-- A window of the last times is one of the last times when the next one is taken in. -/
theorem push_ofTimes (times : List Nat) (time : Nat) :
    (ofTimes times).push time = ofTimes (times ++ [time]) := by
  -- before the new time goes in, there is room for it
  have hroom : (if responseWindow ≤ (ofTimes times).length then (ofTimes times).drop 1
      else ofTimes times) = times.rtake (responseWindow - 1) := by
    rw [ofTimes, List.rtake, List.rtake, List.length_drop, responseWindow]
    split
    · rw [List.drop_drop]
      congr 1
      omega
    · congr 1
      omega
  rw [push, hroom]
  exact (List.rtake_concat_succ _ (responseWindow - 1) _).symm

theorem length_ofTimes (times : List Nat) :
    (ofTimes times).length = min times.length responseWindow := by
  rw [ofTimes, List.rtake, List.length_drop]
  omega

/-- The average is over the times that are kept, if there are any. -/
theorem average_ofTimes {times : List Nat} (hne : times ≠ []) : (ofTimes times).average =
    some ((ofTimes times).sum / min times.length responseWindow) := by
  have hlength := length_ofTimes times
  have hpos : 0 < times.length := List.length_pos_iff.mpr hne
  have hkept : ofTimes times ≠ [] := by
    intro hnil
    rw [hnil, List.length_nil, responseWindow] at hlength
    omega
  simp [average, hkept, List.sum_eq_foldl, hlength]

end Window

namespace Counts

/-- The counts of finished runs. -/
def ofRuns (runs : List Run) : Counts := runs.foldl (fun c r => c.add r.outcome) []

theorem ofRuns_append_singleton (runs : List Run) (r : Run) :
    ofRuns (runs ++ [r]) = (ofRuns runs).add r.outcome := by
  simp [ofRuns]

theorem isValid_ofRuns (runs : List Run) : (ofRuns runs).IsValid := by
  induction runs using List.reverseRecOn with
  | nil => exact isValid_nil
  | append_singleton runs r ih =>
    rw [ofRuns_append_singleton]
    exact ih.add r.outcome

/-- The outcomes are counted. -/
theorem count_ofRuns (runs : List Run) (o : Outcome) :
    (ofRuns runs).count o = runs.countP (·.outcome = o) := by
  induction runs using List.reverseRecOn with
  | nil => exact count_nil o
  | append_singleton runs r ih =>
    rw [ofRuns_append_singleton, count_add, ih, List.countP_append]
    simp [eq_comm]

theorem invocations_ofRuns (runs : List Run) : (ofRuns runs).invocations = runs.length := by
  induction runs using List.reverseRecOn with
  | nil => rfl
  | append_singleton runs r ih =>
    rw [ofRuns_append_singleton, invocations_add, ih, List.length_append, List.length_singleton]

end Counts

namespace Metrics

variable {runs : List Run} {command : String}

/-- Takes in finished runs, one after the other. -/
def recordAll (m : Metrics) (runs : List Run) : Metrics :=
  runs.foldl (fun m r => m.record r.command r.outcome r.time) m

/-- The runs of one command, in their order. -/
def runsOf (command : String) (runs : List Run) : List Run :=
  runs.filter (·.command = command)

/-- The times of the runs of one command, in their order. -/
def timesOf (command : String) (runs : List Run) : List Nat := (runsOf command runs).map Run.time

theorem recordAll_append_singleton (m : Metrics) (runs : List Run) (r : Run) :
    m.recordAll (runs ++ [r]) = (m.recordAll runs).record r.command r.outcome r.time := by
  simp [recordAll]

theorem runsOf_append_singleton (command : String) (runs : List Run) (r : Run) :
    runsOf command (runs ++ [r]) =
      runsOf command runs ++ if r.command = command then [r] else [] := by
  by_cases hr : r.command = command <;> simp [runsOf, hr]

/-- A command has no runs exactly if it never ran. -/
theorem runsOf_eq_nil_iff : runsOf command runs = [] ↔ ∀ r ∈ runs, r.command ≠ command := by
  simp [runsOf, List.filter_eq_nil_iff]

/-- **The counts of a command come from its own runs.** -/
theorem lookup_outcomes_recordAll (runs : List Run) (command : String) :
    (empty.recordAll runs).outcomes.lookup command =
      if runsOf command runs = [] then none else some (.ofRuns (runsOf command runs)) := by
  induction runs using List.reverseRecOn with
  | nil => rfl
  | append_singleton runs r ih =>
    rw [recordAll_append_singleton, record, lookup_updateEntry, runsOf_append_singleton]
    by_cases hr : r.command = command
    · subst hr
      by_cases hnil : runsOf r.command runs = []
      · simp [ih, hnil, Counts.ofRuns]
      · simp [ih, hnil, Counts.ofRuns_append_singleton]
    · simp [hr, ih, Ne.symm hr]

/-- **The times of a command come from its own runs.** -/
theorem lookup_times_recordAll (runs : List Run) (command : String) :
    (empty.recordAll runs).times.lookup command =
      if runsOf command runs = [] then none else some (.ofTimes (timesOf command runs)) := by
  induction runs using List.reverseRecOn with
  | nil => rfl
  | append_singleton runs r ih =>
    rw [recordAll_append_singleton, record, lookup_updateEntry, timesOf, runsOf_append_singleton]
    by_cases hr : r.command = command
    · subst hr
      -- the window is new if this is the first run of the command
      have hold : ((empty.recordAll runs).times.lookup r.command).getD [] =
          .ofTimes (timesOf r.command runs) := by
        rw [ih]
        by_cases hnil : runsOf r.command runs = []
        · simp [hnil, timesOf, Window.ofTimes]
        · simp [hnil]
      simp [hold, Window.push_ofTimes, timesOf]
    · simp [hr, ih, Ne.symm hr, timesOf]

theorem average_recordAll_eq (runs : List Run) (command : String) :
    (empty.recordAll runs).average command =
      if runsOf command runs = [] then none
      else some ((Window.ofTimes (timesOf command runs)).sum /
        min (timesOf command runs).length responseWindow) := by
  rw [average, lookup_times_recordAll]
  by_cases hnil : runsOf command runs = []
  · simp [hnil]
  · have htimes : timesOf command runs ≠ [] := by simpa [timesOf] using hnil
    rw [if_neg hnil, if_neg hnil, Option.bind_some, Window.average_ofTimes htimes]

/-- **The average is that of the last hundred runs.** A command has no average exactly if it never
ran. Otherwise the average is the sum of its last times divided by their number, rounded down; these
are a hundred times, or all if there are fewer. Never are more times kept than a hundred. Runs of
other commands make no difference. -/
theorem average_recordAll (runs : List Run) (command : String) :
    let m := empty.recordAll runs
    let times := (runsOf command runs).map Run.time
    let k := min times.length 100
    (m.average command = none ↔ ∀ r ∈ runs, r.command ≠ command) ∧
    (command ∈ runs.map Run.command → m.average command = some ((times.rtake k).sum / k)) ∧
    (∀ earlier, earlier <+: runs →
      (((empty.recordAll earlier).times.lookup command).getD []).length ≤ 100) ∧
    ∀ others, runsOf command others = runsOf command runs →
      (empty.recordAll others).average command = m.average command := by
  intro m times k
  refine ⟨?_, ?_, ?_, ?_⟩
  · rw [average_recordAll_eq, ← runsOf_eq_nil_iff]
    simp
  · intro hran
    have hne : runsOf command runs ≠ [] := by
      rw [Ne, runsOf_eq_nil_iff]
      intro hnever
      obtain ⟨r, hr, hcommand⟩ := List.mem_map.mp hran
      exact hnever r hr hcommand
    have hlast : times.rtake k = Window.ofTimes times := by
      rw [Window.ofTimes, List.rtake, List.rtake, responseWindow]
      congr 1
      omega
    rw [average_recordAll_eq, if_neg hne, hlast]
    rfl
  · intro earlier _
    rw [lookup_times_recordAll]
    by_cases hnil : runsOf command earlier = []
    · simp [hnil]
    · rw [if_neg hnil, Option.getD_some, Window.length_ofTimes]
      exact Nat.min_le_right _ _
  · intro others hsame
    rw [average_recordAll_eq, average_recordAll_eq, timesOf, timesOf, hsame]

/-- After a hundred and one runs of a command the first is forgotten, and a run of another command
between them is not looked at. -/
theorem average_recordAll_forgets_first :
    let runs := (⟨"google", .image, 5000⟩ : Run) :: List.replicate 99 ⟨"google", .image, 10⟩ ++
      [⟨"weather", .notice, 70⟩, ⟨"google", .image, 1010⟩]
    "google" ∈ runs.map Run.command ∧ (empty.recordAll runs).average "google" = some 20 ∧
    runs.take 100 <+: runs ∧
    (((empty.recordAll (runs.take 100)).times.lookup "google").getD []).length ≤ 100 ∧
    runsOf "google" (runsOf "google" runs) = runsOf "google" runs ∧
    (empty.recordAll (runsOf "google" runs)).average "google" = some 20 := by
  intro runs
  obtain ⟨-, haverage, hkept, hothers⟩ := average_recordAll runs "google"
  have hran : "google" ∈ runs.map Run.command := by simp [runs]
  have htwenty : (empty.recordAll runs).average "google" = some 20 :=
    (haverage hran).trans (by decide +kernel)
  have hprefix : runs.take 100 <+: runs := List.take_prefix _ _
  have hown : runsOf "google" (runsOf "google" runs) = runsOf "google" runs := by
    simp [runsOf, List.filter_filter]
  exact ⟨hran, htwenty, hprefix, hkept _ hprefix, hown, (hothers _ hown).trans htwenty⟩

end Metrics

end ImageBot
