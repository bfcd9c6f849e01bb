import ImageBot.Proofs.Metrics.Report
import ImageBot.Proofs.Metrics.Runs
/-!
# Statistics of many runs

The report about a command tells how many of its runs ended in which way. Apart from times it does
not depend on the order in which the runs were recorded. It tells no more failures than runs, so the
share of runs that did not fail is that of a smaller number in a positive one. No count is above the
number of runs, so fewer than `2 ^ 64` runs are counted alike in 64 bits.
-/
namespace ImageBot

open Decimal
open Metrics (Run runsOf)

/-- The share of a part in percent. The quotient and the product are rounded one after the other. -/
def percentage (part whole : Nat) : Binary64 :=
  ((Binary64.ofNat part).div (.ofNat whole)).mul (.ofNat 100)

namespace CommandStats

/-- How many failures a report tells. -/
def failures (s : CommandStats) : Nat :=
  ((s.outcomes.filter fun c => c.1.isError).map Prod.snd).sum

/-- A report without the average time. -/
def untimed (s : CommandStats) : CommandStats := { s with averageTime := none }

/-- What a report tells about the runs of a command: which outcomes occurred and how often, and the
share of the runs that did not fail. -/
structure Tells (s : CommandStats) (runs : List Run) : Prop where
  labels : (s.outcomes.map fun c => c.1.label).Nodup
  outcomes : ∀ o k, (o, k) ∈ s.outcomes ↔ k = runs.countP (·.outcome = o) ∧ k ≠ 0
  invocations : s.invocations = (s.outcomes.map Prod.snd).sum
  length : s.invocations = runs.length
  failures : s.failures =
    runs.countP (·.outcome = .searchError) + runs.countP (·.outcome = .uploadError)
  failures_le : s.failures ≤ s.invocations
  ran : 0 < s.invocations
  reliability : s.reliability = percentage (s.invocations - s.failures) s.invocations

end CommandStats

/-- Metrics report some runs: every command that ran, once, and each with its own runs. Times are
kept for just these commands, and no count is above the number of runs. -/
structure Metrics.Covers (m : Metrics) (runs : List Run) : Prop where
  names : (m.stats.map Prod.fst).Nodup
  listed : ∀ command, command ∈ m.stats.map Prod.fst ↔ ∃ r ∈ runs, r.command = command
  tells : ∀ command s, (command, s) ∈ m.stats → s.Tells (runsOf command runs)
  invocations : (m.stats.map fun c => c.2.invocations).sum = m.total
  total : m.total = runs.length
  timed : m.times.map Prod.fst = m.stats.map Prod.fst
  bounded : ∀ command o, m.count command o ≤ runs.length

namespace Counts

theorem failures_counted {s : CommandStats} {c : Counts} (h : c.IsValid)
    (hs : s.outcomes = c.counted) : s.failures = c.errors := by
  rw [CommandStats.failures, hs, h.counted_eq, List.filter_comm, sum_filter_occurred, errors_eq]
  simp [Outcome.all, Outcome.isError]

/-- The order of the runs makes no difference to what is counted. -/
theorem count_ofRuns_perm {runs runs' : List Run} (h : runs.Perm runs') (o : Outcome) :
    (ofRuns runs).count o = (ofRuns runs').count o := by
  rw [count_ofRuns, count_ofRuns, h.countP_eq]

end Counts

/-- The report about the counts of some runs tells them. -/
theorem CommandStats.tells_ofRuns {s : CommandStats} {runs : List Run} (hne : runs ≠ [])
    (hinvocations : s.invocations = (Counts.ofRuns runs).invocations)
    (houtcomes : s.outcomes = (Counts.ofRuns runs).counted)
    (hreliability : s.reliability = (Counts.ofRuns runs).reliability) : s.Tells runs where
  labels := by
    rw [houtcomes]
    exact (Counts.isValid_ofRuns runs).nodup_labels_counted
  outcomes o k := by
    rw [houtcomes, (Counts.isValid_ofRuns runs).mem_counted, Counts.count_ofRuns]
  invocations := by
    rw [hinvocations, houtcomes, (Counts.isValid_ofRuns runs).sum_counted]
  length := by
    rw [hinvocations, Counts.invocations_ofRuns]
  failures := by
    rw [Counts.failures_counted (Counts.isValid_ofRuns runs) houtcomes, Counts.errors_eq,
      Counts.count_ofRuns, Counts.count_ofRuns]
  failures_le := by
    rw [Counts.failures_counted (Counts.isValid_ofRuns runs) houtcomes, hinvocations]
    exact (Counts.isValid_ofRuns runs).errors_le
  ran := by
    rw [hinvocations, Counts.invocations_ofRuns]
    exact List.length_pos_iff.mpr hne
  reliability := by
    have hran : (Counts.ofRuns runs).invocations ≠ 0 := by
      rw [Counts.invocations_ofRuns]
      exact fun hnil => hne (List.length_eq_zero_iff.mp hnil)
    rw [Counts.failures_counted (Counts.isValid_ofRuns runs) houtcomes, hreliability, hinvocations,
      Counts.reliability, if_neg hran]
    rfl

namespace Metrics

variable {runs : List Run}

theorem balanced_recordAll (runs : List Run) : (empty.recordAll runs).Balanced := by
  induction runs using List.reverseRecOn with
  | nil => exact balanced_empty
  | append_singleton runs r ih =>
    rw [recordAll_append_singleton]
    exact ih.record r.command r.outcome r.time

theorem total_recordAll (runs : List Run) : (empty.recordAll runs).total = runs.length := by
  induction runs using List.reverseRecOn with
  | nil => rfl
  | append_singleton runs r ih =>
    rw [recordAll_append_singleton, record, ih, List.length_append]
    rfl

theorem lookup_stats_recordAll (runs : List Run) (command : String) :
    (empty.recordAll runs).stats.lookup command =
      if runsOf command runs = [] then none
      else some ((empty.recordAll runs).statsOf command (.ofRuns (runsOf command runs))) := by
  rw [lookup_stats, lookup_outcomes_recordAll]
  split <;> rfl

/-- A command is reported with the report about its own runs. -/
theorem mem_stats_recordAll (command : String) (s : CommandStats) :
    (command, s) ∈ (empty.recordAll runs).stats ↔ runsOf command runs ≠ [] ∧
      s = (empty.recordAll runs).statsOf command (.ofRuns (runsOf command runs)) := by
  have hnames : ((empty.recordAll runs).stats.map Prod.fst).Nodup := by
    rw [names_stats]
    exact (balanced_recordAll runs).names
  rw [← Json.Value.lookup_eq_some_iff_mem hnames, lookup_stats_recordAll]
  by_cases hnil : runsOf command runs = [] <;> simp [hnil, eq_comm]

theorem covers_recordAll (runs : List Run) : (empty.recordAll runs).Covers runs where
  names := by
    rw [names_stats]
    exact (balanced_recordAll runs).names
  listed command := by
    simp only [List.mem_map, Prod.exists, exists_and_right, exists_eq_right, mem_stats_recordAll]
    simp [runsOf_eq_nil_iff]
  tells command s hs := by
    obtain ⟨hne, rfl⟩ := (mem_stats_recordAll command s).mp hs
    exact CommandStats.tells_ofRuns hne rfl rfl rfl
  invocations := by
    rw [(balanced_recordAll runs).total, stats, List.map_map]
    rfl
  total := total_recordAll runs
  timed := by
    rw [names_stats, (balanced_recordAll runs).stores]
  bounded command o := by
    rw [← total_recordAll]
    exact (balanced_recordAll runs).count_le_total command o

/-- **Only times depend on the order of the runs.** Runs that are recorded in another order give the
same total, and for every command the same invocations, outcomes and reliability. What is reported
are exactly these runs: the commands and outcomes are those that occurred, with their numbers. There
are no more failures than invocations, of which every command that is reported has at least one. -/
theorem stats_recordAll_perm {runs runs' : List Run} (h : runs.Perm runs') :
    let m := empty.recordAll runs
    let m' := empty.recordAll runs'
    m.total = m'.total ∧
    (∀ command, (m.stats.lookup command).map CommandStats.untimed =
      (m'.stats.lookup command).map CommandStats.untimed) ∧
    m.Covers runs := by
  intro m m'
  refine ⟨?_, ?_, covers_recordAll runs⟩
  · rw [total_recordAll, total_recordAll, h.length_eq]
  · intro command
    have hown : (runsOf command runs).Perm (runsOf command runs') := h.filter _
    have hnil : runsOf command runs = [] ↔ runsOf command runs' = [] := by
      rw [← List.length_eq_zero_iff, ← List.length_eq_zero_iff, hown.length_eq]
    rw [lookup_stats_recordAll, lookup_stats_recordAll]
    by_cases hnever : runsOf command runs = []
    · rw [if_pos hnever, if_pos (hnil.mp hnever)]
    · have hcounted := (Counts.isValid_ofRuns _).counted_congr (Counts.isValid_ofRuns _)
        (Counts.count_ofRuns_perm hown)
      have hinvocations : (Counts.ofRuns (runsOf command runs)).invocations =
          (Counts.ofRuns (runsOf command runs')).invocations := by
        rw [Counts.invocations_ofRuns, Counts.invocations_ofRuns, hown.length_eq]
      have herrors : (Counts.ofRuns (runsOf command runs)).errors =
          (Counts.ofRuns (runsOf command runs')).errors := by
        simp only [Counts.errors_eq, Counts.count_ofRuns_perm hown]
      rw [if_neg hnever, if_neg (hnil.not.mp hnever)]
      simp only [Option.map_some, CommandStats.untimed, statsOf, hcounted, Counts.reliability,
        hinvocations, herrors]

/-- Three runs of two commands, and the same runs from the last to the first: the commands are
reported in another order. -/
theorem stats_recordAll_perm_reverse :
    let runs : List Run :=
      [⟨"weather", .notice, 70⟩, ⟨"google", .image, 10⟩, ⟨"google", .uploadError, 40⟩]
    let m := empty.recordAll runs
    let m' := empty.recordAll runs.reverse
    runs.Perm runs.reverse ∧ m.stats ≠ m'.stats ∧ m.total = m'.total ∧
    (∀ command, (m.stats.lookup command).map CommandStats.untimed =
      (m'.stats.lookup command).map CommandStats.untimed) ∧
    m.Covers runs ∧
    (m'.stats.lookup "google").map CommandStats.untimed =
      some ⟨2, [(.image, 1), (.uploadError, 1)], none, percentage 1 2⟩ := by
  intro runs m m'
  have hperm : runs.Perm runs.reverse := (List.reverse_perm runs).symm
  obtain ⟨htotal, hstats, hcovers⟩ := stats_recordAll_perm hperm
  exact ⟨hperm, by decide +kernel, htotal, hstats, hcovers, by decide +kernel⟩

end Metrics

end ImageBot
