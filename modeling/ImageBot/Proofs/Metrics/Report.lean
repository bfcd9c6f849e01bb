import ImageBot.Proofs.Json.Sorting
import ImageBot.Proofs.Metrics.Counting
import ImageBot.Service.Router
/-!
# What is reported about the metrics

The report is a JSON object whose members are sorted before it is sent. What it says can be
read off by names, and is what was counted.
-/
namespace ImageBot

open Json

/-- What a report tells of an outcome of a command. -/
def Json.Value.told? (report : Value) (command : String) (o : Outcome) : Option Value :=
  (((report.member? "commands").bind (·.member? command)).bind (·.member? "outcomes")).bind
    (·.member? o.label)

/-- What a report about metrics tells: the total, which is what the invocations of all
commands add up to, and the count of every outcome that occurred. -/
structure Json.Value.Reports (report : Value) (m : Metrics) : Prop where
  total : report.member? "total_commands" = some (.number (.int m.total))
  invocations : ∃ (commands : List (String × Value)) (counts : List Nat),
    report.member? "commands" = some (.object commands) ∧
    (commands.map fun c => c.2.member? "invocations") =
      (counts.map fun k => some (.number (.int k))) ∧
    counts.sum = m.total
  outcomes : ∀ command o, report.told? command o =
    if m.count command o = 0 then none else some (.number (.int (m.count command o)))

/-- An outcome is reported with its count, unless this is zero. -/
theorem Counts.IsValid.lookup_counted {c : Counts} (h : c.IsValid) (o : Outcome) :
    (c.counted.map fun e => (e.1.label, Value.number (.int e.2))).lookup o.label =
      if c.count o = 0 then none else some (.number (.int (c.count o))) := by
  have hn : ((c.counted.map fun e => (e.1.label, Value.number (.int e.2))).map Prod.fst).Nodup := by
    rw [List.map_map]
    exact h.nodup_labels_counted
  ext v
  rw [Value.lookup_eq_some_iff_mem hn, List.mem_map]
  constructor
  · rintro ⟨⟨o', n⟩, he, heq⟩
    rw [Prod.mk.injEq] at heq
    obtain ⟨hlabel, rfl⟩ := heq
    obtain rfl : o' = o := Outcome.label_injective hlabel
    rw [h.mem_counted] at he
    rw [← he.1, if_neg he.2]
  · intro hv
    by_cases hz : c.count o = 0
    · simp [hz] at hv
    · rw [if_neg hz, Option.some.injEq] at hv
      exact ⟨(o, c.count o), (h.mem_counted _ _).mpr ⟨rfl, hz⟩, by rw [hv]⟩

/-- The report about a command tells how often it ran. -/
theorem CommandStats.member?_invocations (s : CommandStats) :
    s.toValue.sorted.member? "invocations" = some (.number (.int s.invocations)) := by
  rw [toValue, Value.member?_sorted_object (by simp)]
  simp [Value.sorted]

/-- The report about a command tells every outcome that occurred. -/
theorem CommandStats.member?_outcomes {s : CommandStats} {c : Counts} (h : c.IsValid)
    (hs : s.outcomes = c.counted) (o : Outcome) :
    (s.toValue.sorted.member? "outcomes").bind (·.member? o.label) =
      if c.count o = 0 then none else some (.number (.int (c.count o))) := by
  have hn : ((c.counted.map fun e => (e.1.label, Value.number (.int e.2))).map Prod.fst).Nodup := by
    rw [List.map_map]
    exact h.nodup_labels_counted
  have houtcomes : s.toValue.sorted.member? "outcomes" = some (Value.object
      (c.counted.map fun e => (e.1.label, Value.number (.int e.2)))).sorted := by
    rw [toValue, Value.member?_sorted_object (by simp), hs]
    simp [List.lookup_cons]
  rw [houtcomes, Option.bind_some, Value.member?_sorted_object hn, h.lookup_counted]
  by_cases hz : c.count o = 0 <;> simp [hz, Value.sorted]

namespace Metrics

variable {m : Metrics}

/-- The report has one entry for each command that ran. -/
theorem member?_commands (m : Metrics) :
    m.toValue.sorted.member? "commands" = some (Value.object
      (m.stats.map fun c => (c.1, c.2.toValue))).sorted := by
  rw [toValue, Value.member?_sorted_object (by simp)]
  simp [List.lookup_cons]

theorem names_stats (m : Metrics) : m.stats.map Prod.fst = m.outcomes.map Prod.fst := by
  simp [stats, Function.comp_def]

/-- The report about a command. -/
def statsOf (m : Metrics) (command : String) (c : Counts) : CommandStats :=
  ⟨c.invocations, c.counted, m.average command, c.reliability⟩

/-- What is reported of a command is found by its name. -/
theorem lookup_stats (m : Metrics) (command : String) :
    m.stats.lookup command = (m.outcomes.lookup command).map (m.statsOf command) := by
  rw [stats]
  induction m.outcomes with
  | nil => rfl
  | cons e rest ih =>
    obtain ⟨name, c⟩ := e
    by_cases hname : command = name
    · subst hname
      simp [statsOf]
    · simpa [List.lookup_cons, hname, beq_eq_decide] using ih

/-- What is reported is what was counted. -/
theorem Balanced.reports (h : m.Balanced) : m.toValue.sorted.Reports m where
  total := by
    rw [toValue, Value.member?_sorted_object (by simp)]
    simp [Value.sorted]
  invocations := by
    have hnames : (m.stats.map Prod.fst).Nodup := by
      rw [names_stats]
      exact h.names
    have hsum : ((Value.sortMembers m.stats).map fun c => c.2.invocations).sum = m.total := by
      rw [h.total, ((Value.sortMembers_perm hnames).map _).sum_nat, stats, List.map_map]
      rfl
    refine ⟨(Value.sortMembers m.stats).map fun c => (c.1, c.2.toValue.sorted),
      (Value.sortMembers m.stats).map fun c => c.2.invocations, ?_, ?_, hsum⟩
    · rw [member?_commands, Value.sorted_object, List.map_map]
      exact congrArg some (congrArg Value.object
        (Value.sortMembers_map (fun s : CommandStats => s.toValue.sorted) m.stats))
    · simp [CommandStats.member?_invocations, Function.comp_def]
  outcomes command o := by
    have hn : ((m.stats.map fun c => (c.1, c.2.toValue)).map Prod.fst).Nodup := by
      rw [List.map_map]
      exact (congrArg List.Nodup m.names_stats).mpr h.names
    rw [Value.told?, member?_commands, Option.bind_some, Value.member?_sorted_object hn,
      Value.lookup_map CommandStats.toValue, lookup_stats]
    have hvalid := h.isValid_counts command
    rw [count]
    rw [Metrics.counts] at hvalid ⊢
    cases hlookup : m.outcomes.lookup command with
    | none => simp
    | some c =>
      rw [hlookup] at hvalid
      exact CommandStats.member?_outcomes (s := m.statsOf command c) hvalid rfl o

end Metrics

end ImageBot
