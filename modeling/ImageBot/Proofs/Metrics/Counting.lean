import ImageBot.Metrics
import ImageBot.Proofs.Json.Sorting
import Mathlib.Algebra.GroupWithZero.Nat
import Mathlib.Algebra.Order.BigOperators.Group.List
import Mathlib.Algebra.Order.Group.Nat
import Mathlib.Data.List.Basic
import Mathlib.Data.List.Nodup
/-!
# Counting in the metrics

A command that ran is counted three times: in the total, under the label of its outcome, and as a
response time. `Metrics.count` is the view of the counts that the laws are about, and
`Metrics.Balanced` says how the total and the two stores go together; every record keeps it. So no
count is above the total, which is the number of records, and fewer than `2 ^ 64` records are
counted alike in 64 bits.
-/
namespace ImageBot

open Json.Value (lookup_eq_some_iff_mem)

section

variable {α : Type} {name : String} {new : α} {change : α → α} {entries : List (String × α)}

theorem lookup_updateEntry (name : String) (new : α) (change : α → α)
    (entries : List (String × α)) (other : String) :
    (updateEntry name new change entries).lookup other =
      if other = name then some (change ((entries.lookup name).getD new))
      else entries.lookup other := by
  induction entries with
  | nil => by_cases h : other = name <;> simp [updateEntry, h, List.lookup_cons, beq_eq_decide]
  | cons e rest ih =>
    obtain ⟨first, a⟩ := e
    simp only [updateEntry]
    by_cases hf : first = name
    · subst hf
      by_cases h : other = first <;> simp [h, List.lookup_cons, beq_eq_decide]
    · have hnf : ¬name = first := fun h => hf h.symm
      rw [if_neg hf]
      by_cases h : other = first
      · subst h
        simp [hf]
      · simp [List.lookup_cons, h, hnf, ih, beq_eq_decide]

/-- A name that has no entry gets one behind all others. -/
theorem names_updateEntry (name : String) (new : α) (change : α → α)
    (entries : List (String × α)) : (updateEntry name new change entries).map Prod.fst =
      if name ∈ entries.map Prod.fst then entries.map Prod.fst
      else entries.map Prod.fst ++ [name] := by
  induction entries with
  | nil => simp [updateEntry]
  | cons e rest ih =>
    by_cases h : e.1 = name
    · simp [updateEntry, h]
    · have hne : ¬name = e.1 := fun hname => h hname.symm
      rw [updateEntry, if_neg h, List.map_cons, ih, List.map_cons]
      by_cases hmem : name ∈ rest.map Prod.fst <;> simp [hne, hmem]

theorem nodup_names_updateEntry (name : String) (new : α) (change : α → α)
    (h : (entries.map Prod.fst).Nodup) :
    ((updateEntry name new change entries).map Prod.fst).Nodup := by
  rw [names_updateEntry]
  split
  · exact h
  · next hnot =>
    rw [← List.concat_eq_append]
    exact h.concat hnot

/-- What holds of all entries still does if the change keeps it. -/
theorem forall_mem_updateEntry {p : String × α → Prop} (h : ∀ e ∈ entries, p e)
    (hnew : p (name, change new)) (hchange : ∀ a, p (name, a) → p (name, change a)) :
    ∀ e ∈ updateEntry name new change entries, p e := by
  induction entries with
  | nil => simpa [updateEntry] using hnew
  | cons e rest ih =>
    obtain ⟨hfirst, hrest⟩ := List.forall_mem_cons.mp h
    obtain ⟨other, a⟩ := e
    rw [updateEntry]
    split
    · next heq =>
      subst heq
      exact List.forall_mem_cons.mpr ⟨hchange a hfirst, hrest⟩
    · exact List.forall_mem_cons.mpr ⟨hfirst, ih hrest⟩

/-- A change that counts one more does so in the sum over all entries. -/
theorem sum_updateEntry {f : α → Nat} (hnew : f new = 0) (hchange : ∀ a, f (change a) = f a + 1)
    (entries : List (String × α)) :
    ((updateEntry name new change entries).map fun e => f e.2).sum =
      (entries.map fun e => f e.2).sum + 1 := by
  induction entries with
  | nil => simp [updateEntry, hnew, hchange]
  | cons e rest ih =>
    rw [updateEntry]
    split
    · simp only [List.map_cons, List.sum_cons, hchange]
      omega
    · simp only [List.map_cons, List.sum_cons, ih]
      omega

end

theorem Outcome.label_injective {o o' : Outcome} (h : o.label = o'.label) : o = o' := by
  cases o <;> cases o' <;> first | rfl | exact absurd h (by decide)

theorem Outcome.mem_all (o : Outcome) : o ∈ all := by
  cases o <;> decide

namespace Counts

variable {c c' : Counts}

/-- How often an outcome is counted. -/
def count (c : Counts) (o : Outcome) : Nat := (c.lookup o.label).getD 0

@[simp] theorem count_nil (o : Outcome) : count [] o = 0 := rfl

/-- One more is counted for an outcome, and for that outcome only. -/
theorem count_add (c : Counts) (o o' : Outcome) :
    (c.add o).count o' = c.count o' + if o' = o then 1 else 0 := by
  rw [count, add, lookup_updateEntry]
  by_cases ho : o' = o
  · subst ho
    simp [count]
  · have hlabel : o'.label ≠ o.label := fun h => ho (Outcome.label_injective h)
    simp [count, ho, hlabel]

theorem invocations_eq_sum (c : Counts) : c.invocations = (c.map Prod.snd).sum :=
  List.sum_eq_foldl.symm

@[simp] theorem invocations_add (c : Counts) (o : Outcome) :
    (c.add o).invocations = c.invocations + 1 := by
  rw [invocations_eq_sum, invocations_eq_sum]
  exact sum_updateEntry (f := id) rfl (fun _ => rfl) c

/-- What is counted are outcomes that occurred, each of them once. -/
structure IsValid (c : Counts) : Prop where
  names : (c.map Prod.fst).Nodup
  occurred : ∀ e ∈ c, (∃ o : Outcome, o.label = e.1) ∧ e.2 ≠ 0

theorem isValid_nil : IsValid [] := ⟨List.nodup_nil, by simp⟩

theorem IsValid.add (h : c.IsValid) (o : Outcome) : (c.add o).IsValid where
  names := nodup_names_updateEntry o.label 0 (· + 1) h.names
  occurred := forall_mem_updateEntry h.occurred ⟨⟨o, rfl⟩, Nat.succ_ne_zero 0⟩
    fun _ hold => ⟨hold.1, Nat.succ_ne_zero _⟩

/-- An outcome has an entry exactly if it occurred. -/
theorem IsValid.lookup_eq (h : c.IsValid) (o : Outcome) :
    c.lookup o.label = if c.count o = 0 then none else some (c.count o) := by
  rw [count]
  cases hlookup : c.lookup o.label with
  | none => rfl
  | some n =>
    have hmem := (lookup_eq_some_iff_mem h.names).mp hlookup
    have hne : n ≠ 0 := (h.occurred _ hmem).2
    simp [hne]

theorem IsValid.counted_eq (h : c.IsValid) :
    c.counted = (Outcome.all.map fun o => (o, c.count o)).filter fun e => e.2 != 0 := by
  rw [counted, List.filter_map, ← List.filterMap_eq_map, List.filterMap_filter]
  congr 1
  funext o
  rw [h.lookup_eq]
  by_cases hz : c.count o = 0 <;> simp [hz]

/-- The outcomes that are reported are those that occurred. -/
theorem IsValid.mem_counted (h : c.IsValid) (o : Outcome) (n : Nat) :
    (o, n) ∈ c.counted ↔ n = c.count o ∧ n ≠ 0 := by
  rw [h.counted_eq]
  simp only [List.mem_filter, List.mem_map, Prod.mk.injEq, bne_iff_ne]
  constructor
  · rintro ⟨⟨_, -, rfl, rfl⟩, hn⟩
    exact ⟨rfl, hn⟩
  · rintro ⟨rfl, hn⟩
    exact ⟨⟨o, o.mem_all, rfl, rfl⟩, hn⟩

/-- Every outcome is reported at most once. -/
theorem IsValid.nodup_labels_counted (h : c.IsValid) :
    (c.counted.map fun e => e.1.label).Nodup := by
  have hall : ((Outcome.all.map fun o => (o, c.count o)).map fun e => e.1.label).Nodup := by
    rw [List.map_map]
    show (Outcome.all.map Outcome.label).Nodup
    decide
  rw [h.counted_eq]
  exact hall.sublist (List.filter_sublist.map _)

/-- What is reported is what is stored, in the order of all outcomes. -/
theorem IsValid.counted_perm (h : c.IsValid) :
    (c.counted.map fun e => (e.1.label, e.2)).Perm c := by
  have hreported : ((c.counted.map fun e => (e.1.label, e.2)).map Prod.fst).Nodup := by
    rw [List.map_map]
    exact h.nodup_labels_counted
  apply (List.perm_ext_iff_of_nodup (hreported.of_map _) (h.names.of_map _)).mpr
  rintro ⟨label, n⟩
  simp only [List.mem_map, Prod.exists, Prod.mk.injEq]
  constructor
  · rintro ⟨o, n, hmem, rfl, rfl⟩
    obtain ⟨rfl, hne⟩ := (h.mem_counted o n).mp hmem
    rw [← lookup_eq_some_iff_mem h.names, h.lookup_eq, if_neg hne]
  · intro hmem
    obtain ⟨⟨o, rfl⟩, hne⟩ := h.occurred _ hmem
    have hcount : c.count o = n := by
      rw [count, (lookup_eq_some_iff_mem h.names).mpr hmem, Option.getD_some]
    exact ⟨o, n, (h.mem_counted o n).mpr ⟨hcount.symm, hne⟩, rfl, rfl⟩

/-- Outcomes that did not occur add nothing. -/
theorem sum_filter_occurred (counts : List (Outcome × Nat)) :
    ((counts.filter fun e => e.2 != 0).map Prod.snd).sum = (counts.map Prod.snd).sum := by
  induction counts with
  | nil => rfl
  | cons e rest ih => by_cases he : e.2 = 0 <;> simp [he, ih]

theorem IsValid.sum_counted (h : c.IsValid) :
    (c.counted.map Prod.snd).sum = c.invocations := by
  have hsum := (h.counted_perm.map Prod.snd).sum_nat
  rwa [List.map_map, ← c.invocations_eq_sum] at hsum

/-- The invocations are what the counts of all outcomes add up to. -/
theorem IsValid.invocations_eq (h : c.IsValid) : c.invocations =
    c.count .image + c.count .notice + c.count .searchError + c.count .uploadError := by
  rw [← h.sum_counted, h.counted_eq, sum_filter_occurred]
  simp only [Outcome.all, List.map_cons, List.map_nil, List.sum_cons, List.sum_nil]
  omega

theorem errors_eq (c : Counts) : c.errors = c.count .searchError + c.count .uploadError := by
  have hfailed : Outcome.all.filter Outcome.isError = [.searchError, .uploadError] := by decide
  rw [errors, hfailed, count, count, List.filterMap_cons, List.filterMap_cons, List.filterMap_nil]
  cases c.lookup (Outcome.label .searchError) <;> cases c.lookup (Outcome.label .uploadError) <;>
    simp

/-- No more failures are counted than runs. -/
theorem IsValid.errors_le (h : c.IsValid) : c.errors ≤ c.invocations := by
  rw [h.invocations_eq, errors_eq]
  omega

theorem IsValid.count_le (h : c.IsValid) (o : Outcome) : c.count o ≤ c.invocations := by
  rw [h.invocations_eq]
  cases o <;> omega

/-- What is reported is told by the counts of all outcomes. -/
theorem IsValid.counted_congr (h : c.IsValid) (h' : c'.IsValid)
    (hsame : ∀ o, c.count o = c'.count o) : c.counted = c'.counted := by
  rw [h.counted_eq, h'.counted_eq]
  simp only [hsame]

end Counts

namespace Metrics

variable {m : Metrics} {command name : String}

/-- The counts of a command. -/
def counts (m : Metrics) (command : String) : Counts := (m.outcomes.lookup command).getD []

/-- How often a command ended in an outcome. -/
def count (m : Metrics) (command : String) (o : Outcome) : Nat := (m.counts command).count o

/-- The total is what the counts add up to. The two stores have the same commands, each of them
once, and what is counted are outcomes that occurred. -/
structure Balanced (m : Metrics) : Prop where
  total : m.total = (m.outcomes.map fun c => c.2.invocations).sum
  names : (m.outcomes.map Prod.fst).Nodup
  stores : m.times.map Prod.fst = m.outcomes.map Prod.fst
  counts : ∀ c ∈ m.outcomes, c.2.IsValid

theorem balanced_empty : empty.Balanced := ⟨rfl, List.nodup_nil, rfl, by simp [empty]⟩

/-- Whatever is recorded, the total and the stores still go together. -/
theorem Balanced.record (h : m.Balanced) (command : String) (o : Outcome) (time : Nat) :
    (m.record command o time).Balanced where
  total := by
    have hadd (c : Counts) : (c.add o).invocations = c.invocations + 1 := c.invocations_add o
    have hsum : ((updateEntry command [] (Counts.add · o) m.outcomes).map fun c =>
        Counts.invocations c.2).sum = (m.outcomes.map fun c => c.2.invocations).sum + 1 :=
      sum_updateEntry (f := Counts.invocations) rfl hadd _
    rw [← h.total] at hsum
    exact hsum.symm
  names := nodup_names_updateEntry command [] (Counts.add · o) h.names
  stores := by
    simp only [Metrics.record, names_updateEntry, h.stores]
  counts := forall_mem_updateEntry h.counts (Counts.isValid_nil.add o) fun _ hc => hc.add o

theorem Balanced.isValid_counts (h : m.Balanced) (command : String) :
    (m.counts command).IsValid := by
  rw [Metrics.counts]
  cases hlookup : m.outcomes.lookup command with
  | none => exact Counts.isValid_nil
  | some c => exact h.counts _ ((lookup_eq_some_iff_mem h.names).mp hlookup)

/-- No count is above the total. -/
theorem Balanced.count_le_total (h : m.Balanced) (command : String) (o : Outcome) :
    m.count command o ≤ m.total := by
  refine Nat.le_trans ((h.isValid_counts command).count_le o) ?_
  rw [Metrics.counts]
  cases hlookup : m.outcomes.lookup command with
  | none => exact Nat.zero_le _
  | some c =>
    rw [h.total]
    exact List.single_le_sum (fun _ _ => Nat.zero_le _) _
      (List.mem_map.mpr ⟨_, (lookup_eq_some_iff_mem h.names).mp hlookup, rfl⟩)

/-- A record counts one more for its command and outcome, and nothing else. -/
theorem count_record (m : Metrics) (command : String) (o : Outcome) (time : Nat) (name : String)
    (o' : Outcome) : (m.record command o time).count name o' =
      m.count name o' + if name = command ∧ o' = o then 1 else 0 := by
  simp only [count, counts, Metrics.record, lookup_updateEntry]
  by_cases h : name = command
  · subst h
    simp [Counts.count_add]
  · simp [h]

end Metrics

end ImageBot
