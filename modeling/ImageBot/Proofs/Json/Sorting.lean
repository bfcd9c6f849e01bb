import ImageBot.Json.Value
import Mathlib.Data.List.Perm.Basic
/-!
# Sorted objects

Sorting the members of an object changes their order and nothing else: every name keeps the
value that it has last, and if the names are distinct no member is lost.
-/
namespace ImageBot.Json.Value

variable {α : Type}

/-- The value of a member of an object. -/
def member? (name : String) : Value → Option Value
  | object members => members.lookup name
  | _ => none

theorem lookup_insertMember (name : String) (a : α) (l : List (String × α)) (k : String) :
    (insertMember name a l).lookup k = if k = name then some a else l.lookup k := by
  induction l with
  | nil => by_cases h : k = name <;> simp [insertMember, h, List.lookup_cons, beq_eq_decide]
  | cons m rest ih =>
    obtain ⟨other, b⟩ := m
    simp only [insertMember]
    by_cases hlt : name < other
    · rw [if_pos hlt]
      by_cases h : k = name <;> simp [h, List.lookup_cons, beq_eq_decide]
    · rw [if_neg hlt]
      by_cases ho : name = other
      · rw [if_pos ho, ho]
        by_cases h : k = other <;> simp [h, List.lookup_cons, beq_eq_decide]
      · rw [if_neg ho]
        by_cases h : k = other
        · subst h
          have hk : ¬k = name := fun h => ho h.symm
          simp [hk]
        · simp [List.lookup_cons, h, ih, beq_eq_decide]

/-- Sorting looks at names only. -/
theorem sortMembers_map {β : Type} (f : α → β) (l : List (String × α)) :
    sortMembers (l.map fun m => (m.1, f m.2)) = (sortMembers l).map fun m => (m.1, f m.2) := by
  have hinsert (name : String) (a : α) (l : List (String × α)) :
      insertMember name (f a) (l.map fun m => (m.1, f m.2)) =
        (insertMember name a l).map fun m => (m.1, f m.2) := by
    induction l with
    | nil => rfl
    | cons m rest ih =>
      obtain ⟨other, b⟩ := m
      simp only [insertMember, List.map_cons]
      by_cases hlt : name < other
      · simp [hlt]
      · by_cases ho : name = other <;> simp [hlt, ho, ih]
  have hfold (sorted : List (String × α)) :
      (l.map fun m => (m.1, f m.2)).foldl (fun sorted m => insertMember m.1 m.2 sorted)
          (sorted.map fun m => (m.1, f m.2)) =
        (l.foldl (fun sorted m => insertMember m.1 m.2 sorted) sorted).map
          fun m => (m.1, f m.2) := by
    induction l generalizing sorted with
    | nil => rfl
    | cons m rest ih => rw [List.map_cons, List.foldl_cons, List.foldl_cons, hinsert, ih]
  exact hfold []

/-- Of equal names the last one counts. -/
theorem lookup_sortMembers (l : List (String × α)) (k : String) :
    (sortMembers l).lookup k = l.reverse.lookup k := by
  have hfold : ∀ sorted : List (String × α),
      (l.foldl (fun sorted m => insertMember m.1 m.2 sorted) sorted).lookup k =
        (l.reverse ++ sorted).lookup k := by
    induction l with
    | nil => intro sorted; rfl
    | cons m rest ih =>
      intro sorted
      rw [List.foldl_cons, ih, List.reverse_cons, List.append_assoc, List.lookup_append,
        List.lookup_append, lookup_insertMember, List.singleton_append]
      obtain ⟨name, a⟩ := m
      by_cases h : k = name <;> simp [List.lookup_cons, h, beq_eq_decide]
  simpa [sortMembers] using hfold []

/-- Among distinct names a member is found by its name. -/
theorem lookup_eq_some_iff_mem {l : List (String × α)} (h : (l.map Prod.fst).Nodup) {k : String}
    {a : α} : l.lookup k = some a ↔ (k, a) ∈ l := by
  induction l with
  | nil => simp
  | cons m rest ih =>
    obtain ⟨name, b⟩ := m
    rw [List.map_cons, List.nodup_cons] at h
    by_cases hk : k = name
    · subst hk
      have hfresh : (k, a) ∉ rest := fun hm => h.1 (List.mem_map.mpr ⟨_, hm, rfl⟩)
      simp [hfresh, eq_comm]
    · simp [List.lookup_cons, hk, ih h.2, beq_eq_decide]

/-- Sorting keeps what distinct names stand for. -/
theorem lookup_sortMembers_of_nodup {l : List (String × α)} (h : (l.map Prod.fst).Nodup)
    (k : String) : (sortMembers l).lookup k = l.lookup k := by
  have hr : (l.reverse.map Prod.fst).Nodup := by
    rw [List.map_reverse]
    exact (List.reverse_perm _).nodup_iff.mpr h
  ext a
  rw [lookup_sortMembers, lookup_eq_some_iff_mem hr, List.mem_reverse, lookup_eq_some_iff_mem h]

theorem lookup_map {β : Type} (f : α → β) (l : List (String × α)) (k : String) :
    (l.map fun m => (m.1, f m.2)).lookup k = (l.lookup k).map f := by
  induction l with
  | nil => rfl
  | cons m rest ih =>
    obtain ⟨name, a⟩ := m
    by_cases h : k = name <;> simp [List.lookup_cons, h, ih, beq_eq_decide]

theorem insertMember_perm {name : String} (a : α) {l : List (String × α)}
    (h : name ∉ l.map Prod.fst) : (insertMember name a l).Perm ((name, a) :: l) := by
  induction l with
  | nil => exact .refl _
  | cons m rest ih =>
    obtain ⟨other, b⟩ := m
    rw [List.map_cons, List.mem_cons, not_or] at h
    simp only [insertMember]
    by_cases hlt : name < other
    · rw [if_pos hlt]
    · rw [if_neg hlt, if_neg h.1]
      exact ((ih h.2).cons _).trans (.swap _ _ _)

/-- Distinct members are rearranged. -/
theorem sortMembers_perm {l : List (String × α)} (h : (l.map Prod.fst).Nodup) :
    (sortMembers l).Perm l := by
  have hfold : ∀ sorted : List (String × α), ((l ++ sorted).map Prod.fst).Nodup →
      (l.foldl (fun sorted m => insertMember m.1 m.2 sorted) sorted).Perm (l ++ sorted) := by
    clear h
    induction l with
    | nil => intro sorted _; exact .refl _
    | cons m rest ih =>
      intro sorted hn
      have hfresh : m.1 ∉ sorted.map Prod.fst := by
        rw [List.cons_append, List.map_cons, List.nodup_cons, List.map_append,
          List.mem_append, not_or] at hn
        exact hn.1.2
      have hinsert := insertMember_perm m.2 hfresh
      have hmove : (rest ++ insertMember m.1 m.2 sorted).Perm (m :: rest ++ sorted) :=
        (hinsert.append_left rest).trans List.perm_middle
      have hnext : ((rest ++ insertMember m.1 m.2 sorted).map Prod.fst).Nodup :=
        (hmove.map Prod.fst).nodup_iff.mpr hn
      exact (ih _ hnext).trans hmove
  simpa [sortMembers] using hfold [] (by simpa using h)

theorem sortedMembers_eq_map (l : List (String × Value)) :
    sortedMembers l = l.map fun m => (m.1, m.2.sorted) := by
  induction l with
  | nil => rfl
  | cons m rest ih =>
    obtain ⟨name, v⟩ := m
    simp only [sortedMembers, ih, List.map_cons]

theorem sorted_object (l : List (String × Value)) :
    (object l).sorted = .object (sortMembers (l.map fun m => (m.1, m.2.sorted))) := by
  rw [sorted, sortedMembers_eq_map]

/-- A sorted object has the members that it had, sorted themselves. -/
theorem member?_sorted_object {l : List (String × Value)} (h : (l.map Prod.fst).Nodup)
    (k : String) : (object l).sorted.member? k = (l.lookup k).map Value.sorted := by
  have hn : ((l.map fun m => (m.1, m.2.sorted)).map Prod.fst).Nodup := by
    rw [List.map_map]
    exact h
  rw [sorted_object, member?, lookup_sortMembers_of_nodup hn, lookup_map]

end ImageBot.Json.Value
