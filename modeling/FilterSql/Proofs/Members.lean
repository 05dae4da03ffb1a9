import FilterSql.Json.Basic
import Mathlib.Data.List.Basic
import Mathlib.Data.List.Induction

/-!
# Members of objects

An object in which each name stands once gives for a name the value that stands beside it
(`lookup_of_mem`). Taking a member out leaves the others, in some order
(`swapRemove?_of_lookup`). Of assignments the last one to a name stays (`lookup_ofAssignments`).
-/

namespace FilterSql.Members

variable {α β : Type} {ms ms' : Members α} {name : String} {v : α}

/-- The names of members, in order. -/
def names (ms : Members α) : List String :=
  ms.map (·.1)

@[simp]
theorem names_cons (n : String) (v : α) (ms : Members α) : names ((n, v) :: ms) = n :: names ms :=
  rfl

@[simp]
theorem names_append (ms ms' : Members α) : names (ms ++ ms') = names ms ++ names ms' :=
  List.map_append

theorem mem_names_of_mem (h : (name, v) ∈ ms) : name ∈ names ms :=
  List.mem_map_of_mem h

theorem names_perm (h : ms.Perm ms') : (names ms).Perm (names ms') :=
  h.map _

theorem lookup_eq_none_iff_not_mem : ms.lookup name = none ↔ name ∉ names ms := by
  rw [List.lookup_eq_none_iff]
  simp only [names, List.mem_map, bne_iff_ne, not_exists, not_and]
  exact forall₂_congr fun m _ => ne_comm

/-- Where each name stands once, the value beside a name is found for it. -/
theorem lookup_of_mem (hnames : (names ms).Nodup) (h : (name, v) ∈ ms) :
    ms.lookup name = some v := by
  obtain ⟨before, after, rfl⟩ := List.append_of_mem h
  refine List.lookup_eq_some_iff.mpr ⟨before, after, rfl, fun m hm => ?_⟩
  rw [names_append, names_cons] at hnames
  rw [bne_iff_ne]
  rintro rfl
  exact (List.nodup_append.mp hnames).2.2 _ (mem_names_of_mem hm) _ List.mem_cons_self rfl

/-- The member that is taken out is the one that is found, and all others are left. -/
theorem swapRemove?_of_lookup (h : ms.lookup name = some v) :
    ∃ rest, swapRemove? name ms = some (v, rest) ∧ ms.Perm ((name, v) :: rest) := by
  obtain ⟨before, after, rfl, hbefore⟩ := List.lookup_eq_some_iff.mp h
  have hother : ∀ m ∈ before, decide (m.1 ≠ name) = true := by
    intro m hm
    have hne := hbefore m hm
    rw [bne_iff_ne] at hne
    exact decide_eq_true hne.symm
  have htake : (before ++ (name, v) :: after).takeWhile (·.1 ≠ name) = before := by
    rw [List.takeWhile_append_of_pos hother, List.takeWhile_cons_of_neg (by simp), List.append_nil]
  have hdrop : (before ++ (name, v) :: after).dropWhile (·.1 ≠ name) = (name, v) :: after := by
    rw [List.dropWhile_append_of_pos hother, List.dropWhile_cons_of_neg (by simp)]
  unfold swapRemove?
  simp only [h, htake, hdrop, List.tail_cons]
  refine ⟨_, rfl, List.perm_middle.trans (List.Perm.cons _ ?_)⟩
  cases hlast : after.getLast? with
  | none =>
    rw [List.getLast?_eq_none_iff.mp hlast, List.append_nil]
  | some last =>
    obtain ⟨init, rfl⟩ := List.getLast?_eq_some_iff.mp hlast
    rw [List.dropLast_concat]
    exact List.Perm.append_left _ (List.perm_append_singleton _ _)

/-! ## Assignments -/

theorem lookup_cons (n : String) (v : α) (ms : Members α) (name : String) :
    List.lookup name ((n, v) :: ms) = if name = n then some v else ms.lookup name := by
  rw [List.lookup_cons]
  by_cases h : name = n
  · rw [if_pos h, beq_iff_eq.mpr h]
  · rw [if_neg h, beq_eq_false_iff_ne.mpr h]

theorem lookup_set (n : String) (v : α) (ms : Members α) (name : String) :
    (set n v ms).lookup name = if name = n then some v else ms.lookup name := by
  induction ms with
  | nil => rw [set, lookup_cons]
  | cons m ms ih =>
    obtain ⟨k, w⟩ := m
    rw [set]
    by_cases hk : k = n
    · subst hk
      rw [if_pos rfl, lookup_cons, lookup_cons]
      split <;> rfl
    · rw [if_neg hk, lookup_cons, ih, lookup_cons]
      by_cases h : name = k
      · rw [if_pos h, if_neg (h ▸ hk), if_pos h]
      · rw [if_neg h, if_neg h]

theorem names_set (n : String) (v : α) (ms : Members α) :
    names (set n v ms) = if n ∈ names ms then names ms else names ms ++ [n] := by
  induction ms with
  | nil => rfl
  | cons m ms ih =>
    obtain ⟨k, w⟩ := m
    rw [set]
    by_cases hk : k = n
    · simp [hk]
    · have hne : n ≠ k := Ne.symm hk
      rw [if_neg hk, names_cons, ih]
      by_cases hmem : n ∈ names ms <;> simp [hne, hmem]

theorem ofAssignments_concat (as : List (String × α)) (a : String × α) :
    ofAssignments (as ++ [a]) = set a.1 a.2 (ofAssignments as) := by
  rw [ofAssignments, List.foldl_append]
  rfl

/-- Of the assignments to a name the last one stays. -/
theorem lookup_ofAssignments (as : List (String × α)) (name : String) :
    (ofAssignments as).lookup name = as.reverse.lookup name := by
  induction as using List.reverseRecOn with
  | nil => rfl
  | append_singleton as a ih =>
    rw [ofAssignments_concat, lookup_set, ih, List.reverse_concat, lookup_cons]

theorem lookup_ofAssignments_append_cons {before after : List (String × α)}
    (hlast : name ∉ names after) :
    (ofAssignments (before ++ (name, v) :: after)).lookup name = some v := by
  have hafter : List.lookup name after.reverse = none := by
    rw [names, ← List.mem_reverse, ← List.map_reverse] at hlast
    exact lookup_eq_none_iff_not_mem.mpr hlast
  rw [lookup_ofAssignments, List.reverse_append, List.reverse_cons, List.append_assoc,
    List.lookup_append, hafter, Option.none_or, List.singleton_append, lookup_cons, if_pos rfl]

/-- What is assigned has each name once. -/
theorem nodup_names_ofAssignments (as : List (String × α)) : (names (ofAssignments as)).Nodup := by
  induction as using List.reverseRecOn with
  | nil => exact .nil
  | append_singleton as a ih =>
    rw [ofAssignments_concat, names_set]
    split
    · exact ih
    · rename_i hmem
      refine List.nodup_append.mpr ⟨ih, by simp, fun n hn m hm => ?_⟩
      rintro rfl
      exact hmem (List.mem_singleton.mp hm ▸ hn)

/-- The names stand in the order of their first assignments. -/
theorem names_ofAssignments (as : List (String × α)) :
    names (ofAssignments as) = (names as).eraseDups := by
  induction as using List.reverseRecOn with
  | nil => rfl
  | append_singleton as a ih =>
    have hname : names [a] = [a.1] := rfl
    rw [ofAssignments_concat, names_set, ih, names_append, List.eraseDups_append, hname]
    by_cases hmem : a.1 ∈ names as
    · rw [if_pos (List.mem_eraseDups.mpr hmem)]
      simp [List.removeAll, hmem]
    · rw [if_neg (mt List.mem_eraseDups.mp hmem)]
      simp [List.removeAll, List.eraseDups_cons, hmem]

theorem mem_names_ofAssignments_iff {as : List (String × α)} :
    name ∈ names (ofAssignments as) ↔ name ∈ names as := by
  rw [← not_iff_not, ← lookup_eq_none_iff_not_mem, lookup_ofAssignments,
    lookup_eq_none_iff_not_mem, names, List.map_reverse, List.mem_reverse]
  rfl

end FilterSql.Members
