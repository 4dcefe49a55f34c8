import Marquee.Controller.Registry

/-!
Facts about the registry as a map from contexts to buttons, and how often it holds a loop.
-/

namespace Marquee.Registry

def Distinct (registry : Registry) : Prop := registry.contexts.Nodup

theorem distinct_erase {registry : Registry} (distinct : registry.Distinct) (context : String) :
    (registry.erase context).Distinct :=
  (List.filter_sublist.map Prod.fst).nodup distinct

theorem context_not_mem_erase (registry : Registry) (context : String) :
    context ∉ (registry.erase context).contexts := by
  intro member
  obtain ⟨entry, kept, same⟩ := List.mem_map.mp member
  have differ := (List.mem_filter.mp kept).2
  rw [same] at differ
  simp at differ

theorem distinct_insert {registry : Registry} (distinct : registry.Distinct) (context : String)
    (entry : Entry) : (registry.insert context entry).Distinct :=
  List.nodup_cons.mpr
    ⟨context_not_mem_erase registry context, distinct_erase distinct context⟩

theorem mem_of_find? {registry : Registry} {context : String} {entry : Entry}
    (found : registry.find? context = some entry) : (context, entry) ∈ registry.entries := by
  obtain ⟨before, after, split, _⟩ := List.lookup_eq_some_iff.mp found
  rw [split]
  simp

theorem find?_of_mem {registry : Registry} (distinct : registry.Distinct) {context : String}
    {entry : Entry} (member : (context, entry) ∈ registry.entries) :
    registry.find? context = some entry := by
  obtain ⟨before, after, split⟩ := List.append_of_mem member
  apply List.lookup_eq_some_iff.mpr
  refine ⟨before, after, split, ?_⟩
  intro other earlier
  unfold Distinct contexts at distinct
  rw [split, List.map_append, List.map_cons, List.nodup_append] at distinct
  have differ := distinct.2.2 other.1 (List.mem_map.mpr ⟨other, earlier, rfl⟩) context (by simp)
  simpa using differ.symm

theorem find?_eq_none_iff {registry : Registry} {context : String} :
    registry.find? context = none ↔ context ∉ registry.contexts := by
  simp only [find?, contexts, List.lookup_eq_none_iff, List.mem_map, not_exists, not_and]
  constructor
  · intro absent entry member same
    have differ := absent entry member
    simp [same] at differ
  · intro absent entry member
    have differ := absent entry member
    simpa using fun same : context = entry.1 => differ same.symm

theorem find?_of_erase {registry : Registry} {context other : String} {entry : Entry}
    (found : (registry.erase context).find? other = some entry) :
    registry.find? other = some entry := by
  by_cases same : other = context
  · rw [same, find?_erase_self] at found
    cases found
  · rw [find?_erase_other registry same] at found
    exact found

theorem erase_of_absent {registry : Registry} {context : String}
    (absent : registry.find? context = none) : registry.erase context = registry := by
  have outside := find?_eq_none_iff.mp absent
  unfold erase
  congr
  apply List.filter_eq_self.mpr
  intro entry member
  rw [bne_iff_ne]
  intro same
  exact outside (same ▸ List.mem_map.mpr ⟨entry, member, rfl⟩)

theorem tasks_insert (registry : Registry) (context : String) (entry : Entry) :
    (registry.insert context entry).tasks =
      entry.animator.task.toList ++ (registry.erase context).tasks := by
  unfold tasks insert
  rw [List.filterMap_cons]
  cases entry.animator.task <;> rfl

theorem count_tasks {registry : Registry} (distinct : registry.Distinct) {context : String}
    {entry : Entry} (found : registry.find? context = some entry) (loop : Nat) :
    registry.tasks.count loop =
      entry.animator.task.toList.count loop + (registry.erase context).tasks.count loop := by
  obtain ⟨before, after, split⟩ := List.append_of_mem (mem_of_find? found)
  have unique := distinct
  unfold Distinct contexts at unique
  rw [split, List.map_append, List.map_cons, List.nodup_append, List.nodup_cons] at unique
  have keepBefore : before.filter (fun other => other.1 != context) = before := by
    apply List.filter_eq_self.mpr
    intro other member
    have differ := unique.2.2 other.1 (List.mem_map.mpr ⟨other, member, rfl⟩) context (by simp)
    simpa using differ
  have keepAfter : after.filter (fun other => other.1 != context) = after := by
    apply List.filter_eq_self.mpr
    intro other member
    rw [bne_iff_ne]
    intro same
    exact unique.2.1.1 (same ▸ List.mem_map.mpr ⟨other, member, rfl⟩)
  have others : (registry.erase context).entries = before ++ after := by
    simp [erase, split, List.filter_append, keepBefore, keepAfter]
  simp only [tasks, split, others, List.filterMap_append, List.filterMap_cons, List.count_append]
  cases entry.animator.task with
  | none => simp
  | some task =>
      simp only [Option.toList_some, List.count_cons, List.count_nil]
      omega

theorem running_eq_length {registry : Registry}
    (staffed : ∀ entry ∈ registry.entries, entry.2.animator.task ≠ none) :
    registry.running = registry.contexts.length := by
  have every : registry.entries.filter (fun entry => entry.2.animator.phase == .running) =
      registry.entries := by
    apply List.filter_eq_self.mpr
    intro entry member
    rw [beq_iff_eq, Animator.phase_eq_running_iff, Option.isSome_iff_ne_none]
    exact staffed entry member
  unfold running contexts
  rw [every, List.length_map]

end Marquee.Registry
