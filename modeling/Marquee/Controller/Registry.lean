import Marquee.Button.Animator

/-!
The registry of buttons: the face and the animator of every button that is on the deck, by its
context.
-/

namespace Marquee

structure Entry where
  /-- The number of the button's face. -/
  face : Nat
  animator : Animator := {}
deriving DecidableEq, Repr, Inhabited

/-- Every context occurs at most once. -/
structure Registry where
  entries : List (String × Entry) := []
deriving DecidableEq, Repr, Inhabited

namespace Registry

def find? (registry : Registry) (context : String) : Option Entry := registry.entries.lookup context

def erase (registry : Registry) (context : String) : Registry :=
  ⟨registry.entries.filter fun entry => entry.1 != context⟩

def insert (registry : Registry) (context : String) (entry : Entry) : Registry :=
  ⟨(context, entry) :: (registry.erase context).entries⟩

def contexts (registry : Registry) : List String := registry.entries.map Prod.fst

def faces (registry : Registry) : List Nat := registry.entries.map fun entry => entry.2.face

def tasks (registry : Registry) : List Nat :=
  registry.entries.filterMap fun entry => entry.2.animator.task

def running (registry : Registry) : Nat :=
  (registry.entries.filter fun entry => entry.2.animator.phase == .running).length

theorem find?_insert_self (registry : Registry) (context : String) (entry : Entry) :
    (registry.insert context entry).find? context = some entry := by
  simp [find?, insert]

theorem find?_erase_self (registry : Registry) (context : String) :
    (registry.erase context).find? context = none := by
  simp only [find?, erase, List.lookup_eq_none_iff, List.mem_filter, bne_iff_ne]
  intro entry found
  exact fun same => found.2 same.symm

theorem find?_erase_other (registry : Registry) {context other : String}
    (differ : other ≠ context) : (registry.erase context).find? other = registry.find? other := by
  simp only [find?, erase]
  induction registry.entries with
  | nil => rfl
  | cons entry rest ih =>
    by_cases same : entry.1 = context
    · have unlike : (other == entry.1) = false := by simp [same, differ]
      simp only [List.filter_cons, same, bne_self_eq_false, Bool.false_eq_true, if_false, ih]
      rw [List.lookup_cons, unlike]
    · simp only [List.filter_cons, bne_iff_ne.mpr same, if_true]
      rw [List.lookup_cons, List.lookup_cons, ih]

theorem find?_insert_other (registry : Registry) {context other : String} (entry : Entry)
    (differ : other ≠ context) :
    (registry.insert context entry).find? other = registry.find? other := by
  have unlike : (other == context) = false := by simp [differ]
  rw [← find?_erase_other registry differ]
  simp [find?, insert, List.lookup_cons, unlike]

end Registry

end Marquee
