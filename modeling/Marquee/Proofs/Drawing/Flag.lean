import Mathlib.Algebra.Group.Nat.Defs
import Marquee.Button.Face

/-!
The flag of a button and the image that the button shows. As long as no more generations are raised
than there are numbers for, raising the flag sets it and clearing the newest generation clears it.
-/

namespace Marquee.ChangeFlag

theorem pending_eq_some {flag : ChangeFlag} {generation : UInt64}
    (pending : flag.pending = some generation) : generation = flag.raised := by
  unfold ChangeFlag.pending pendingAt at pending
  split at pending
  · cases pending
  · exact (Option.some.inj pending).symm

theorem isSet_eq_false_iff (flag : ChangeFlag) :
    flag.isSet = false ↔ flag.raised = flag.consumed := by
  rw [← Bool.not_eq_true, isSet_iff, Decidable.not_not]

theorem raised_raise {flag : ChangeFlag} (bounded : flag.raised.toNat + 1 < 2 ^ 64) :
    flag.raise.raised.toNat = flag.raised.toNat + 1 := by
  change (flag.raised + 1).toNat = _
  rw [UInt64.toNat_add]
  exact Nat.mod_eq_of_lt bounded

theorem consumed_consume {flag : ChangeFlag} {generation : UInt64}
    (newer : flag.consumed.toNat ≤ generation.toNat) :
    (flag.consume generation).consumed = generation :=
  if_pos (UInt64.le_iff_toNat_le.mpr newer)

/-- A flag that was raised at most `count` times, and what the host was handed last: once the flag
is clear, this is the image. -/
structure Settles (flag : ChangeFlag) (count : Nat) (shown : Option String) (image : String) :
    Prop where
  behind : flag.consumed.toNat ≤ flag.raised.toNat
  counted : flag.raised.toNat ≤ count
  shown : flag.isSet = false → shown = some image

variable {flag : ChangeFlag} {count : Nat} {shown : Option String} {image : String}

theorem settles_raise (behind : flag.consumed.toNat ≤ flag.raised.toNat)
    (counted : flag.raised.toNat ≤ count) (bounded : count + 1 < 2 ^ 64) (shown : Option String)
    (image : String) : flag.raise.Settles (count + 1) shown image := by
  have within : flag.raised.toNat + 1 < 2 ^ 64 := by omega
  have raised := raised_raise within
  have same : flag.raise.consumed = flag.consumed := rfl
  refine ⟨?_, by omega, ?_⟩
  · rw [same]
    omega
  · intro clear
    have newest := (isSet_eq_false_iff _).mp clear
    rw [newest, same] at raised
    omega

theorem settles_fresh (bounded : count + 1 < 2 ^ 64) (shown : Option String) (image : String) :
    ({} : ChangeFlag).raise.Settles (count + 1) shown image := by
  have none : ({} : ChangeFlag).raised.toNat = 0 := rfl
  exact settles_raise (Nat.le_refl _) (none ▸ Nat.zero_le count) bounded shown image

theorem settles_consume (behind : flag.consumed.toNat ≤ flag.raised.toNat)
    (counted : flag.raised.toNat ≤ count) (handed : shown = some image) :
    (flag.consume flag.raised).Settles count shown image := by
  refine ⟨?_, counted, fun _ => handed⟩
  rw [consumed_consume behind]
  exact Nat.le_refl _

theorem isSet_consume (behind : flag.consumed.toNat ≤ flag.raised.toNat) :
    (flag.consume flag.raised).isSet = false := by
  rw [isSet_eq_false_iff, consumed_consume behind]
  rfl

theorem Settles.later {laterCount : Nat} {laterShown : Option String}
    (settles : flag.Settles count shown image) (counts : count ≤ laterCount)
    (handed : laterShown = shown ∨ laterShown = some image) :
    flag.Settles laterCount laterShown image := by
  refine ⟨settles.behind, Nat.le_trans settles.counted counts, ?_⟩
  intro clear
  rcases handed with same | again
  · exact same.trans (settles.shown clear)
  · exact again

end Marquee.ChangeFlag
