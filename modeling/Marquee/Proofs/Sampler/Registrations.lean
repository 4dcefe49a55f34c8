import Mathlib.Data.List.Nodup
import Mathlib.Data.List.Perm.Basic
import Marquee.Proofs.Sampler.Listening

/-!
Registrations as goods that pass from hand to hand. Every number the source gave out is in force or
was ended, a registration in force is held by the sampler or in the hand of one call, and it is for
one of the topics of the place that holds it.
-/

namespace Marquee

namespace Source

def numbers (source : Source) : List Nat := source.live.map Registration.number

def Issued (source : Source) : Prop :=
  (source.numbers ++ source.revoked).Perm (List.range source.next)

def Stamped (source : Source) (numbers : List Nat) (topics : List Topic) : Prop :=
  ∀ registration ∈ source.live, registration.number ∈ numbers →
    (registration.number, registration.topic) ∈ numbers.zip topics

structure Follows (before after : Source) : Prop where
  fresh : ∀ registration ∈ after.live,
    registration ∈ before.live ∨ before.next ≤ registration.number
  next : before.next ≤ after.next

theorem Follows.refl (source : Source) : Follows source source :=
  ⟨fun _ member => Or.inl member, Nat.le_refl _⟩

theorem SameLedger.follows {before after : Source} (same : SameLedger before after) :
    Follows before after := by
  refine ⟨?_, Nat.le_of_eq same.next.symm⟩
  intro registration member
  rw [same.live] at member
  exact Or.inl member

theorem Stamped.follows {before after : Source} {numbers : List Nat} {topics : List Topic}
    (stamped : before.Stamped numbers topics) (known : ∀ number ∈ numbers, number < before.next)
    (follows : Follows before after) : after.Stamped numbers topics := by
  intro registration member among
  have old := known registration.number among
  rcases follows.fresh registration member with before | new
  · exact stamped registration before among
  · omega

theorem stamped_nil (source : Source) (topics : List Topic) : source.Stamped [] topics :=
  fun _ _ among => absurd among List.not_mem_nil

theorem Issued.nodup {source : Source} (issued : source.Issued) :
    (source.numbers ++ source.revoked).Nodup := issued.symm.nodup List.nodup_range

theorem Issued.lt_next {source : Source} (issued : source.Issued) {number : Nat}
    (member : number ∈ source.numbers) : number < source.next :=
  List.mem_range.mp (issued.subset (List.mem_append_left _ member))

theorem live_granted (source : Source) (call : SourceCall) (topics : List Topic) :
    (source.granted call topics).live = source.live ++
      ((List.range' source.next topics.length).zip topics).map fun pair => ⟨pair.1, pair.2⟩ := by
  change (topics.foldl register (source.note call)).live = (source.note call).live ++
    ((List.range' (source.note call).next topics.length).zip topics).map
      fun pair => ⟨pair.1, pair.2⟩
  generalize source.note call = source
  induction topics generalizing source with
  | nil => simp
  | cons topic rest ih =>
      rw [List.foldl_cons, ih]
      simp [register, List.range'_succ]

theorem next_granted (source : Source) (call : SourceCall) (topics : List Topic) :
    (source.granted call topics).next = source.next + topics.length := by
  change (topics.foldl register (source.note call)).next = (source.note call).next + topics.length
  generalize source.note call = source
  induction topics generalizing source with
  | nil => rfl
  | cons topic rest ih =>
      rw [List.foldl_cons, ih]
      simp only [register, List.length_cons]
      omega

theorem revoked_granted (source : Source) (call : SourceCall) (topics : List Topic) :
    (source.granted call topics).revoked = source.revoked := by
  change (topics.foldl register (source.note call)).revoked = (source.note call).revoked
  generalize source.note call = source
  induction topics generalizing source with
  | nil => rfl
  | cons topic rest ih => exact ih (source.register topic)

theorem numbers_granted (source : Source) (call : SourceCall) (topics : List Topic) :
    (source.granted call topics).numbers =
      source.numbers ++ List.range' source.next topics.length := by
  have first : ((List.range' source.next topics.length).zip topics).map Prod.fst =
      List.range' source.next topics.length := List.map_fst_zip (by simp)
  rw [numbers, live_granted, List.map_append, List.map_map]
  exact congrArg (source.numbers ++ ·) first

theorem issued_granted {source : Source} (issued : source.Issued) (call : SourceCall)
    (topics : List Topic) : (source.granted call topics).Issued := by
  unfold Issued
  rw [numbers_granted, revoked_granted, next_granted, List.perm_iff_count]
  intro number
  have before := issued.count_eq number
  have split : List.range (source.next + topics.length) =
      List.range source.next ++ List.range' source.next topics.length := by
    have joined := @List.range'_append_1 0 source.next topics.length
    rw [Nat.zero_add] at joined
    rw [List.range_eq_range', List.range_eq_range', joined]
  rw [split]
  simp only [List.count_append] at before ⊢
  omega

theorem follows_granted (source : Source) (call : SourceCall) (topics : List Topic) :
    Follows source (source.granted call topics) := by
  constructor
  · intro registration member
    rw [live_granted] at member
    rcases List.mem_append.mp member with known | new
    · exact Or.inl known
    · obtain ⟨pair, paired, same⟩ := List.mem_map.mp new
      right
      rw [← same]
      exact (List.mem_range'_1.mp (List.of_mem_zip paired).1).1
  · rw [next_granted]
    omega

theorem stamped_granted {source : Source} (issued : source.Issued) (call : SourceCall)
    (topics : List Topic) :
    (source.granted call topics).Stamped (List.range' source.next topics.length) topics := by
  intro registration member among
  rw [live_granted] at member
  rcases List.mem_append.mp member with known | new
  · have old := issued.lt_next (List.mem_map_of_mem known)
    have fresh := (List.mem_range'_1.mp among).1
    omega
  · obtain ⟨pair, paired, same⟩ := List.mem_map.mp new
    rw [← same]
    exact paired

theorem live_revoke (source : Source) (number : Nat) :
    (source.revoke number).live = source.live.filter (·.number != number) := by
  unfold revoke
  split
  · rename_i absent
    symm
    rw [List.filter_eq_self]
    intro registration member
    simpa using List.find?_eq_none.mp absent registration member
  · rfl

theorem next_revoke (source : Source) (number : Nat) :
    (source.revoke number).next = source.next := by
  unfold revoke
  split <;> rfl

theorem follows_revoke (source : Source) (number : Nat) :
    Follows source (source.revoke number) := by
  constructor
  · intro registration member
    rw [live_revoke] at member
    exact Or.inl (List.mem_filter.mp member).1
  · exact Nat.le_of_eq (next_revoke source number).symm

theorem numbers_revoke (source : Source) (number : Nat) :
    (source.revoke number).numbers = source.numbers.filter (· != number) := by
  simp only [numbers, live_revoke, List.filter_map]
  rfl

theorem revoked_revoke {source : Source} {number : Nat} (live : number ∈ source.numbers) :
    (source.revoke number).revoked = source.revoked ++ [number] := by
  obtain ⟨registration, member, same⟩ := List.mem_map.mp live
  unfold revoke
  split
  · rename_i absent
    have differs := List.find?_eq_none.mp absent registration member
    simp [same] at differs
  · rfl

theorem issued_revoke {source : Source} (issued : source.Issued) {number : Nat}
    (live : number ∈ source.numbers) : (source.revoke number).Issued := by
  unfold Issued
  rw [numbers_revoke, revoked_revoke live, next_revoke, List.perm_iff_count]
  intro other
  have before := issued.count_eq other
  have once := (List.nodup_iff_count_le_one.mp issued.nodup) number
  have present := List.count_pos_iff.mpr live
  simp only [List.count_append] at before once ⊢
  by_cases same : other = number
  · have gone : (source.numbers.filter (· != number)).count other = 0 := by
      simp [List.count_eq_zero, same]
    subst same
    simp only [gone, List.count_singleton_self]
    omega
  · have kept : (source.numbers.filter (· != number)).count other =
        source.numbers.count other := List.count_filter (by simpa using same)
    have apart : [number].count other = 0 := by
      simpa [List.count_eq_zero] using same
    omega

end Source

namespace Listener

structure Kept (listener : Listener) (inHand : List Nat) : Prop where
  issued : listener.sampler.source.Issued
  owned : listener.sampler.source.numbers.Perm (listener.sampler.held ++ inHand)
  noted : listener.ended = listener.sampler.source.revoked
  distinct : listener.sampler.subscribed.Nodup
  manager : listener.sampler.source.Stamped listener.sampler.manager Topic.ofManager
  sessions : ∀ entry ∈ listener.sampler.sessions,
    listener.sampler.source.Stamped entry.2 (Topic.ofSession entry.1)

variable {listener : Listener} {inHand : List Nat}

theorem Kept.lt_next (kept : listener.Kept inHand) {number : Nat}
    (member : number ∈ listener.sampler.held ++ inHand) :
    number < listener.sampler.source.next :=
  kept.issued.lt_next (kept.owned.symm.subset member)

theorem Kept.lt_next_manager (kept : listener.Kept inHand) :
    ∀ number ∈ listener.sampler.manager, number < listener.sampler.source.next :=
  fun _ member => kept.lt_next (List.mem_append_left _ (List.mem_append_left _ member))

theorem Kept.lt_next_session (kept : listener.Kept inHand) {entry : String × List Nat}
    (held : entry ∈ listener.sampler.sessions) :
    ∀ number ∈ entry.2, number < listener.sampler.source.next := by
  intro number member
  have among : number ∈ listener.sampler.sessions.flatMap Prod.snd :=
    List.mem_flatMap.mpr ⟨entry, held, member⟩
  exact kept.lt_next (List.mem_append_left _ (List.mem_append_right _ among))

theorem Kept.perm (kept : listener.Kept inHand) {other : List Nat} (same : inHand.Perm other) :
    listener.Kept other :=
  { kept with owned := kept.owned.trans (same.append_left _) }

theorem Kept.same (kept : listener.Kept inHand) {after : Listener}
    (same : Sampler.SameHoldings listener.sampler after.sampler)
    (ended : after.ended = listener.ended) : after.Kept inHand := by
  have numbers : after.sampler.source.numbers = listener.sampler.source.numbers := by
    simp only [Source.numbers, same.source.live]
  have follows := same.source.follows
  refine ⟨?_, ?_, ?_, ?_, ?_, ?_⟩
  · unfold Source.Issued
    rw [numbers, same.source.revoked, same.source.next]
    exact kept.issued
  · simp only [Sampler.held]
    rw [numbers, same.manager, same.sessions]
    exact kept.owned
  · rw [ended, same.source.revoked]
    exact kept.noted
  · simp only [Sampler.subscribed]
    rw [same.sessions]
    exact kept.distinct
  · rw [same.manager]
    exact kept.manager.follows kept.lt_next_manager follows
  · rw [same.sessions]
    intro entry held
    exact (kept.sessions entry held).follows (kept.lt_next_session held) follows

theorem Kept.grant (kept : listener.Kept inHand) (call : SourceCall) (topics : List Topic)
    (granted : List (List Nat)) :
    Kept { listener with
      sampler := { listener.sampler with source := listener.sampler.source.granted call topics }
      granted := granted }
      (List.range' listener.sampler.source.next topics.length ++ inHand) := by
  have follows := listener.sampler.source.follows_granted call topics
  refine ⟨Source.issued_granted kept.issued call topics, ?_, ?_, kept.distinct, ?_, ?_⟩
  · simp only [Source.numbers_granted]
    rw [List.perm_iff_count]
    intro number
    have before := kept.owned.count_eq number
    simp only [List.count_append, Sampler.held] at before ⊢
    omega
  · exact kept.noted.trans (Source.revoked_granted _ call topics).symm
  · exact kept.manager.follows kept.lt_next_manager follows
  · intro entry held
    exact (kept.sessions entry held).follows (kept.lt_next_session held) follows

theorem Kept.install {numbers : List Nat} (kept : listener.Kept (numbers ++ inHand))
    (stamped : listener.sampler.source.Stamped numbers Topic.ofManager)
    (granted : List (List Nat)) :
    Kept { listener with
      sampler := { listener.sampler with manager := numbers }, granted := granted }
      (listener.sampler.manager ++ inHand) := by
  refine ⟨kept.issued, ?_, kept.noted, kept.distinct, stamped, kept.sessions⟩
  rw [List.perm_iff_count]
  intro number
  have before := kept.owned.count_eq number
  simp only [List.count_append, Sampler.held] at before ⊢
  omega

theorem Kept.hold {numbers : List Nat} (kept : listener.Kept (numbers ++ inHand)) {id : String}
    (absent : id ∉ listener.sampler.subscribed)
    (stamped : listener.sampler.source.Stamped numbers (Topic.ofSession id)) :
    Kept { listener with
      sampler := { listener.sampler with
        sessions := listener.sampler.sessions ++ [(id, numbers)] } } inHand := by
  refine ⟨kept.issued, ?_, kept.noted, ?_, kept.manager, ?_⟩
  · rw [List.perm_iff_count]
    intro number
    have before := kept.owned.count_eq number
    simp only [List.count_append, Sampler.held, List.flatMap_append, List.flatMap_cons,
      List.flatMap_nil, List.append_nil] at before ⊢
    omega
  · simp only [Sampler.subscribed, List.map_append, List.map_cons, List.map_nil]
    rw [List.nodup_append]
    refine ⟨kept.distinct, List.nodup_singleton id, ?_⟩
    intro known member other among
    rw [List.mem_singleton.mp among]
    exact fun same => absent (same ▸ member)
  · intro entry member
    rcases List.mem_append.mp member with known | new
    · exact kept.sessions entry known
    · rw [List.mem_singleton.mp new]
      exact stamped

/-- A registration in hand is ended. It is in force until then. -/
theorem Kept.letGo {number : Nat} (kept : listener.Kept (number :: inHand)) :
    (listener.letGo number).Kept inHand := by
  -- In hand means in force: the source does end it, and notes that.
  have live : number ∈ listener.sampler.source.numbers :=
    kept.owned.symm.subset (List.mem_append_right _ List.mem_cons_self)
  have follows := listener.sampler.source.follows_revoke number
  refine ⟨Source.issued_revoke kept.issued live, ?_, ?_, kept.distinct, ?_, ?_⟩
  · change (listener.sampler.source.revoke number).numbers.Perm (listener.sampler.held ++ inHand)
    rw [Source.numbers_revoke, List.perm_iff_count]
    intro other
    have before := kept.owned.count_eq other
    have once := (List.nodup_iff_count_le_one.mp (kept.issued.nodup.of_append_left)) number
    simp only [List.count_append, List.count_cons] at before ⊢
    by_cases same : other = number
    · subst same
      have gone : (listener.sampler.source.numbers.filter (· != other)).count other = 0 := by
        simp [List.count_eq_zero]
      simp only [beq_self_eq_true, if_true] at before
      omega
    · have unlike : (number == other) = false := by simpa using Ne.symm same
      rw [List.count_filter (by simpa using same)]
      simp only [unlike, Bool.false_eq_true, if_false] at before
      omega
  · change listener.ended ++ [number] = (listener.sampler.source.revoke number).revoked
    rw [Source.revoked_revoke live, kept.noted]
  · exact kept.manager.follows kept.lt_next_manager follows
  · intro entry held
    exact (kept.sessions entry held).follows (kept.lt_next_session held) follows

theorem Kept.letGoAll {numbers : List Nat} (kept : listener.Kept (numbers ++ inHand)) :
    Kept { listener with
      sampler := listener.sampler.revokeAll numbers, ended := listener.ended ++ numbers }
      inHand := by
  induction numbers generalizing listener with
  | nil =>
      rw [List.append_nil]
      exact kept
  | cons number rest ih =>
      have later := ih kept.letGo
      simp only [Listener.letGo, List.append_assoc, List.singleton_append] at later
      exact later

theorem Kept.part (kept : listener.Kept inHand) (stays : String × List Nat → Bool)
    (locked : Bool) :
    Kept { listener with
      sampler := { listener.sampler with
        sessions := listener.sampler.sessions.filter stays }, locked := locked }
      ((listener.sampler.sessions.filter fun entry => !stays entry).flatMap Prod.snd ++
        inHand) := by
  have parted := (List.filter_append_perm stays listener.sampler.sessions).flatMap_right Prod.snd
  refine ⟨kept.issued, ?_, kept.noted, ?_, kept.manager, ?_⟩
  · rw [List.perm_iff_count]
    intro number
    have before := kept.owned.count_eq number
    have split := parted.count_eq number
    simp only [List.count_append, Sampler.held, List.flatMap_append] at before split ⊢
    omega
  · exact (List.filter_sublist.map Prod.fst).nodup kept.distinct
  · intro entry member
    exact kept.sessions entry (List.mem_filter.mp member).1

end Listener

end Marquee
