import Marquee.Proofs.Sampler.Holdings

/-!
What the sampler holds after it was brought in line with the source. The result is described as a
set, with no word on the order in which sessions are held. Going through the list keeps one
invariant, which says what the sessions gone through so far have come to.
-/

namespace Marquee

namespace Source

theorem calls_revoke {source : Source} {number : Nat} (live : number ∈ source.numbers) :
    ∃ topic, ⟨number, topic⟩ ∈ source.live ∧
      (source.revoke number).calls = source.calls ++ [.revoke topic] := by
  obtain ⟨registration, member, same⟩ := List.mem_map.mp live
  unfold revoke
  split
  · rename_i absent
    have differs := List.find?_eq_none.mp absent registration member
    simp [same] at differs
  · rename_i found present
    have number : found.number = number := by simpa using List.find?_some present
    refine ⟨found.topic, ?_, rfl⟩
    rw [← number]
    exact List.mem_of_find?_eq_some present

structure Ended (before after : Source) (numbers : List Nat) : Prop where
  live : ∀ registration, registration ∈ after.live ↔
    registration ∈ before.live ∧ registration.number ∉ numbers
  next : after.next = before.next
  revoked : after.revoked = before.revoked ++ numbers
  calls : ∃ topic : Nat → Topic, (∀ number ∈ numbers, ⟨number, topic number⟩ ∈ before.live) ∧
    after.calls = before.calls ++ numbers.map fun number => .revoke (topic number)

theorem ended_revokeAll {source : Source} {numbers : List Nat} (distinct : numbers.Nodup)
    (live : ∀ number ∈ numbers, number ∈ source.numbers) :
    source.Ended (source.revokeAll numbers) numbers := by
  induction numbers generalizing source with
  | nil => exact ⟨by simp [revokeAll], rfl, by simp [revokeAll], fun _ => .current, by simp [revokeAll]⟩
  | cons number rest ih =>
      obtain ⟨fresh, others⟩ := List.nodup_cons.mp distinct
      have first := live number List.mem_cons_self
      have unlike : ∀ other ∈ rest, other ≠ number := fun other member same => fresh (same ▸ member)
      have still : ∀ other ∈ rest, other ∈ (source.revoke number).numbers := by
        intro other member
        rw [numbers_revoke, List.mem_filter]
        exact ⟨live other (List.mem_cons_of_mem _ member), by simpa using unlike other member⟩
      have later := ih others still
      obtain ⟨topic, held, called⟩ := calls_revoke first
      obtain ⟨topics, paired, calls⟩ := later.calls
      constructor
      · intro registration
        refine (later.live registration).trans ?_
        rw [mem_live_revoke, List.mem_cons, not_or, and_assoc]
      · exact later.next.trans (source.next_revoke number)
      · refine later.revoked.trans ?_
        rw [revoked_revoke first, List.append_assoc, List.singleton_append]
      · refine ⟨fun other => if other = number then topic else topics other, ?_, ?_⟩
        · intro other member
          rcases List.mem_cons.mp member with rfl | among
          · simpa using held
          · simpa [unlike other among] using ((mem_live_revoke source number _).mp
              (paired other among)).1
        · have same : rest.map (fun other => SourceCall.revoke (topics other)) =
              rest.map fun other => .revoke (if other = number then topic else topics other) :=
            List.map_congr_left fun other among => by rw [if_neg (unlike other among)]
          refine calls.trans ?_
          simp only [called, same, List.map_cons, if_true, List.append_assoc,
            List.singleton_append]

theorem calls_granted (source : Source) (call : SourceCall) (topics : List Topic) :
    (source.granted call topics).calls = source.calls ++ [call] := by
  change (topics.foldl register (source.note call)).calls = (source.note call).calls
  generalize source.note call = source
  induction topics generalizing source with
  | nil => rfl
  | cons topic rest ih => exact ih (source.register topic)

theorem Follows.trans {first second third : Source} (earlier : Follows first second)
    (later : Follows second third) : Follows first third := by
  refine ⟨?_, Nat.le_trans earlier.next later.next⟩
  intro registration member
  rcases later.fresh registration member with known | new
  · exact earlier.fresh registration known
  · exact Or.inr (Nat.le_trans earlier.next new)

end Source

namespace Sampler

structure Orderly (sampler : Sampler) : Prop where
  distinct : sampler.subscribed.Nodup
  single : sampler.held.Nodup
  live : ∀ number ∈ sampler.held, number ∈ sampler.source.numbers
  known : ∀ number ∈ sampler.source.numbers, number < sampler.source.next

/-- The requests for single sessions that a list asks for, where those of `past` were gone through.
An id is passed over if it was subscribed before, or got its registrations at an earlier place. -/
def attempts (sampler : Sampler) (past : List String) : List String → List String
  | [] => []
  | id :: rest =>
    let others := sampler.attempts (past ++ [id]) rest
    if id ∈ sampler.subscribed ∨ id ∈ past ∧ .session id ∉ sampler.source.failing then
      others
    else
      id :: others

theorem attempts_append (sampler : Sampler) (past first second : List String) :
    sampler.attempts past (first ++ second) =
      sampler.attempts past first ++ sampler.attempts (past ++ first) second := by
  induction first generalizing past with
  | nil => simp [attempts]
  | cons id rest ih =>
      simp only [List.cons_append, attempts, ih, List.append_assoc, List.nil_append]
      split <;> rfl

theorem attempts_sublist (sampler : Sampler) (past ids : List String) :
    (sampler.attempts past ids).Sublist ids := by
  induction ids generalizing past with
  | nil => exact List.Sublist.slnil
  | cons id rest ih =>
      simp only [attempts]
      split
      · exact (ih _).cons id
      · exact (ih _).cons_cons id

theorem mem_attempts (sampler : Sampler) (past ids : List String) (id : String) :
    id ∈ sampler.attempts past ids ↔ id ∈ ids ∧ id ∉ sampler.subscribed ∧
      (id ∈ past → .session id ∈ sampler.source.failing) := by
  induction ids generalizing past with
  | nil => simp [attempts]
  | cons first rest ih =>
      simp only [attempts]
      by_cases same : id = first
      · subst same
        split
        · simp_all
          tauto
        · simp_all
      · split <;> simp [ih, same]

theorem count_attempts_failing (sampler : Sampler) (past ids : List String) {id : String}
    (absent : id ∉ sampler.subscribed) (fails : .session id ∈ sampler.source.failing) :
    (sampler.attempts past ids).count id = ids.count id := by
  induction ids generalizing past with
  | nil => rfl
  | cons first rest ih =>
      simp only [attempts]
      by_cases same : first = id
      · subst same
        simp [absent, fails, ih]
      · split <;> simp [ih, same]

theorem count_attempts_working (sampler : Sampler) (past ids : List String) {id : String}
    (works : .session id ∉ sampler.source.failing) :
    (sampler.attempts past ids).count id ≤ 1 := by
  induction ids generalizing past with
  | nil => exact Nat.zero_le _
  | cons first rest ih =>
      simp only [attempts]
      split
      · exact ih _
      · by_cases same : first = id
        · subst same
          have none : first ∉ sampler.attempts (past ++ [first]) rest := by
            simp [mem_attempts, works]
          have others := List.count_eq_zero.mpr none
          rw [List.count_cons_self]
          omega
        · rw [List.count_cons_of_ne same]
          exact ih _

theorem mem_isListed (sessions : List Session) (id : String) :
    isListed sessions id = true ↔ id ∈ sessions.map Session.id := by
  simp [isListed]

theorem source_foldl {α : Type} {change : Sampler → α → Sampler}
    (same : ∀ sampler item, (change sampler item).source = sampler.source) (sampler : Sampler)
    (items : List α) : (items.foldl change sampler).source = sampler.source := by
  induction items generalizing sampler with
  | nil => rfl
  | cons item rest ih => exact (ih (change sampler item)).trans (same sampler item)

theorem source_dropUnlisted (sampler : Sampler) (sessions : List Session) :
    (sampler.dropUnlisted sessions).1.source = sampler.source := by
  simp only [dropUnlisted]
  rw [source_foldl]
  exact fun _ _ => rfl

theorem source_listSessions (sampler : Sampler) :
    sampler.listSessions.1.source = sampler.source.note .sessions := by
  simp only [listSessions]
  split
  · rfl
  · rw [source_foldl]
    · rfl
    · exact fun _ _ => rfl

theorem listSessions_failing {sampler : Sampler} (fails : .sessions ∈ sampler.source.failing) :
    sampler.listSessions =
      ((sampler.ask .sessions).noteFailure "listing media sessions failed" .sessions, none) := by
  simp only [listSessions, Source.readSessions, Source.answer, if_pos fails]
  rfl

theorem listSessions_working {sampler : Sampler} (works : .sessions ∉ sampler.source.failing) :
    sampler.listSessions.2 = some sampler.source.sessions := by
  simp only [listSessions, Source.readSessions, Source.answer, if_neg works]

def gain (sampler : Sampler) (id : String) : Sampler :=
  { sampler with
    source := sampler.source.granted (.subscribe id) (Topic.ofSession id)
    sessions := sampler.sessions ++ [(id, List.range' sampler.source.next 2)] }

@[simp] theorem subscribed_gain (sampler : Sampler) (id : String) :
    (sampler.gain id).subscribed = sampler.subscribed ++ [id] := by
  simp [gain, subscribed]

@[simp] theorem held_gain (sampler : Sampler) (id : String) :
    (sampler.gain id).held = sampler.held ++ List.range' sampler.source.next 2 := by
  simp [gain, held, List.append_assoc]

@[simp] theorem numbers_gain (sampler : Sampler) (id : String) :
    (sampler.gain id).source.numbers =
      sampler.source.numbers ++ List.range' sampler.source.next 2 :=
  sampler.source.numbers_granted (.subscribe id) (Topic.ofSession id)

theorem live_subset_gain (sampler : Sampler) (id : String) :
    sampler.source.live ⊆ (sampler.gain id).source.live := by
  rw [gain, Source.live_granted]
  exact List.subset_append_left _ _

/-- Each topic of a session that was gained has a registration of its own, newer than all others. -/
theorem forall₂_gain (sampler : Sampler) (id : String) :
    List.Forall₂ (fun number topic => sampler.source.next ≤ number ∧
        ⟨number, topic⟩ ∈ (sampler.gain id).source.live)
      (List.range' sampler.source.next 2) (Topic.ofSession id) := by
  simp only [gain, Source.live_granted, List.range'_succ, List.range'_zero, Topic.ofSession]
  refine .cons ⟨Nat.le_refl _, ?_⟩ (.cons ⟨Nat.le_succ _, ?_⟩ .nil) <;> simp [List.range'_succ]

/-- The three outcomes of adding a session: it is held, it is refused, or it is granted. -/
theorem addSession_cases (sampler : Sampler) (session : Session) :
    (session.id ∈ sampler.subscribed ∧ sampler.addSession session = sampler) ∨
    (session.id ∉ sampler.subscribed ∧ .session session.id ∈ sampler.source.failing ∧
      sampler.addSession session = (sampler.ask (.subscribe session.id)).note .warn
        "session subscription failed" [("session", .text session.id),
          ("error", .text (SourceRequest.session session.id).failure)]) ∨
    (session.id ∉ sampler.subscribed ∧ .session session.id ∉ sampler.source.failing ∧
      sampler.addSession session = (sampler.gain session.id).note .info
        "media session added" [("session", .text session.id)]) := by
  simp only [addSession, Source.subscribeSession_eq]
  by_cases known : session.id ∈ sampler.subscribed
  · exact Or.inl ⟨known, if_pos known⟩
  · rw [if_neg known]
    by_cases fails : .session session.id ∈ sampler.source.failing
    · rw [if_pos fails]
      exact Or.inr (Or.inl ⟨known, fails, rfl⟩)
    · rw [if_neg fails]
      exact Or.inr (Or.inr ⟨known, fails, rfl⟩)

def stale (sampler : Sampler) (sessions : List Session) : List Nat :=
  (sampler.sessions.filter fun entry => !isListed sessions entry.1).flatMap Prod.snd

/-- What has become of a sampler when the sessions `past` were gone through, while the registrations
`stale` are still in force. -/
structure Gained (before : Sampler) (sessions : List Session) (past : List String)
    (after : Sampler) : Prop where
  failing : after.source.failing = before.source.failing
  subscribed : ∀ id, id ∈ after.subscribed ↔ isListed sessions id = true ∧
    (id ∈ before.subscribed ∨ id ∈ past ∧ .session id ∉ before.source.failing)
  distinct : after.subscribed.Nodup
  kept : ∀ entry ∈ before.sessions, isListed sessions entry.1 = true → entry ∈ after.sessions
  added : ∀ entry ∈ after.sessions, entry ∈ before.sessions ∨
    List.Forall₂ (fun number topic => before.source.next ≤ number ∧
      ⟨number, topic⟩ ∈ after.source.live) entry.2 (Topic.ofSession entry.1)
  manager : after.manager = before.manager
  live : before.source.live ⊆ after.source.live
  revoked : after.source.revoked = before.source.revoked
  calls : after.source.calls =
    before.source.calls ++ .sessions :: (before.attempts [] past).map .subscribe
  single : (after.held ++ before.stale sessions).Nodup
  owned : ∀ number ∈ after.held ++ before.stale sessions, number ∈ after.source.numbers
  known : ∀ number ∈ after.source.numbers, number < after.source.next
  follows : Source.Follows before.source after.source

theorem mem_held (sampler : Sampler) (number : Nat) :
    number ∈ sampler.held ↔
      number ∈ sampler.manager ∨ ∃ entry ∈ sampler.sessions, number ∈ entry.2 := by
  simp [held, List.mem_flatMap]

theorem held_parted (sampler : Sampler) (sessions : List Session) :
    (({ sampler with
      sessions := sampler.sessions.filter fun entry => isListed sessions entry.1 } : Sampler).held ++
        sampler.stale sessions).Perm sampler.held := by
  have parted := (List.filter_append_perm (fun entry => isListed sessions entry.1)
    sampler.sessions).flatMap_right Prod.snd
  rw [List.flatMap_append] at parted
  simp only [held, stale, List.append_assoc]
  exact parted.append_left _

theorem gained_dropUnlisted {sampler : Sampler} (orderly : sampler.Orderly)
    (sessions : List Session) :
    sampler.Gained sessions [] (sampler.listSessions.1.dropUnlisted sessions).1 := by
  have listing := sampler.sameHoldings_listSessions
  have dropped := sampler.listSessions.1.sameHoldings_dropUnlisted sessions
  have source : (sampler.listSessions.1.dropUnlisted sessions).1.source =
      sampler.source.note .sessions :=
    (source_dropUnlisted _ _).trans sampler.source_listSessions
  have entries : (sampler.listSessions.1.dropUnlisted sessions).1.sessions =
      sampler.sessions.filter fun entry => isListed sessions entry.1 := by
    rw [dropped.sessions, listing.sessions]
  have manager : (sampler.listSessions.1.dropUnlisted sessions).1.manager = sampler.manager :=
    dropped.manager.trans listing.manager
  generalize (sampler.listSessions.1.dropUnlisted sessions).1 = after at *
  have parted := sampler.held_parted sessions
  have same : after.held = ({ sampler with
      sessions := sampler.sessions.filter fun entry => isListed sessions entry.1 } : Sampler).held := by
    simp only [held, entries, manager]
  rw [← same] at parted
  refine ⟨by rw [source]; rfl, ?_, ?_, ?_, ?_, manager, ?_, by rw [source]; rfl, ?_, ?_, ?_, ?_, ?_⟩
  · intro id
    simp only [subscribed, entries, List.mem_map, List.mem_filter, List.not_mem_nil, false_and,
      or_false]
    constructor
    · rintro ⟨entry, ⟨member, listed⟩, rfl⟩
      exact ⟨listed, entry, member, rfl⟩
    · rintro ⟨listed, entry, member, rfl⟩
      exact ⟨entry, ⟨member, listed⟩, rfl⟩
  · rw [subscribed, entries]
    exact (List.filter_sublist.map Prod.fst).nodup orderly.distinct
  · intro entry member listed
    rw [entries]
    exact List.mem_filter.mpr ⟨member, listed⟩
  · intro entry member
    rw [entries] at member
    exact Or.inl (List.mem_filter.mp member).1
  · rw [source]
    exact List.Subset.refl _
  · rw [source]
    rfl
  · exact parted.symm.nodup orderly.single
  · intro number member
    rw [source]
    exact orderly.live number (parted.subset member)
  · rw [source]
    exact orderly.known
  · rw [source]
    exact Source.SameLedger.follows ⟨rfl, rfl, rfl⟩

variable {before after : Sampler} {sessions : List Session} {past : List String}

theorem Gained.same {later : Sampler} (gained : before.Gained sessions past after)
    (same : SameHoldings after later) (failing : later.source.failing = after.source.failing)
    (calls : later.source.calls = after.source.calls) : before.Gained sessions past later := by
  have subscribed : later.subscribed = after.subscribed := congrArg (·.map Prod.fst) same.sessions
  have held : later.held = after.held := by simp only [held, same.manager, same.sessions]
  have numbers : later.source.numbers = after.source.numbers :=
    congrArg (·.map Registration.number) same.source.live
  constructor
  · exact failing.trans gained.failing
  · exact subscribed ▸ gained.subscribed
  · exact subscribed ▸ gained.distinct
  · exact same.sessions ▸ gained.kept
  · rw [same.sessions, same.source.live]
    exact gained.added
  · exact same.manager.trans gained.manager
  · exact same.source.live ▸ gained.live
  · exact same.source.revoked.trans gained.revoked
  · exact calls.trans gained.calls
  · exact held ▸ gained.single
  · rw [held, numbers]
    exact gained.owned
  · rw [numbers, same.source.next]
    exact gained.known
  · exact gained.follows.trans same.source.follows

/-- Whether an id is asked for depends on what was held before and on what came in since. -/
theorem Gained.attempts (gained : before.Gained sessions past after) {id : String}
    (listed : isListed sessions id = true) :
    before.attempts [] (past ++ [id]) =
      before.attempts [] past ++ if id ∈ after.subscribed then [] else [id] := by
  rw [attempts_append]
  simp only [Sampler.attempts, List.nil_append, gained.subscribed, listed, true_and]

theorem Gained.held_session (gained : before.Gained sessions past after) {id : String}
    (listed : isListed sessions id = true) (held : id ∈ after.subscribed) :
    before.Gained sessions (past ++ [id]) after := by
  refine { gained with subscribed := ?_, calls := ?_ }
  · intro other
    have known := ((gained.subscribed id).mp held).2
    rw [gained.subscribed]
    refine and_congr_right fun _ => ?_
    by_cases same : other = id
    · subst same
      simp only [List.mem_append, List.mem_singleton, or_true, true_and]
      tauto
    · simp [same]
  · rw [gained.attempts listed, if_pos held, List.append_nil]
    exact gained.calls

theorem Gained.refuse_session (gained : before.Gained sessions past after) {id : String}
    (listed : isListed sessions id = true) (absent : id ∉ after.subscribed)
    (fails : .session id ∈ before.source.failing) :
    before.Gained sessions (past ++ [id]) (after.ask (.subscribe id)) := by
  have follows : Source.Follows after.source (after.ask (.subscribe id)).source :=
    Source.SameLedger.follows ⟨rfl, rfl, rfl⟩
  refine { gained with
    subscribed := ?_, calls := ?_, follows := gained.follows.trans follows }
  · intro other
    refine (gained.subscribed other).trans (and_congr_right fun _ => ?_)
    by_cases same : other = id
    · subst same
      simp [fails]
    · simp [same]
  · change after.source.calls ++ [.subscribe id] = _
    rw [gained.attempts listed, if_neg absent, gained.calls, List.map_append, List.append_assoc]
    rfl

/-- The new registrations of a session come after all that were held. -/
theorem held_gain_perm (id : String) :
    ((after.gain id).held ++ before.stale sessions).Perm
      (after.held ++ before.stale sessions ++ List.range' after.source.next 2) := by
  simp only [held_gain, List.append_assoc]
  exact List.perm_append_comm.append_left _

theorem Gained.single_gain (gained : before.Gained sessions past after) (id : String) :
    ((after.gain id).held ++ before.stale sessions).Nodup := by
  refine (held_gain_perm id).symm.nodup
    (List.nodup_append.mpr ⟨gained.single, List.nodup_range', ?_⟩)
  intro old member new among same
  have low := gained.known old (gained.owned old member)
  have high := (List.mem_range'_1.mp among).1
  omega

theorem Gained.owned_gain (gained : before.Gained sessions past after) (id : String) :
    ∀ number ∈ (after.gain id).held ++ before.stale sessions,
      number ∈ (after.gain id).source.numbers := by
  intro number member
  rw [numbers_gain]
  rcases List.mem_append.mp ((held_gain_perm id).subset member) with old | new
  · exact List.mem_append_left _ (gained.owned number old)
  · exact List.mem_append_right _ new

theorem Gained.known_gain (gained : before.Gained sessions past after) (id : String) :
    ∀ number ∈ (after.gain id).source.numbers, number < (after.gain id).source.next := by
  have next : (after.gain id).source.next = after.source.next + 2 :=
    after.source.next_granted (.subscribe id) (Topic.ofSession id)
  intro number member
  rw [numbers_gain] at member
  rcases List.mem_append.mp member with old | new
  · have low := gained.known number old
    omega
  · have high := (List.mem_range'_1.mp new).2
    omega

theorem Gained.grant_session (gained : before.Gained sessions past after) {id : String}
    (listed : isListed sessions id = true) (absent : id ∉ after.subscribed)
    (works : .session id ∉ before.source.failing) :
    before.Gained sessions (past ++ [id]) (after.gain id) := by
  have granted := after.source.follows_granted (.subscribe id) (Topic.ofSession id)
  constructor
  · exact (after.source.alike_granted _ _).failing.trans gained.failing
  · intro other
    rw [subscribed_gain, List.mem_append, List.mem_singleton, gained.subscribed]
    by_cases same : other = id
    · subst same
      simp [listed, works]
    · simp [same]
  · rw [subscribed_gain]
    exact List.nodup_append.mpr ⟨gained.distinct, List.nodup_singleton id, by
      intro known member other among
      rw [List.mem_singleton.mp among]
      exact fun same => absent (same ▸ member)⟩
  · intro entry member stays
    exact List.mem_append_left _ (gained.kept entry member stays)
  · intro entry member
    rcases List.mem_append.mp member with known | new
    · refine (gained.added entry known).imp_right fun paired => paired.imp ?_
      rintro number topic ⟨new, member⟩
      exact ⟨new, after.live_subset_gain id member⟩
    · rw [List.mem_singleton.mp new]
      refine Or.inr ((after.forall₂_gain id).imp ?_)
      rintro number topic ⟨new, member⟩
      exact ⟨Nat.le_trans gained.follows.next new, member⟩
  · exact gained.manager
  · exact List.Subset.trans gained.live (after.live_subset_gain id)
  · exact (after.source.revoked_granted _ _).trans gained.revoked
  · change (after.source.granted (.subscribe id) (Topic.ofSession id)).calls = _
    rw [gained.attempts listed, if_neg absent, Source.calls_granted, gained.calls, List.map_append,
      List.append_assoc]
    rfl
  · exact gained.single_gain id
  · exact gained.owned_gain id
  · exact gained.known_gain id
  · exact gained.follows.trans granted

theorem Gained.addSession (gained : before.Gained sessions past after) {session : Session}
    (listed : isListed sessions session.id = true) :
    before.Gained sessions (past ++ [session.id]) (after.addSession session) := by
  rcases after.addSession_cases session with ⟨held, same⟩ | ⟨absent, fails, same⟩ |
    ⟨absent, works, same⟩
  · rw [same]
    exact gained.held_session listed held
  · rw [gained.failing] at fails
    rw [same]
    exact (gained.refuse_session listed absent fails).same (sameHoldings_note _ _ _ _) rfl rfl
  · rw [gained.failing] at works
    rw [same]
    exact (gained.grant_session listed absent works).same (sameHoldings_note _ _ _ _) rfl rfl

theorem Gained.addSessions (gained : before.Gained sessions past after) {rest : List Session}
    (listed : ∀ session ∈ rest, isListed sessions session.id = true) :
    before.Gained sessions (past ++ rest.map Session.id) (rest.foldl Sampler.addSession after) := by
  induction rest generalizing past after with
  | nil =>
      rw [List.map_nil, List.append_nil]
      exact gained
  | cons session rest ih =>
      have added := gained.addSession (listed session List.mem_cons_self)
      have later := ih added fun other member => listed other (List.mem_cons_of_mem _ member)
      rw [List.append_assoc, List.singleton_append] at later
      exact later

structure Synced (before : Sampler) (sessions : List Session) (after : Sampler) (ended : List Nat) :
    Prop where
  subscribed : ∀ id, id ∈ after.subscribed ↔ id ∈ sessions.map Session.id ∧
    (id ∈ before.subscribed ∨ .session id ∉ before.source.failing)
  kept : ∀ entry ∈ before.sessions, entry.1 ∈ sessions.map Session.id → entry ∈ after.sessions
  added : ∀ entry ∈ after.sessions, entry ∈ before.sessions ∨
    List.Forall₂ (fun number topic => before.source.next ≤ number ∧
      ⟨number, topic⟩ ∈ after.source.live) entry.2 (Topic.ofSession entry.1)
  manager : after.manager = before.manager
  once : ended.Nodup
  gone : ∀ number, number ∈ ended ↔
    ∃ entry ∈ before.sessions, entry.1 ∉ sessions.map Session.id ∧ number ∈ entry.2
  revoked : after.source.revoked = before.source.revoked ++ ended
  live : ∀ registration ∈ before.source.live,
    registration ∈ after.source.live ↔ registration.number ∉ ended
  calls : ∃ topic : Nat → Topic, (∀ number ∈ ended, ⟨number, topic number⟩ ∈ before.source.live) ∧
    after.source.calls = before.source.calls ++ .sessions ::
      ((before.attempts [] (sessions.map Session.id)).map .subscribe ++
        ended.map fun number => .revoke (topic number))

theorem sync_failing {sampler : Sampler} (fails : .sessions ∈ sampler.source.failing) :
    sampler.sync =
      (sampler.ask .sessions).noteFailure "listing media sessions failed" .sessions := by
  simp only [sync, listSessions_failing fails]

theorem sync_working {sampler : Sampler} (works : .sessions ∉ sampler.source.failing) :
    sampler.sync = (sampler.source.sessions.foldl addSession
      (sampler.listSessions.1.dropUnlisted sampler.source.sessions).1).revokeAll
        (sampler.stale sampler.source.sessions) := by
  have found := listSessions_working works
  have same : (sampler.listSessions.1.dropUnlisted sampler.source.sessions).2 =
      sampler.stale sampler.source.sessions := by
    simp only [dropUnlisted, stale, sampler.sameHoldings_listSessions.sessions]
  rw [← same]
  cases listing : sampler.listSessions with
  | mk listed sessions =>
      rw [listing] at found
      subst found
      simp only [sync, listing, update]

theorem mem_stale (sampler : Sampler) (sessions : List Session) (number : Nat) :
    number ∈ sampler.stale sessions ↔
      ∃ entry ∈ sampler.sessions, entry.1 ∉ sessions.map Session.id ∧ number ∈ entry.2 := by
  simp only [stale, List.mem_flatMap, List.mem_filter, Bool.not_eq_true', ← Bool.not_eq_true,
    mem_isListed, and_assoc]

theorem Gained.synced (gained : before.Gained sessions (sessions.map Session.id) after)
    (orderly : before.Orderly) :
    before.Synced sessions (after.revokeAll (before.stale sessions)) (before.stale sessions) ∧
      (after.revokeAll (before.stale sessions)).Orderly := by
  have once : (before.stale sessions).Nodup := gained.single.of_append_right
  have ended : after.source.Ended (after.source.revokeAll (before.stale sessions))
      (before.stale sessions) :=
    Source.ended_revokeAll once fun number member =>
      gained.owned number (List.mem_append_right _ member)
  have old : ∀ number ∈ before.stale sessions, number < before.source.next := by
    intro number member
    obtain ⟨entry, held, _, among⟩ := (before.mem_stale sessions number).mp member
    exact orderly.known number (orderly.live number
      ((before.mem_held number).mpr (Or.inr ⟨entry, held, among⟩)))
  refine ⟨⟨?_, ?_, ?_, gained.manager, once, before.mem_stale sessions, ?_, ?_, ?_⟩, ?_⟩
  · intro id
    refine (gained.subscribed id).trans ?_
    rw [mem_isListed]
    tauto
  · exact fun entry member listed =>
      gained.kept entry member ((mem_isListed sessions _).mpr listed)
  · intro entry member
    refine (gained.added entry member).imp_right fun paired => paired.imp ?_
    rintro number topic ⟨new, held⟩
    refine ⟨new, (ended.live _).mpr ⟨held, ?_⟩⟩
    intro among
    have low := old number among
    omega
  · exact ended.revoked.trans (congrArg (· ++ _) gained.revoked)
  · intro registration member
    refine (ended.live registration).trans ?_
    simp [gained.live member]
  · obtain ⟨topic, own, calls⟩ := ended.calls
    refine ⟨topic, ?_, ?_⟩
    · intro number member
      rcases gained.follows.fresh _ (own number member) with known | new
      · exact known
      · exact absurd (old number member) (Nat.not_lt.mpr new)
    · refine calls.trans ?_
      rw [gained.calls, List.append_assoc]
      rfl
  · constructor
    · exact gained.distinct
    · exact gained.single.of_append_left
    · intro number member
      obtain ⟨registration, present, same⟩ := List.mem_map.mp
        (gained.owned number (List.mem_append_left _ member))
      have apart : number ∉ before.stale sessions :=
        fun among => List.disjoint_of_nodup_append gained.single member among
      exact List.mem_map.mpr ⟨registration, (ended.live _).mpr ⟨present, same ▸ apart⟩, same⟩
    · intro number member
      obtain ⟨registration, present, same⟩ := List.mem_map.mp member
      have low := gained.known number
        (List.mem_map.mpr ⟨registration, ((ended.live _).mp present).1, same⟩)
      exact ended.next.symm ▸ low

theorem synced_sync {sampler : Sampler} (orderly : sampler.Orderly)
    (works : .sessions ∉ sampler.source.failing) :
    sampler.Synced sampler.source.sessions sampler.sync (sampler.stale sampler.source.sessions) ∧
      sampler.sync.Orderly := by
  have dropped := gained_dropUnlisted orderly sampler.source.sessions
  have gained := dropped.addSessions fun session member =>
    (mem_isListed sampler.source.sessions session.id).mpr (List.mem_map_of_mem member)
  rw [sync_working works]
  exact gained.synced orderly

structure Tried (before : Sampler) (ids tried : List String) : Prop where
  order : tried.Sublist ids
  mem : ∀ id, id ∈ tried ↔ id ∈ ids ∧ id ∉ before.subscribed
  once : ∀ id ∈ tried, .session id ∉ before.source.failing → tried.count id = 1
  again : ∀ id ∈ tried, .session id ∈ before.source.failing → tried.count id = ids.count id

theorem tried_attempts (sampler : Sampler) (ids : List String) :
    sampler.Tried ids (sampler.attempts [] ids) := by
  constructor
  · exact sampler.attempts_sublist [] ids
  · intro id
    simp [mem_attempts]
  · intro id member works
    have most := sampler.count_attempts_working [] ids works
    have least := List.count_pos_iff.mpr member
    omega
  · intro id member fails
    have absent := ((sampler.mem_attempts [] ids id).mp member).2.1
    exact sampler.count_attempts_failing [] ids absent fails

theorem stale_sync {sampler : Sampler} (orderly : sampler.Orderly)
    (works : .sessions ∉ sampler.source.failing) :
    sampler.sync.stale sampler.source.sessions = [] := by
  have synced := (synced_sync orderly works).1
  rw [List.eq_nil_iff_forall_not_mem]
  intro number member
  obtain ⟨entry, held, unlisted, _⟩ := (mem_stale _ _ _).mp member
  exact unlisted ((synced.subscribed entry.1).mp (List.mem_map_of_mem held)).1

/-- Bringing the registrations in line with the source gets to exactly the listed sessions that were
subscribed before or can be now. What stays keeps its registrations, and what is gone loses them,
each once. If the sessions cannot be listed, nothing comes of it; where the same ones are listed
again, only those that failed are asked for, and nothing is revoked. -/
theorem sync_exact (sampler : Sampler) (orderly : sampler.Orderly) :
    let ids := sampler.source.sessions.map Session.id
    (.sessions ∈ sampler.source.failing → sampler.sync =
      (sampler.ask .sessions).noteFailure "listing media sessions failed" .sessions) ∧
    (.sessions ∉ sampler.source.failing →
      sampler.sync.Orderly ∧
      (∃ ended, sampler.Synced sampler.source.sessions sampler.sync ended) ∧
      sampler.Tried ids (sampler.attempts [] ids) ∧
      ∀ failing, .sessions ∉ failing →
        let first := sampler.sync.edit (.failing failing)
        let retried := first.attempts [] ids
        first.Tried ids retried ∧
        (∀ id, id ∈ retried ↔
          id ∈ ids ∧ id ∉ sampler.subscribed ∧ .session id ∈ sampler.source.failing) ∧
        first.sync.source.calls = first.source.calls ++ .sessions :: retried.map .subscribe ∧
        first.sync.source.revoked = first.source.revoked ∧
        first.source.live ⊆ first.sync.source.live ∧
        first.sessions ⊆ first.sync.sessions) := by
  intro ids
  refine ⟨sync_failing, fun works => ?_⟩
  obtain ⟨synced, still⟩ := synced_sync orderly works
  refine ⟨still, ⟨_, synced⟩, sampler.tried_attempts ids, ?_⟩
  intro failing working first retried
  have listed : first.source.sessions = sampler.source.sessions :=
    sampler.steady_sync.source.sessions
  have same : first.Orderly := ⟨still.distinct, still.single, still.live, still.known⟩
  have again := (synced_sync same working).1
  have none : first.stale first.source.sessions = [] := listed ▸ stale_sync orderly works
  rw [none, listed] at again
  refine ⟨first.tried_attempts ids, ?_, ?_, ?_, ?_, ?_⟩
  · intro id
    have held := synced.subscribed id
    change id ∈ first.subscribed ↔ _ at held
    refine ((first.tried_attempts ids).mem id).trans (and_congr_right fun member => ?_)
    rw [held, and_iff_right member]
    tauto
  · obtain ⟨topic, _, calls⟩ := again.calls
    simpa using calls
  · simpa using again.revoked
  · exact fun registration member => (again.live registration member).mpr List.not_mem_nil
  · intro entry member
    exact again.kept entry member ((synced.subscribed entry.1).mp (List.mem_map_of_mem member)).1

def crossing : Sampler where
  edge := 72
  source :=
    { sessions := ["c", "b", "d", "c", "d"].map fun id => { id := id }
      failing := [.session "d"]
      live := [⟨0, .media "a"⟩, ⟨1, .playback "a"⟩, ⟨2, .media "b"⟩, ⟨3, .playback "b"⟩]
      next := 4 }
  sessions := [("a", [0, 1]), ("b", [2, 3])]

theorem orderly_crossing : crossing.Orderly :=
  ⟨by decide, by decide, by decide, by decide⟩

theorem sync_exact_crossing :
    crossing.sync.sessions = [("b", [2, 3]), ("c", [4, 5])] ∧
      crossing.sync.source.revoked = [0, 1] ∧
      crossing.attempts [] ["c", "b", "d", "c", "d"] = ["c", "d", "d"] ∧
      (∃ ended, crossing.Synced crossing.source.sessions crossing.sync ended) ∧
      ((crossing.sync.edit (.failing [])).sync.source.calls =
        crossing.sync.source.calls ++ .sessions :: ["d"].map .subscribe) := by
  have exact := (sync_exact crossing orderly_crossing).2 (by decide)
  exact ⟨by decide +kernel, by decide +kernel, by decide +kernel, exact.2.1,
    (exact.2.2.2 [] (by decide)).2.2.1⟩

end Sampler

namespace Listener

theorem Kept.orderly {listener : Listener} {inHand : List Nat} (kept : listener.Kept inHand) :
    listener.sampler.Orderly := by
  constructor
  · exact kept.distinct
  · exact (kept.owned.nodup kept.issued.nodup.of_append_left).of_append_left
  · exact fun number member => kept.owned.symm.subset (List.mem_append_left _ member)
  · exact fun number member => kept.issued.lt_next member

end Listener

namespace Listening

/-- Whatever calls are made of a sampler, and however they run side by side. -/
theorem orderly_run (format : TitleFormat) (artwork : Nat) (decoder : Artwork.Decoder)
    (moves : List Move) :
    ((start format artwork decoder).run moves).sampler.Orderly :=
  ((sound_start format artwork decoder).run moves).kept.orderly

end Listening

end Marquee
