import Marquee.Proofs.Sampler.Listening

/-!
All that a section of a call can do, said once. What follows for every section is proved by going
through these outcomes.
-/

namespace Marquee

namespace Sampler

theorem sameHoldings_dropUnlisted (sampler : Sampler) (sessions : List Session) :
    SameHoldings
      { sampler with sessions := sampler.sessions.filter fun entry => isListed sessions entry.1 }
      (sampler.dropUnlisted sessions).1 := by
  simp only [dropUnlisted]
  exact sameHoldings_foldl (fun _ _ => sameHoldings_note _ _ _ _) _ _

theorem sameHoldings_ask (sampler : Sampler) (call : SourceCall) :
    SameHoldings sampler (sampler.ask call) := ⟨⟨rfl, rfl, rfl⟩, rfl, rfl, rfl⟩

theorem steady_ask (sampler : Sampler) (call : SourceCall) :
    Steady sampler (sampler.ask call) := steady_source (sampler.source.alike_note call)

end Sampler

namespace Errand

def attaches : Errand → Bool
  | subscribing => true
  | installing _ => true
  | _ => false

theorem attaches_sequel (sequel : Sequel) : sequel.errand.attaches = false := by
  cases sequel <;> rfl

theorem ne_installing {errand : Errand} (apart : errand.attaches = false) (numbers : List Nat) :
    errand ≠ .installing numbers := by
  rintro rfl
  cases apart

end Errand

namespace Listener

inductive Section (listener : Listener) : Errand → Listener → Errand → Prop
  | refused (fails : .manager ∈ listener.sampler.source.failing) :
    Section listener .subscribing
      { listener with
        sampler := (listener.sampler.ask .subscribeManager).noteFailure
          "media manager subscription failed" .manager }
      (.listing .sampling)
  | granted (works : .manager ∉ listener.sampler.source.failing) :
    Section listener .subscribing
      { listener with
        sampler := { listener.sampler with
          source := listener.sampler.source.granted .subscribeManager Topic.ofManager }
        granted := listener.granted ++ [List.range' listener.sampler.source.next 2] }
      (.installing (List.range' listener.sampler.source.next 2))
  | installed (numbers : List Nat) :
    Section listener (.installing numbers)
      { listener with sampler := { listener.sampler with manager := numbers } }
      (.revoking listener.sampler.manager .syncing)
  | noticed (change : MediaChange) (next : Errand)
      (goes : next = if change = .sessions then .listing .sampling else .sampling .waiting) :
    Section listener (.noticing change)
      { listener with
        sampler := listener.sampler.note .debug "media change notification"
          [("change", .text change.name)] }
      next
  | unlisted (sequel : Sequel) (none : listener.sampler.listSessions.2 = none) :
    Section listener (.listing sequel)
      { listener with sampler := listener.sampler.listSessions.1 } sequel.errand
  | listed (sequel : Sequel) (sessions : List Session)
      (found : listener.sampler.listSessions.2 = some sessions) :
    Section listener (.listing sequel)
      { listener with sampler := listener.sampler.listSessions.1 } (.updating sessions sequel)
  | barred (sessions : List Session) (sequel : Sequel) (locked : listener.locked = true) :
    Section listener (.updating sessions sequel) listener (.updating sessions sequel)
  | parted (sessions : List Session) (sequel : Sequel) (unlocked : listener.locked = false) :
    Section listener (.updating sessions sequel)
      { listener with
        sampler := (listener.sampler.dropUnlisted sessions).1, locked := true }
      (.adding sessions (listener.sampler.dropUnlisted sessions).2 sequel)
  | unlocked (stale : List Nat) (sequel : Sequel) :
    Section listener (.adding [] stale sequel) { listener with locked := false }
      (.revoking stale sequel)
  | known (session : Session) (rest : List Session) (stale : List Nat) (sequel : Sequel)
      (known : session.id ∈ listener.sampler.subscribed) :
    Section listener (.adding (session :: rest) stale sequel) listener (.adding rest stale sequel)
  | missed (session : Session) (rest : List Session) (stale : List Nat) (sequel : Sequel)
      (absent : session.id ∉ listener.sampler.subscribed)
      (fails : .session session.id ∈ listener.sampler.source.failing) :
    Section listener (.adding (session :: rest) stale sequel)
      { listener with
        sampler := (listener.sampler.ask (.subscribe session.id)).note .warn
          "session subscription failed"
          [("session", .text session.id),
            ("error", .text (SourceRequest.session session.id).failure)] }
      (.adding rest stale sequel)
  | added (session : Session) (rest : List Session) (stale : List Nat) (sequel : Sequel)
      (absent : session.id ∉ listener.sampler.subscribed)
      (works : .session session.id ∉ listener.sampler.source.failing) :
    Section listener (.adding (session :: rest) stale sequel)
      { listener with
        sampler := ({ listener.sampler with
          source := listener.sampler.source.granted (.subscribe session.id)
            (Topic.ofSession session.id)
          sessions := listener.sampler.sessions ++
            [(session.id, List.range' listener.sampler.source.next 2)] } : Sampler).note .info
              "media session added" [("session", .text session.id)] }
      (.adding rest stale sequel)
  | revoked (sequel : Sequel) : Section listener (.revoking [] sequel) listener sequel.errand
  | letGo (number : Nat) (rest : List Nat) (sequel : Sequel) :
    Section listener (.revoking (number :: rest) sequel) (listener.letGo number)
      (.revoking rest sequel)
  | sampled (stage : SampleStage) :
    Section listener (.sampling stage)
      { listener with sampler := (listener.sampler.sampleStep stage).1 }
      (.sampling (listener.sampler.sampleStep stage).2)
  | detached :
    Section listener .detaching
      { listener with sampler := listener.sampler.takeManager.1, granted := [] }
      (.emptying listener.sampler.manager)
  | delayed (manager : List Nat) (locked : listener.locked = true) :
    Section listener (.emptying manager) listener (.emptying manager)
  | emptied (manager : List Nat) (unlocked : listener.locked = false) :
    Section listener (.emptying manager)
      { listener with sampler := listener.sampler.takeSessions.1 }
      (.revoking (manager ++ listener.sampler.takeSessions.2) .returning)
  | stayed : Section listener .returned listener .returned

theorem section_subscribing (listener : Listener) :
    listener.Section .subscribing (listener.advance .subscribing).1
      (listener.advance .subscribing).2 := by
  simp only [advance, Source.subscribeManager_eq]
  by_cases fails : .manager ∈ listener.sampler.source.failing
  · rw [if_pos fails]
    exact .refused fails
  · rw [if_neg fails]
    exact .granted fails

theorem section_listing (listener : Listener) (sequel : Sequel) :
    listener.Section (.listing sequel) (listener.advance (.listing sequel)).1
      (listener.advance (.listing sequel)).2 := by
  have unlisted := @Section.unlisted listener sequel
  have listed := @Section.listed listener sequel
  simp only [advance]
  cases found : listener.sampler.listSessions with
  | mk sampler sessions =>
      rw [found] at unlisted listed
      cases sessions with
      | none => exact unlisted rfl
      | some sessions => exact listed sessions rfl

theorem section_adding (listener : Listener) (sessions : List Session) (stale : List Nat)
    (sequel : Sequel) :
    listener.Section (.adding sessions stale sequel)
      (listener.advance (.adding sessions stale sequel)).1
      (listener.advance (.adding sessions stale sequel)).2 := by
  cases sessions with
  | nil => exact .unlocked stale sequel
  | cons session rest =>
      simp only [advance, Sampler.addSession, Source.subscribeSession_eq]
      by_cases known : session.id ∈ listener.sampler.subscribed
      · rw [if_pos known]
        exact .known session rest stale sequel known
      · rw [if_neg known]
        by_cases fails : .session session.id ∈ listener.sampler.source.failing
        · rw [if_pos fails]
          exact .missed session rest stale sequel known fails
        · rw [if_neg fails]
          exact .added session rest stale sequel known fails

theorem section_advance (listener : Listener) (errand : Errand) :
    listener.Section errand (listener.advance errand).1 (listener.advance errand).2 := by
  cases errand with
  | subscribing => exact listener.section_subscribing
  | installing numbers => exact .installed numbers
  | noticing change => exact .noticed change _ rfl
  | listing sequel => exact listener.section_listing sequel
  | updating sessions sequel =>
      simp only [advance]
      by_cases locked : listener.locked = true
      · rw [if_pos locked]
        exact .barred sessions sequel locked
      · rw [if_neg locked]
        exact .parted sessions sequel (Bool.eq_false_iff.mpr locked)
  | adding sessions stale sequel => exact listener.section_adding sessions stale sequel
  | revoking numbers sequel =>
      cases numbers with
      | nil => exact .revoked sequel
      | cons number rest => exact .letGo number rest sequel
  | sampling stage => exact .sampled stage
  | detaching => exact .detached
  | emptying manager =>
      simp only [advance]
      by_cases locked : listener.locked = true
      · rw [if_pos locked]
        exact .delayed manager locked
      · rw [if_neg locked]
        exact .emptied manager (Bool.eq_false_iff.mpr locked)
  | returned => exact .stayed

variable {listener after : Listener} {errand next : Errand}

/-- A section that is not one of a sample changes nothing that samples are about. -/
theorem Section.steady (passed : listener.Section errand after next)
    (other : ∀ stage, errand ≠ .sampling stage) :
    Sampler.Steady listener.sampler after.sampler := by
  cases passed with
  | refused => exact (Sampler.steady_ask _ _).trans (Sampler.steady_note _ _ _ _)
  | granted => exact Sampler.steady_source (Source.alike_granted _ _ _)
  | installed => exact ⟨⟨⟨rfl, rfl, rfl⟩, rfl, rfl, rfl, rfl⟩, Source.Alike.refl _⟩
  | noticed => exact Sampler.steady_note _ _ _ _
  | unlisted => exact Sampler.steady_listSessions _
  | listed => exact Sampler.steady_listSessions _
  | parted sessions => exact Sampler.steady_dropUnlisted _ sessions
  | missed => exact (Sampler.steady_ask _ _).trans (Sampler.steady_note _ _ _ _)
  | added => exact ⟨⟨⟨rfl, rfl, rfl⟩, rfl, rfl, rfl, rfl⟩, Source.alike_granted _ _ _⟩
  | letGo number => exact Sampler.steady_source (Source.alike_revoke _ number)
  | sampled stage => exact absurd rfl (other stage)
  | detached => exact Sampler.steady_takeManager _
  | emptied => exact Sampler.steady_takeSessions _
  | _ => exact Sampler.Steady.refl _

theorem Section.alive (passed : listener.Section errand after next) :
    after.sampler.alive = listener.sampler.alive := by
  by_cases samples : ∃ stage, errand = .sampling stage
  · obtain ⟨stage, same⟩ := samples
    subst same
    cases passed
    exact (listener.sampler.sameHoldings_sampleStep stage).alive
  · exact (passed.steady fun stage same => samples ⟨stage, same⟩).alive

/-- Only the sections that make registrations for the source as a whole, and the one that takes them
out, are about these. -/
theorem Section.apart (passed : listener.Section errand after next)
    (apart : errand.attaches = false) (stays : errand ≠ .detaching) :
    after.granted = listener.granted ∧ after.sampler.manager = listener.sampler.manager ∧
      next.attaches = false := by
  cases passed with
  | refused => cases apart
  | granted => cases apart
  | installed => cases apart
  | detached => exact absurd rfl stays
  | noticed change next goes =>
      refine ⟨rfl, rfl, ?_⟩
      rw [goes]
      split <;> rfl
  | unlisted sequel =>
      exact ⟨rfl, listener.sampler.sameHoldings_listSessions.manager,
        Errand.attaches_sequel sequel⟩
  | listed => exact ⟨rfl, listener.sampler.sameHoldings_listSessions.manager, rfl⟩
  | parted sessions =>
      exact ⟨rfl, (listener.sampler.sameHoldings_dropUnlisted sessions).manager, rfl⟩
  | revoked sequel => exact ⟨rfl, rfl, Errand.attaches_sequel sequel⟩
  | sampled stage =>
      exact ⟨rfl, (listener.sampler.sameHoldings_sampleStep stage).manager, rfl⟩
  | _ => exact ⟨rfl, rfl, rfl⟩

end Listener

end Marquee
