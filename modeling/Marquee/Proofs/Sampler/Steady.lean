import Marquee.Sampler.Sample
import Marquee.Sampler.Sessions

/-!
Two halves of a sampler that do not touch each other. Registering and revoking change nothing of
what a sample reads and writes, and a sample changes nothing of the registrations.
-/

namespace Marquee

namespace Source

structure Alike (before after : Source) : Prop where
  current : after.current = before.current
  sessions : after.sessions = before.sessions
  thumbnails : after.thumbnails = before.thumbnails
  failing : after.failing = before.failing

theorem Alike.refl (source : Source) : Alike source source := ⟨rfl, rfl, rfl, rfl⟩

theorem Alike.trans {first second third : Source} (earlier : Alike first second)
    (later : Alike second third) : Alike first third :=
  ⟨later.current.trans earlier.current, later.sessions.trans earlier.sessions,
    later.thumbnails.trans earlier.thumbnails, later.failing.trans earlier.failing⟩

theorem alike_registerAll (source : Source) (topics : List Topic) :
    Alike source (source.registerAll topics).1 := by
  simp only [registerAll]
  induction topics generalizing source with
  | nil => exact Alike.refl source
  | cons topic rest ih =>
      have registered : Alike source (source.register topic) := ⟨rfl, rfl, rfl, rfl⟩
      exact registered.trans (ih (source.register topic))

theorem alike_revoke (source : Source) (number : Nat) : Alike source (source.revoke number) := by
  unfold revoke
  split
  · exact Alike.refl source
  · exact ⟨rfl, rfl, rfl, rfl⟩

theorem alike_revokeAll (source : Source) (numbers : List Nat) :
    Alike source (source.revokeAll numbers) := by
  simp only [revokeAll]
  induction numbers generalizing source with
  | nil => exact Alike.refl source
  | cons number rest ih => exact (source.alike_revoke number).trans (ih (source.revoke number))

def granted (source : Source) (call : SourceCall) (topics : List Topic) : Source :=
  ((source.note call).registerAll topics).1

theorem subscribeManager_eq (source : Source) :
    source.subscribeManager =
      if .manager ∈ source.failing then
        (source.note .subscribeManager, .error .manager)
      else
        (source.granted .subscribeManager Topic.ofManager, .ok (List.range' source.next 2)) := rfl

theorem subscribeSession_eq (source : Source) (id : String) :
    source.subscribeSession id =
      if .session id ∈ source.failing then
        (source.note (.subscribe id), .error (.session id))
      else
        (source.granted (.subscribe id) (Topic.ofSession id), .ok (List.range' source.next 2)) :=
  rfl

theorem alike_note (source : Source) (call : SourceCall) : Alike source (source.note call) :=
  ⟨rfl, rfl, rfl, rfl⟩

theorem alike_granted (source : Source) (call : SourceCall) (topics : List Topic) :
    Alike source (source.granted call topics) :=
  (source.alike_note call).trans (alike_registerAll _ topics)

theorem alike_subscribeManager (source : Source) : Alike source source.subscribeManager.1 := by
  rw [subscribeManager_eq]
  split
  · exact source.alike_note _
  · exact source.alike_granted _ _

theorem alike_subscribeSession (source : Source) (id : String) :
    Alike source (source.subscribeSession id).1 := by
  rw [subscribeSession_eq]
  split
  · exact source.alike_note _
  · exact source.alike_granted _ _

structure SameLedger (before after : Source) : Prop where
  live : after.live = before.live
  next : after.next = before.next
  revoked : after.revoked = before.revoked

theorem SameLedger.refl (source : Source) : SameLedger source source := ⟨rfl, rfl, rfl⟩

theorem SameLedger.trans {first second third : Source} (earlier : SameLedger first second)
    (later : SameLedger second third) : SameLedger first third :=
  ⟨later.live.trans earlier.live, later.next.trans earlier.next,
    later.revoked.trans earlier.revoked⟩

theorem sameLedger_edit (source : Source) (edit : SourceEdit) :
    SameLedger source (source.edit edit) := by
  cases edit <;> exact ⟨rfl, rfl, rfl⟩

end Source

namespace Sampler

structure SameSettings (before after : Sampler) : Prop where
  format : after.format = before.format
  edge : after.edge = before.edge
  decoder : after.decoder = before.decoder

theorem SameSettings.refl (sampler : Sampler) : SameSettings sampler sampler := ⟨rfl, rfl, rfl⟩

theorem SameSettings.symm {left right : Sampler} (same : SameSettings left right) :
    SameSettings right left :=
  ⟨same.format.symm, same.edge.symm, same.decoder.symm⟩

theorem SameSettings.trans {first second third : Sampler} (earlier : SameSettings first second)
    (later : SameSettings second third) : SameSettings first third :=
  ⟨later.format.trans earlier.format, later.edge.trans earlier.edge,
    later.decoder.trans earlier.decoder⟩

structure Unsampled (before after : Sampler) : Prop extends SameSettings before after where
  media : after.media = before.media
  published : after.published = before.published
  busy : after.busy = before.busy
  alive : after.alive = before.alive

theorem Unsampled.refl (sampler : Sampler) : Unsampled sampler sampler :=
  ⟨⟨rfl, rfl, rfl⟩, rfl, rfl, rfl, rfl⟩

theorem Unsampled.trans {first second third : Sampler} (earlier : Unsampled first second)
    (later : Unsampled second third) : Unsampled first third :=
  ⟨earlier.toSameSettings.trans later.toSameSettings, later.media.trans earlier.media,
    later.published.trans earlier.published,
    later.busy.trans earlier.busy, later.alive.trans earlier.alive⟩

theorem unsampled_edit (sampler : Sampler) (edit : SourceEdit) :
    Unsampled sampler (sampler.edit edit) := ⟨⟨rfl, rfl, rfl⟩, rfl, rfl, rfl, rfl⟩

structure Steady (before after : Sampler) : Prop extends Unsampled before after where
  source : Source.Alike before.source after.source

theorem Steady.refl (sampler : Sampler) : Steady sampler sampler :=
  ⟨Unsampled.refl sampler, Source.Alike.refl _⟩

theorem Steady.trans {first second third : Sampler} (earlier : Steady first second)
    (later : Steady second third) : Steady first third :=
  ⟨earlier.toUnsampled.trans later.toUnsampled, earlier.source.trans later.source⟩

theorem steady_note (sampler : Sampler) (level : Log.Level) (message : String)
    (values : List (String × Log.Value)) : Steady sampler (sampler.note level message values) :=
  ⟨⟨⟨rfl, rfl, rfl⟩, rfl, rfl, rfl, rfl⟩, Source.Alike.refl _⟩

theorem steady_source {sampler : Sampler} {source : Source}
    (alike : Source.Alike sampler.source source) :
    Steady sampler { sampler with source := source } :=
  ⟨⟨⟨rfl, rfl, rfl⟩, rfl, rfl, rfl, rfl⟩, alike⟩

theorem steady_foldl {α : Type} {change : Sampler → α → Sampler}
    (steady : ∀ sampler item, Steady sampler (change sampler item)) (sampler : Sampler)
    (items : List α) : Steady sampler (items.foldl change sampler) := by
  induction items generalizing sampler with
  | nil => exact Steady.refl sampler
  | cons item rest ih => exact (steady sampler item).trans (ih (change sampler item))

theorem steady_revokeAll (sampler : Sampler) (numbers : List Nat) :
    Steady sampler (sampler.revokeAll numbers) :=
  steady_source (sampler.source.alike_revokeAll numbers)

theorem steady_subscribeManager (sampler : Sampler) : Steady sampler sampler.subscribeManager := by
  have alike := sampler.source.alike_subscribeManager
  simp only [subscribeManager]
  cases sampler.source.subscribeManager.2 with
  | error request => exact (steady_source alike).trans (steady_note _ _ _ _)
  | ok numbers =>
      have held : Steady sampler
          { sampler with source := sampler.source.subscribeManager.1, manager := numbers } :=
        ⟨⟨⟨rfl, rfl, rfl⟩, rfl, rfl, rfl, rfl⟩, alike⟩
      exact held.trans (steady_revokeAll _ _)

theorem steady_listSessions (sampler : Sampler) : Steady sampler sampler.listSessions.1 := by
  have asked : Steady sampler { sampler with source := sampler.source.readSessions.1 } :=
    steady_source ⟨rfl, rfl, rfl, rfl⟩
  simp only [listSessions]
  cases sampler.source.readSessions.2 with
  | error request => exact asked.trans (steady_note _ _ _ _)
  | ok sessions => exact asked.trans (steady_foldl (fun _ _ => steady_note _ _ _ _) _ _)

theorem steady_dropUnlisted (sampler : Sampler) (sessions : List Session) :
    Steady sampler (sampler.dropUnlisted sessions).1 := by
  have held (kept : List (String × List Nat)) : Steady sampler { sampler with sessions := kept } :=
    ⟨⟨⟨rfl, rfl, rfl⟩, rfl, rfl, rfl, rfl⟩, Source.Alike.refl _⟩
  simp only [dropUnlisted]
  exact (held _).trans (steady_foldl (fun _ _ => steady_note _ _ _ _) _ _)

theorem steady_addSession (sampler : Sampler) (session : Session) :
    Steady sampler (sampler.addSession session) := by
  have alike := sampler.source.alike_subscribeSession session.id
  simp only [addSession]
  split
  · exact Steady.refl sampler
  · cases (sampler.source.subscribeSession session.id).2 with
    | error request => exact (steady_source alike).trans (steady_note _ _ _ _)
    | ok numbers => exact ⟨⟨⟨rfl, rfl, rfl⟩, rfl, rfl, rfl, rfl⟩, alike⟩

theorem steady_sync (sampler : Sampler) : Steady sampler sampler.sync := by
  have listed := steady_listSessions sampler
  simp only [sync]
  cases found : sampler.listSessions with
  | mk listing sessions =>
      rw [found] at listed
      cases sessions with
      | none => exact listed
      | some sessions =>
          have dropped := steady_dropUnlisted listing sessions
          have added := steady_foldl steady_addSession (listing.dropUnlisted sessions).1 sessions
          exact (listed.trans (dropped.trans added)).trans (steady_revokeAll _ _)

theorem steady_takeManager (sampler : Sampler) : Steady sampler sampler.takeManager.1 :=
  ⟨⟨⟨rfl, rfl, rfl⟩, rfl, rfl, rfl, rfl⟩, Source.Alike.refl _⟩

theorem steady_takeSessions (sampler : Sampler) : Steady sampler sampler.takeSessions.1 :=
  ⟨⟨⟨rfl, rfl, rfl⟩, rfl, rfl, rfl, rfl⟩, Source.Alike.refl _⟩

theorem steady_detach (sampler : Sampler) : Steady sampler sampler.detach :=
  ((steady_takeManager _).trans (steady_takeSessions _)).trans
    ((steady_revokeAll _ _).trans (steady_revokeAll _ _))

structure SameHoldings (before after : Sampler) : Prop where
  source : Source.SameLedger before.source after.source
  manager : after.manager = before.manager
  sessions : after.sessions = before.sessions
  alive : after.alive = before.alive

theorem SameHoldings.refl (sampler : Sampler) : SameHoldings sampler sampler :=
  ⟨Source.SameLedger.refl _, rfl, rfl, rfl⟩

theorem sameHoldings_edit (sampler : Sampler) (edit : SourceEdit) :
    SameHoldings sampler (sampler.edit edit) :=
  ⟨sampler.source.sameLedger_edit edit, rfl, rfl, rfl⟩

theorem SameHoldings.trans {first second third : Sampler} (earlier : SameHoldings first second)
    (later : SameHoldings second third) : SameHoldings first third :=
  ⟨earlier.source.trans later.source, later.manager.trans earlier.manager,
    later.sessions.trans earlier.sessions, later.alive.trans earlier.alive⟩

theorem sameHoldings_note (sampler : Sampler) (level : Log.Level) (message : String)
    (values : List (String × Log.Value)) :
    SameHoldings sampler (sampler.note level message values) :=
  ⟨Source.SameLedger.refl _, rfl, rfl, rfl⟩

theorem sameHoldings_foldl {α : Type} {change : Sampler → α → Sampler}
    (same : ∀ sampler item, SameHoldings sampler (change sampler item)) (sampler : Sampler)
    (items : List α) : SameHoldings sampler (items.foldl change sampler) := by
  induction items generalizing sampler with
  | nil => exact SameHoldings.refl sampler
  | cons item rest ih => exact (same sampler item).trans (ih (change sampler item))

theorem sameHoldings_listSessions (sampler : Sampler) :
    SameHoldings sampler sampler.listSessions.1 := by
  have asked : SameHoldings sampler { sampler with source := sampler.source.readSessions.1 } :=
    ⟨⟨rfl, rfl, rfl⟩, rfl, rfl, rfl⟩
  simp only [listSessions]
  cases sampler.source.readSessions.2 with
  | error request => exact asked.trans (sameHoldings_note _ _ _ _)
  | ok sessions => exact asked.trans (sameHoldings_foldl (fun _ _ => sameHoldings_note _ _ _ _) _ _)

theorem sameHoldings_sampleStep (sampler : Sampler) (stage : SampleStage) :
    SameHoldings sampler (sampler.sampleStep stage).1 := by
  cases stage with
  | waiting =>
      simp only [sampleStep]
      split <;> exact ⟨⟨rfl, rfl, rfl⟩, rfl, rfl, rfl⟩
  | entered =>
      simp only [sampleStep, readForeground]
      split <;> exact ⟨⟨rfl, rfl, rfl⟩, rfl, rfl, rfl⟩
  | listing =>
      simp only [sampleStep, readListed]
      split <;> exact ⟨⟨rfl, rfl, rfl⟩, rfl, rfl, rfl⟩
  | picturing session =>
      simp only [sampleStep, readPicture]
      split
      · exact ⟨⟨rfl, rfl, rfl⟩, rfl, rfl, rfl⟩
      · simp only [image]
        split
        · exact ⟨⟨rfl, rfl, rfl⟩, rfl, rfl, rfl⟩
        · split <;> exact ⟨⟨rfl, rfl, rfl⟩, rfl, rfl, rfl⟩
  | _ => exact ⟨⟨rfl, rfl, rfl⟩, rfl, rfl, rfl⟩

end Sampler

end Marquee
