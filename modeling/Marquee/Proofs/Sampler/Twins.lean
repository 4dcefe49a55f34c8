import Marquee.Proofs.Sampler.LastSeen
import Marquee.Proofs.Sampler.Media
import Marquee.Proofs.Sampler.Syncing
import Marquee.Proofs.Sampler.Turns
import Marquee.Proofs.Sampler.Unlogged

/-!
Two samplers that differ only in what was noted: in their logs, and in the calls that the sources
remember. Whatever is asked of both, they stay twins and tell the same. A sample that comes to
nothing leaves a sampler its own twin.
-/

namespace Marquee

namespace Source

variable {left right : Source}

theorem Alike.symm (alike : Alike left right) : Alike right left :=
  ⟨alike.current.symm, alike.sessions.symm, alike.thumbnails.symm, alike.failing.symm⟩

theorem SameLedger.symm (same : SameLedger left right) : SameLedger right left :=
  ⟨same.live.symm, same.next.symm, same.revoked.symm⟩

theorem Alike.fails_iff (alike : Alike left right) : right.Fails ↔ left.Fails := by
  simp only [Fails, alike.failing, alike.samePlay.foreground?, alike.samePlay.titled?]

theorem SameLedger.granted (same : SameLedger left right) (call : SourceCall)
    (topics : List Topic) : SameLedger (left.granted call topics) (right.granted call topics) := by
  constructor
  · rw [live_granted, live_granted, same.live, same.next]
  · rw [next_granted, next_granted, same.next]
  · rw [revoked_granted, revoked_granted, same.revoked]

theorem SameLedger.revoke (same : SameLedger left right) (number : Nat) :
    SameLedger (left.revoke number) (right.revoke number) := by
  refine ⟨?_, ?_, ?_⟩
  · rw [live_revoke, live_revoke, same.live]
  · rw [next_revoke, next_revoke, same.next]
  · simp only [Source.revoke, same.live]
    split
    · exact same.revoked
    · exact congrArg (· ++ [number]) same.revoked

theorem SameLedger.revokeAll (same : SameLedger left right) (numbers : List Nat) :
    SameLedger (left.revokeAll numbers) (right.revokeAll numbers) := by
  induction numbers generalizing left right with
  | nil => exact same
  | cons number rest ih => exact ih (same.revoke number)

end Source

namespace Sampler

theorem Unsampled.symm {left right : Sampler} (same : Unsampled left right) :
    Unsampled right left :=
  ⟨same.toSameSettings.symm, same.media.symm, same.published.symm, same.busy.symm,
    same.alive.symm⟩

theorem Steady.symm {left right : Sampler} (steady : Steady left right) : Steady right left :=
  ⟨steady.toUnsampled.symm, steady.source.symm⟩

theorem SameHoldings.symm {left right : Sampler} (same : SameHoldings left right) :
    SameHoldings right left :=
  ⟨same.source.symm, same.manager.symm, same.sessions.symm, same.alive.symm⟩

structure Twin (left right : Sampler) : Prop where
  steady : Steady left right
  holdings : SameHoldings left right

variable {left right : Sampler}

theorem Twin.refl (sampler : Sampler) : Twin sampler sampler :=
  ⟨Steady.refl sampler, SameHoldings.refl sampler⟩

theorem Twin.symm (twin : Twin left right) : Twin right left :=
  ⟨twin.steady.symm, twin.holdings.symm⟩

theorem Twin.trans {third : Sampler} (twin : Twin left right) (other : Twin right third) :
    Twin left third :=
  ⟨twin.steady.trans other.steady, twin.holdings.trans other.holdings⟩

theorem twin_of_unlogged (same : left.unlogged = right.unlogged) : Twin left right := by
  cases left
  cases right
  simp only [unlogged, Sampler.mk.injEq] at same
  obtain ⟨rfl, rfl, rfl, rfl, rfl, rfl, rfl, rfl, rfl, rfl, _⟩ := same
  exact ⟨⟨⟨⟨rfl, rfl, rfl⟩, rfl, rfl, rfl, rfl⟩, Source.Alike.refl _⟩,
    ⟨Source.SameLedger.refl _, rfl, rfl, rfl⟩⟩

theorem twin_note (sampler : Sampler) (level : Log.Level) (message : String)
    (values : List (String × Log.Value)) : Twin sampler (sampler.note level message values) :=
  ⟨steady_note _ _ _ _, sameHoldings_note _ _ _ _⟩

theorem twin_ask (sampler : Sampler) (call : SourceCall) : Twin sampler (sampler.ask call) :=
  ⟨steady_ask _ _, sameHoldings_ask _ _⟩

/-- What changes nothing of what samples are about keeps two samplers twins if it moves their
registrations alike. -/
theorem Twin.moved {leftAfter rightAfter : Sampler} (twin : Twin left right)
    (leftSteady : Steady left leftAfter) (rightSteady : Steady right rightAfter)
    (moved : SameHoldings leftAfter rightAfter) : Twin leftAfter rightAfter :=
  ⟨leftSteady.symm.trans (twin.steady.trans rightSteady), moved⟩

theorem Twin.edit (twin : Twin left right) (edit : SourceEdit) :
    Twin (left.edit edit) (right.edit edit) := by
  obtain ⟨⟨unsampled, alike⟩, holdings⟩ := twin
  refine ⟨⟨(unsampled_edit left edit).symm.trans (unsampled.trans (unsampled_edit right edit)), ?_⟩,
    (sameHoldings_edit left edit).symm.trans (holdings.trans (sameHoldings_edit right edit))⟩
  cases edit with
  | thumbnail id bytes =>
      exact ⟨alike.current, alike.sessions, by simp only [Sampler.edit, Source.edit, alike.thumbnails],
        alike.failing⟩
  | current session => exact ⟨rfl, alike.sessions, alike.thumbnails, alike.failing⟩
  | sessions sessions => exact ⟨alike.current, rfl, alike.thumbnails, alike.failing⟩
  | failing requests => exact ⟨alike.current, alike.sessions, alike.thumbnails, rfl⟩

section Registrations

theorem Twin.revokeAll (twin : Twin left right) (numbers : List Nat) :
    Twin (left.revokeAll numbers) (right.revokeAll numbers) :=
  twin.moved (steady_revokeAll _ _) (steady_revokeAll _ _)
    ⟨twin.holdings.source.revokeAll numbers, twin.holdings.manager, twin.holdings.sessions,
      twin.holdings.alive⟩

theorem Twin.subscribed (twin : Twin left right) : right.subscribed = left.subscribed :=
  congrArg (·.map Prod.fst) twin.holdings.sessions

theorem Twin.addSession (twin : Twin left right) (session : Session) :
    Twin (left.addSession session) (right.addSession session) := by
  refine twin.moved (steady_addSession _ _) (steady_addSession _ _) ?_
  have subscribed := twin.subscribed
  have failing := twin.steady.source.failing
  rcases left.addSession_cases session with ⟨held, same⟩ | ⟨absent, fails, same⟩ |
    ⟨absent, works, same⟩ <;>
  rcases right.addSession_cases session with ⟨also, other⟩ | ⟨lacking, refused, other⟩ |
    ⟨lacking, given, other⟩ <;>
  simp only [subscribed, failing] at * <;> try contradiction
  · rw [same, other]
    exact twin.holdings
  · rw [same, other]
    exact ((twin_ask _ _).trans (twin_note _ _ _ _)).symm.holdings.trans
      (twin.holdings.trans ((twin_ask _ _).trans (twin_note _ _ _ _)).holdings)
  · rw [same, other]
    refine ⟨twin.holdings.source.granted _ _, twin.holdings.manager, ?_, twin.holdings.alive⟩
    change right.sessions ++ _ = left.sessions ++ _
    rw [twin.holdings.sessions, twin.holdings.source.next]

theorem Twin.addSessions (twin : Twin left right) (sessions : List Session) :
    Twin (sessions.foldl Sampler.addSession left) (sessions.foldl Sampler.addSession right) := by
  induction sessions generalizing left right with
  | nil => exact twin
  | cons session rest ih => exact ih (twin.addSession session)

theorem Twin.dropUnlisted (twin : Twin left right) (sessions : List Session) :
    Twin (left.dropUnlisted sessions).1 (right.dropUnlisted sessions).1 := by
  refine twin.moved (steady_dropUnlisted _ _) (steady_dropUnlisted _ _) ?_
  refine (sameHoldings_dropUnlisted left sessions).symm.trans
    (SameHoldings.trans ?_ (sameHoldings_dropUnlisted right sessions))
  exact ⟨twin.holdings.source, twin.holdings.manager, by simp only [twin.holdings.sessions],
    twin.holdings.alive⟩

theorem Twin.sync (twin : Twin left right) : Twin left.sync right.sync := by
  have failing := twin.steady.source.failing
  have listed := twin.steady.source.sessions
  by_cases fails : .sessions ∈ left.source.failing
  · rw [sync_failing fails, sync_failing (failing ▸ fails)]
    exact ((twin_ask _ _).trans (twin_note _ _ _ _)).symm.trans
      (twin.trans ((twin_ask _ _).trans (twin_note _ _ _ _)))
  · have stale : right.stale left.source.sessions = left.stale left.source.sessions := by
      simp only [Sampler.stale, twin.holdings.sessions]
    have listing := twin.moved (steady_listSessions left) (steady_listSessions right)
      ((sameHoldings_listSessions left).symm.trans
        (twin.holdings.trans (sameHoldings_listSessions right)))
    rw [sync_working fails, sync_working (failing ▸ fails), listed, stale]
    exact ((listing.dropUnlisted _).addSessions _).revokeAll _

theorem Twin.detach (twin : Twin left right) : Twin left.detach right.detach := by
  refine twin.moved (steady_detach left) (steady_detach right) ?_
  have manager := twin.holdings.manager
  have sessions := twin.holdings.sessions
  refine ⟨?_, rfl, rfl, twin.holdings.alive⟩
  change Source.SameLedger ((left.source.revokeAll left.manager).revokeAll _)
    ((right.source.revokeAll right.manager).revokeAll _)
  simp only [manager, sessions]
  exact (twin.holdings.source.revokeAll _).revokeAll _

end Registrations

section Samples

theorem sameHoldings_sample (sampler : Sampler) : SameHoldings sampler sampler.sample.1 := by
  have steps : ∀ count before stage,
      SameHoldings before (before.sampleSteps stage count).1 := by
    intro count
    induction count with
    | zero => exact fun before _ => SameHoldings.refl before
    | succ count ih =>
        intro before stage
        exact (before.sameHoldings_sampleStep stage).trans (ih _ _)
  exact steps 7 sampler .waiting

/-- A sample changes nothing that other samples are about but the media and their count. -/
theorem steady_sample {sampler : Sampler} (free : sampler.busy = false)
    (media : sampler.sample.1.media = sampler.media) (untold : sampler.sample.2 = false) :
    Steady sampler sampler.sample.1 := by
  have ends := ends_sample free
  have published := published_sample free
  rw [untold] at published
  refine ⟨⟨ends.settings, media, published, ends.idle.trans free.symm, ends.held.2.2⟩, ?_⟩
  change Source.Alike sampler.source (sampler.sampleSteps .waiting 7).1.source
  rw [ends.source]
  exact ⟨rfl, rfl, rfl, rfl⟩

theorem Twin.nowPlaying (twin : Twin left right) : right.nowPlaying = left.nowPlaying :=
  twin.steady.samePlay.nowPlaying

theorem Twin.fails_iff (twin : Twin left right) : right.source.Fails ↔ left.source.Fails :=
  twin.steady.source.fails_iff

theorem Twin.sample_snd (twin : Twin left right) (free : left.busy = false) :
    right.sample.2 = left.sample.2 := by
  have also : right.busy = false := twin.steady.busy.trans free
  rw [Bool.eq_iff_iff, sample_snd_iff free, sample_snd_iff also, twin.fails_iff, twin.nowPlaying,
    twin.steady.media]

theorem Twin.sample (twin : Twin left right) (free : left.busy = false) :
    Twin left.sample.1 right.sample.1 := by
  have also : right.busy = false := twin.steady.busy.trans free
  have ends := ends_sample free
  have other := ends_sample also
  obtain ⟨unsampled, alike⟩ := twin.steady
  refine ⟨⟨⟨?_, ?_, ?_, ?_, ?_⟩, ?_⟩, ?_⟩
  · exact ends.settings.symm.trans (unsampled.toSameSettings.trans other.settings)
  · simp only [media_sample_eq free, media_sample_eq also, twin.fails_iff, twin.nowPlaying,
      unsampled.media]
  · rw [published_sample free, published_sample also, twin.sample_snd free, unsampled.published]
  · exact other.idle.trans ends.idle.symm
  · exact other.held.2.2.trans (unsampled.alive.trans ends.held.2.2.symm)
  · change Source.Alike (left.sampleSteps .waiting 7).1.source
      (right.sampleSteps .waiting 7).1.source
    rw [ends.source, other.source]
    exact ⟨alike.current, alike.sessions, alike.thumbnails, alike.failing⟩
  · exact (sameHoldings_sample left).symm.trans (twin.holdings.trans (sameHoldings_sample right))

def Idles (sampler : Sampler) : Prop :=
  sampler.source.Fails ∨ sampler.nowPlaying = sampler.media

instance (sampler : Sampler) : Decidable sampler.Idles := by
  unfold Idles
  infer_instance

theorem Idles.untold {sampler : Sampler} (idles : sampler.Idles) (free : sampler.busy = false) :
    sampler.sample.2 = false := by
  rw [← Bool.not_eq_true, sample_snd_iff free]
  rintro ⟨works, differs⟩
  exact idles.elim works differs

theorem Idles.sample {sampler : Sampler} (idles : sampler.Idles) (free : sampler.busy = false) :
    Steady sampler sampler.sample.1 :=
  steady_sample free (media_sample (idles.untold free)) (idles.untold free)

/-- What comes before a sample and changes nothing that samples are about does not help it. -/
theorem Idles.later {before after : Sampler} (idles : before.Idles) (steady : Steady before after) :
    after.Idles := by
  unfold Idles
  rw [steady.samePlay.nowPlaying, steady.media]
  exact idles.imp_left steady.source.fails_iff.mpr

end Samples

section Notices

theorem Twin.note (twin : Twin left right) (level : Log.Level) (message : String)
    (values : List (String × Log.Value)) :
    Twin (left.note level message values) (right.note level message values) :=
  (twin_note _ _ _ _).symm.trans (twin.trans (twin_note _ _ _ _))

theorem handleChange_eq (sampler : Sampler) (change : MediaChange) :
    sampler.handleChange change = (sampler.noticed change).sample := by
  unfold handleChange noticed
  split <;> rfl

theorem notify_eq (sampler : Sampler) (token : String) (change : MediaChange) :
    sampler.notify token change =
      if sampler.source.listens token = true ∧ sampler.alive = true then
        (sampler.noticed change).sample
      else (sampler, false) := by
  simp only [notify, deliver, handleChange_eq]
  by_cases listens : sampler.source.listens token = true
  · by_cases alive : sampler.alive = true <;> simp [listens, alive]
  · simp [listens]

theorem Twin.noticed (twin : Twin left right) (change : MediaChange) :
    Twin (left.noticed change) (right.noticed change) := by
  unfold Sampler.noticed
  split
  · exact (twin.note _ _ _).sync
  · exact twin.note _ _ _

theorem Twin.notify (twin : Twin left right) (free : left.busy = false) (token : String)
    (change : MediaChange) :
    Twin (left.notify token change).1 (right.notify token change).1 ∧
      (right.notify token change).2 = (left.notify token change).2 := by
  have listens : right.source.listens token = left.source.listens token := by
    simp only [Source.listens, twin.holdings.source.live]
  have noticed := twin.noticed change
  have still := (left.steady_noticed change).busy.trans free
  rw [notify_eq, notify_eq, listens, twin.holdings.alive]
  split
  · exact ⟨noticed.sample still, noticed.sample_snd still⟩
  · exact ⟨twin, rfl⟩

theorem busy_sample {sampler : Sampler} (free : sampler.busy = false) :
    sampler.sample.1.busy = false := (ends_sample free).idle

theorem busy_notify {sampler : Sampler} (free : sampler.busy = false) (token : String)
    (change : MediaChange) : (sampler.notify token change).1.busy = false := by
  rw [notify_eq]
  split
  · exact busy_sample ((sampler.steady_noticed change).busy.trans free)
  · exact free

theorem published_notify {sampler : Sampler} (free : sampler.busy = false) (token : String)
    (change : MediaChange) :
    (sampler.notify token change).1.published =
      sampler.published + if (sampler.notify token change).2 then 1 else 0 := by
  have noticed := sampler.steady_noticed change
  rw [notify_eq]
  split
  · rw [published_sample (noticed.busy.trans free), noticed.published]
  · rfl

theorem busy_attach {sampler : Sampler} (free : sampler.busy = false) :
    sampler.attach.1.busy = false :=
  busy_sample ((steady_sync _).busy.trans (sampler.steady_subscribeManager.busy.trans free))

theorem Idles.notify {sampler : Sampler} (idles : sampler.Idles) (free : sampler.busy = false)
    (token : String) (change : MediaChange) :
    Steady sampler (sampler.notify token change).1 ∧ (sampler.notify token change).2 = false := by
  rw [notify_eq]
  split
  · have noticed := sampler.steady_noticed change
    have still : (sampler.noticed change).busy = false := noticed.busy.trans free
    have later := idles.later noticed
    exact ⟨noticed.trans (later.sample still), later.untold still⟩
  · exact ⟨Steady.refl sampler, rfl⟩

theorem sameHoldings_notify (sampler : Sampler) (token : String) {change : MediaChange}
    (apart : change ≠ .sessions) : SameHoldings sampler (sampler.notify token change).1 := by
  rw [notify_eq]
  split
  · rw [noticed, if_neg apart]
    exact (sameHoldings_note _ _ _ _).trans (sameHoldings_sample _)
  · exact SameHoldings.refl sampler

end Notices

end Sampler

end Marquee
