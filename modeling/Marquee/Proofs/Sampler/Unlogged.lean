import Marquee.Sampler.Notice

/-!
Nothing that a sampler does depends on what it has logged before. So two samplers that differ only
in their logs stay so, whatever they are told, and answer the same.
-/

namespace Marquee.Sampler

def unlogged (sampler : Sampler) : Sampler := { sampler with log := [] }

structure Agrees {α : Type} (left right : Sampler × α) : Prop where
  sampler : left.1.unlogged = right.1.unlogged
  told : left.2 = right.2

theorem agrees_of_unlogged {α : Type} (operate : Sampler → Sampler × α)
    (blind : ∀ sampler, Agrees (operate sampler.unlogged) (operate sampler)) {left right : Sampler}
    (same : left.unlogged = right.unlogged) : Agrees (operate left) (operate right) := by
  have first := blind left
  have second := blind right
  rw [same] at first
  exact ⟨first.sampler.symm.trans second.sampler, first.told.symm.trans second.told⟩

theorem unlogged_of_unlogged (operate : Sampler → Sampler)
    (blind : ∀ sampler, (operate sampler.unlogged).unlogged = (operate sampler).unlogged)
    {left right : Sampler} (same : left.unlogged = right.unlogged) :
    (operate left).unlogged = (operate right).unlogged := by
  rw [← blind left, ← blind right, same]

section Samples

theorem agrees_foreground (sampler : Sampler) :
    Agrees sampler.unlogged.readForeground sampler.readForeground := by
  simp only [readForeground, unlogged]
  split
  · exact ⟨rfl, rfl⟩
  · exact ⟨rfl, rfl⟩
  · exact ⟨rfl, rfl⟩

theorem agrees_listed (sampler : Sampler) :
    Agrees sampler.unlogged.readListed sampler.readListed := by
  simp only [readListed, unlogged]
  split <;> exact ⟨rfl, rfl⟩

theorem agrees_image (sampler : Sampler) (session : Session) (bytes : Option ByteArray) :
    Agrees (sampler.unlogged.image session bytes) (sampler.image session bytes) := by
  simp only [image, unlogged]
  split
  · exact ⟨rfl, rfl⟩
  · split <;> exact ⟨rfl, rfl⟩

theorem Agrees.pictured {left right : Sampler × String} (same : Agrees left right)
    (session : Session) :
    Agrees (left.1, SampleStage.found ⟨left.1.format.render session, left.2⟩)
      (right.1, SampleStage.found ⟨right.1.format.render session, right.2⟩) := by
  have format := congrArg Sampler.format same.sampler
  change left.1.format = right.1.format at format
  refine ⟨same.sampler, ?_⟩
  simp only [format, same.told]

theorem agrees_picture (sampler : Sampler) (session : Session) :
    Agrees (sampler.unlogged.readPicture session) (sampler.readPicture session) := by
  have source : sampler.unlogged.source = sampler.source := rfl
  simp only [readPicture, source]
  cases (sampler.source.readThumbnail session.id).2 with
  | error request => exact ⟨rfl, rfl⟩
  | ok bytes =>
      exact (agrees_image { sampler with source := (sampler.source.readThumbnail session.id).1 }
        session bytes).pictured session

theorem agrees_sampleStep (sampler : Sampler) (stage : SampleStage) :
    Agrees (sampler.unlogged.sampleStep stage) (sampler.sampleStep stage) := by
  cases stage with
  | waiting =>
      by_cases busy : sampler.busy = true
      · have still : sampler.unlogged.busy = true := busy
        simp only [sampleStep, busy, still, if_true]
        exact ⟨rfl, rfl⟩
      · have still : ¬ sampler.unlogged.busy = true := busy
        simp only [sampleStep, busy, still]
        exact ⟨rfl, rfl⟩
  | entered => exact agrees_foreground sampler
  | listing => exact agrees_listed sampler
  | picturing session => exact agrees_picture sampler session
  | found next => exact ⟨rfl, rfl⟩
  | changed => exact ⟨rfl, rfl⟩
  | leaving published => exact ⟨rfl, rfl⟩
  | done published => exact ⟨rfl, rfl⟩

theorem agrees_sampleSteps (steps : Nat) (sampler : Sampler) (stage : SampleStage) :
    Agrees (sampler.unlogged.sampleSteps stage steps) (sampler.sampleSteps stage steps) := by
  induction steps generalizing sampler stage with
  | zero => exact ⟨rfl, rfl⟩
  | succ steps ih =>
      have first := agrees_sampleStep sampler stage
      simp only [sampleSteps, first.told]
      exact agrees_of_unlogged (·.sampleSteps _ steps) (fun sampler => ih sampler _) first.sampler

theorem agrees_sample (sampler : Sampler) : Agrees sampler.unlogged.sample sampler.sample := by
  have steps := agrees_sampleSteps 7 sampler .waiting
  refine ⟨steps.sampler, ?_⟩
  simp only [sample, steps.told]

end Samples

section Registrations

theorem unlogged_foldl {α : Type} {change : Sampler → α → Sampler}
    (blind : ∀ item sampler,
      (change sampler.unlogged item).unlogged = (change sampler item).unlogged)
    (items : List α) {left right : Sampler} (same : left.unlogged = right.unlogged) :
    (items.foldl change left).unlogged = (items.foldl change right).unlogged := by
  induction items generalizing left right with
  | nil => exact same
  | cons item rest ih => exact ih (unlogged_of_unlogged (change · item) (blind item) same)

theorem agrees_listSessions (sampler : Sampler) :
    Agrees sampler.unlogged.listSessions sampler.listSessions := by
  simp only [listSessions]
  have source : sampler.unlogged.source = sampler.source := rfl
  rw [source]
  cases (sampler.source.readSessions).2 with
  | error request => exact ⟨rfl, rfl⟩
  | ok sessions =>
      refine ⟨unlogged_foldl (fun _ _ => rfl) sessions ?_, rfl⟩
      rfl

theorem agrees_dropUnlisted (sampler : Sampler) (sessions : List Session) :
    Agrees (sampler.unlogged.dropUnlisted sessions) (sampler.dropUnlisted sessions) :=
  ⟨unlogged_foldl (fun _ _ => rfl) _ rfl, rfl⟩

theorem unlogged_addSession (session : Session) (sampler : Sampler) :
    (sampler.unlogged.addSession session).unlogged = (sampler.addSession session).unlogged := by
  have subscribed : sampler.unlogged.subscribed = sampler.subscribed := rfl
  have source : sampler.unlogged.source = sampler.source := rfl
  simp only [addSession, subscribed, source]
  by_cases held : session.id ∈ sampler.subscribed
  · rw [if_pos held, if_pos held]
    rfl
  · rw [if_neg held, if_neg held]
    cases (sampler.source.subscribeSession session.id).2 <;> rfl

theorem agrees_update (sampler : Sampler) (sessions : List Session) :
    Agrees (sampler.unlogged.update sessions) (sampler.update sessions) := by
  have dropped := agrees_dropUnlisted sampler sessions
  exact ⟨unlogged_foldl unlogged_addSession sessions dropped.sampler, dropped.told⟩

theorem unlogged_revokeAll (numbers : List Nat) (sampler : Sampler) :
    (sampler.unlogged.revokeAll numbers).unlogged = (sampler.revokeAll numbers).unlogged := rfl

theorem unlogged_sync (sampler : Sampler) :
    sampler.unlogged.sync.unlogged = sampler.sync.unlogged := by
  have listed := agrees_listSessions sampler
  simp only [sync]
  cases first : sampler.unlogged.listSessions with
  | mk left found =>
      cases second : sampler.listSessions with
      | mk right sessions =>
          rw [first, second] at listed
          obtain ⟨same, told⟩ := listed
          cases told
          cases found with
          | none => exact same
          | some sessions =>
              have updated := agrees_of_unlogged (·.update sessions)
                (fun sampler => agrees_update sampler sessions) same
              simp only [updated.told]
              exact unlogged_of_unlogged (·.revokeAll _) (unlogged_revokeAll _) updated.sampler

theorem unlogged_edit (change : SourceEdit) (sampler : Sampler) :
    (sampler.unlogged.edit change).unlogged = (sampler.edit change).unlogged := rfl

end Registrations

theorem agrees_handleChange (sampler : Sampler) (change : MediaChange) :
    Agrees (sampler.unlogged.handleChange change) (sampler.handleChange change) := by
  simp only [handleChange]
  split
  · exact agrees_of_unlogged sample agrees_sample (unlogged_of_unlogged sync unlogged_sync rfl)
  · exact agrees_of_unlogged sample agrees_sample rfl

theorem agrees_notify (sampler : Sampler) (token : String) (change : MediaChange) :
    Agrees (sampler.unlogged.notify token change) (sampler.notify token change) := by
  have listens : sampler.unlogged.source.listens token = sampler.source.listens token := rfl
  have alive : sampler.unlogged.alive = sampler.alive := rfl
  simp only [notify, deliver, listens, alive]
  split
  · split
    · exact agrees_handleChange sampler change
    · exact ⟨rfl, rfl⟩
  · exact ⟨rfl, rfl⟩

end Marquee.Sampler
