import Marquee.Sampler.Notice

/-!
What the buttons show is changed only by a sample that tells so. A sample goes from stage to stage
without coming back, and what it has found is told of as soon as the media differ from it.
-/

namespace Marquee

namespace SampleStage

def told : SampleStage → Bool
  | changed => true
  | leaving published => published
  | done published => published
  | _ => false

def rank : SampleStage → Nat
  | waiting => 7
  | entered => 6
  | listing => 5
  | picturing _ => 4
  | found _ => 3
  | changed => 2
  | leaving _ => 1
  | done _ => 0

theorem eq_done_of_rank {stage : SampleStage} (last : stage.rank = 0) :
    stage = .done stage.told := by
  cases stage with
  | done published => rfl
  | _ => cases last

end SampleStage

namespace Sampler

theorem media_image (sampler : Sampler) (session : Session) (bytes : Option ByteArray) :
    (sampler.image session bytes).1.media = sampler.media := by
  unfold image
  split
  · rfl
  · split <;> rfl

structure Reads (before : Sampler) (rank : Nat) (after : Sampler × SampleStage) : Prop where
  media : after.1.media = before.media
  untold : after.2.told = false
  further : after.2.rank < rank

theorem reads_choose (sampler : Sampler) (session : Option Session) {rank : Nat} (far : 4 < rank) :
    Reads sampler rank (sampler, sampler.choose session) := by
  cases session with
  | none => exact ⟨rfl, rfl, Nat.lt_trans (by decide : 3 < 4) far⟩
  | some session =>
      simp only [choose]
      split
      · exact ⟨rfl, rfl, Nat.lt_trans (by decide : 3 < 4) far⟩
      · exact ⟨rfl, rfl, far⟩

theorem reads_foreground (sampler : Sampler) : Reads sampler 6 sampler.readForeground := by
  simp only [readForeground]
  cases sampler.source.readCurrent.2 with
  | error request => exact ⟨rfl, rfl, (by decide : 1 < 6)⟩
  | ok found =>
      cases found with
      | none => exact ⟨rfl, rfl, (by decide : 5 < 6)⟩
      | some session =>
          simp only
          split
          · have goesOn := reads_choose { sampler with source := sampler.source.readCurrent.1 }
              (some session) (by decide : 4 < 6)
            exact ⟨rfl, goesOn.untold, goesOn.further⟩
          · exact ⟨rfl, rfl, (by decide : 5 < 6)⟩

theorem reads_listed (sampler : Sampler) : Reads sampler 5 sampler.readListed := by
  simp only [readListed]
  cases sampler.source.readSessions.2 with
  | error request => exact ⟨rfl, rfl, (by decide : 1 < 5)⟩
  | ok sessions =>
      have goesOn := reads_choose { sampler with source := sampler.source.readSessions.1 }
        (sessions.find? (·.status.isPlaying)) (by decide : 4 < 5)
      exact ⟨rfl, goesOn.untold, goesOn.further⟩

theorem reads_picture (sampler : Sampler) (session : Session) :
    Reads sampler 4 (sampler.readPicture session) := by
  simp only [readPicture]
  cases (sampler.source.readThumbnail session.id).2 with
  | error request => exact ⟨rfl, rfl, (by decide : 1 < 4)⟩
  | ok bytes => exact ⟨media_image _ session bytes, rfl, (by decide : 3 < 4)⟩

/-- A step of a sample that has entered brings it nearer to its end, keeps what it is going to tell,
and leaves the media as they are unless the sample tells of them from then on. -/
structure Goes (before : Sampler) (stage : SampleStage) (after : Sampler × SampleStage) : Prop where
  nearer : after.2.rank ≤ stage.rank - 1
  told : stage.told = true → after.2.told = true
  media : after.2.told = false → after.1.media = before.media

theorem Reads.goes {sampler : Sampler} {stage : SampleStage} {after : Sampler × SampleStage}
    (reads : Reads sampler stage.rank after) (untold : stage.told = false) :
    Goes sampler stage after := by
  refine ⟨Nat.le_sub_one_of_lt reads.further, ?_, fun _ => reads.media⟩
  intro told
  rw [untold] at told
  cases told

theorem goes_store (sampler : Sampler) (next : NowPlaying) :
    Goes sampler (.found next) (sampler.store next) := by
  unfold store NowPlaying.replace
  by_cases same : sampler.media = next
  · simp only [same, if_true, Bool.false_eq_true, if_false]
    exact ⟨(by decide : 1 ≤ 2), id, fun _ => same.symm⟩
  · simp only [same, if_false, if_true]
    exact ⟨(by decide : 2 ≤ 2), fun _ => rfl, nofun⟩

theorem goes_step (sampler : Sampler) {stage : SampleStage} (entered : stage.rank < 7) :
    Goes sampler stage (sampler.sampleStep stage) := by
  cases stage with
  | waiting => exact absurd entered (Nat.lt_irrefl 7)
  | entered => exact (reads_foreground sampler).goes rfl
  | listing => exact (reads_listed sampler).goes rfl
  | picturing session => exact (reads_picture sampler session).goes rfl
  | found next => exact goes_store sampler next
  | changed => exact ⟨(by decide : 1 ≤ 1), fun _ => rfl, nofun⟩
  | leaving published => exact ⟨Nat.le_refl 0, id, fun _ => rfl⟩
  | done published => exact ⟨Nat.le_refl 0, id, fun _ => rfl⟩

theorem sampleSteps_succ (sampler : Sampler) (stage : SampleStage) (steps : Nat) :
    sampler.sampleSteps stage (steps + 1) =
      (sampler.sampleStep stage).1.sampleSteps (sampler.sampleStep stage).2 steps := rfl

theorem sampleSteps_entered (steps : Nat) (sampler : Sampler) {stage : SampleStage}
    (entered : stage.rank < 7) (enough : stage.rank ≤ steps) :
    ∃ published, (sampler.sampleSteps stage steps).2 = .done published ∧
      (stage.told = true → published = true) ∧
      (published = false → (sampler.sampleSteps stage steps).1.media = sampler.media) := by
  induction steps generalizing sampler stage with
  | zero =>
      have last := SampleStage.eq_done_of_rank (Nat.le_zero.mp enough)
      exact ⟨stage.told, last, id, fun _ => rfl⟩
  | succ steps ih =>
      have goes := goes_step sampler entered
      have nearer := goes.nearer
      have within : (sampler.sampleStep stage).2.rank < 7 := by omega
      obtain ⟨published, ends, told, media⟩ := ih (sampler.sampleStep stage).1 within (by omega)
      refine ⟨published, ends, fun before => told (goes.told before), ?_⟩
      intro silent
      -- What is told once is told to the end, so nothing was told yet after the first step.
      have untold : (sampler.sampleStep stage).2.told = false := by
        apply Bool.eq_false_iff.mpr
        intro was
        rw [told was] at silent
        cases silent
      exact (media silent).trans (goes.media untold)

theorem sampleSteps_busy (steps : Nat) {sampler : Sampler} (busy : sampler.busy = true) :
    sampler.sampleSteps .waiting steps = (sampler, .waiting) := by
  induction steps with
  | zero => rfl
  | succ steps ih =>
      simp only [sampleSteps, sampleStep, busy, if_true]
      exact ih

/-- A sample that publishes nothing leaves the media as they are. -/
theorem media_sample {sampler : Sampler} (unpublished : sampler.sample.2 = false) :
    sampler.sample.1.media = sampler.media := by
  cases busy : sampler.busy with
  | true => simp only [sample, sampleSteps_busy 7 busy]
  | false =>
      have within : SampleStage.entered.rank < 7 := by decide
      obtain ⟨published, ends, _, media⟩ :=
        sampleSteps_entered 6 { sampler with busy := true } within (Nat.le_refl 6)
      have enters : sampler.sampleStep .waiting = ({ sampler with busy := true }, .entered) := by
        simp only [sampleStep, busy, Bool.false_eq_true, if_false]
      have steps := sampleSteps_succ sampler .waiting 6
      rw [enters] at steps
      simp only [sample, steps, ends] at unpublished ⊢
      apply media
      cases published with
      | false => rfl
      | true => simp at unpublished

theorem media_foldl {α : Type} {change : Sampler → α → Sampler}
    (steady : ∀ sampler item, (change sampler item).media = sampler.media) (sampler : Sampler)
    (items : List α) : (items.foldl change sampler).media = sampler.media := by
  induction items generalizing sampler with
  | nil => rfl
  | cons item rest ih => exact (ih (change sampler item)).trans (steady sampler item)

theorem media_addSession (sampler : Sampler) (session : Session) :
    (sampler.addSession session).media = sampler.media := by
  simp only [addSession]
  split
  · rfl
  · cases (sampler.source.subscribeSession session.id).2 <;> rfl

theorem media_dropUnlisted (sampler : Sampler) (sessions : List Session) :
    (sampler.dropUnlisted sessions).1.media = sampler.media := by
  simp only [dropUnlisted]
  apply media_foldl
  intro sampler entry
  rfl

theorem media_update (sampler : Sampler) (sessions : List Session) :
    (sampler.update sessions).1.media = sampler.media :=
  (media_foldl media_addSession (sampler.dropUnlisted sessions).1 sessions).trans
    (media_dropUnlisted sampler sessions)

theorem media_listSessions (sampler : Sampler) :
    sampler.listSessions.1.media = sampler.media := by
  simp only [listSessions]
  cases sampler.source.readSessions.2 with
  | error request => rfl
  | ok sessions =>
      apply media_foldl
      intro sampler session
      rfl

theorem media_sync (sampler : Sampler) : sampler.sync.media = sampler.media := by
  have listed := media_listSessions sampler
  simp only [sync]
  cases found : sampler.listSessions with
  | mk listing sessions =>
      rw [found] at listed
      cases sessions with
      | none => exact listed
      | some sessions => exact (media_update listing sessions).trans listed

theorem media_edits (sampler : Sampler) (edits : List SourceEdit) :
    (edits.foldl edit sampler).media = sampler.media := by
  apply media_foldl
  intro sampler edit
  rfl

end Sampler

end Marquee
