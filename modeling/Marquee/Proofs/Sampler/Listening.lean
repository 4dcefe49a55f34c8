import Marquee.Proofs.Sampler.LastSeen

/-!
Calls of a sampler that run at the same time. A call is a sequence of sections, each of which makes
at most one request of the source, or takes one step with what the sampler holds; between two
sections of a call the source may change and any other call may come. The registrations for sessions
are moved under a lock, and so is a sample. A call by itself does what the sampler does when it is
called at once.
-/

namespace Marquee

inductive Sequel where
  | returning
  | sampling
  | syncing
deriving DecidableEq, Repr

inductive Errand where
  | subscribing
  /-- The registrations are to take the place of the former ones for the source as a whole. -/
  | installing (numbers : List Nat)
  | noticing (change : MediaChange)
  | listing (sequel : Sequel)
  /-- The sessions are listed, and the lock on those held is to be taken. -/
  | updating (sessions : List Session) (sequel : Sequel)
  /-- Under the lock, sessions are to be registered for; the registrations of those that are gone
  are in hand. -/
  | adding (sessions : List Session) (stale : List Nat) (sequel : Sequel)
  | revoking (numbers : List Nat) (sequel : Sequel)
  | sampling (stage : SampleStage)
  | detaching
  /-- The registrations for the source as a whole are in hand, and those for sessions are to be
  taken. -/
  | emptying (manager : List Nat)
  | returned
deriving DecidableEq, Repr

def Sequel.errand : Sequel → Errand
  | returning => .returned
  | sampling => .sampling .waiting
  | syncing => .listing .sampling

namespace Errand

def numbers : Errand → List Nat
  | installing numbers => numbers
  | adding _ stale _ => stale
  | revoking numbers _ => numbers
  | emptying manager => manager
  | _ => []

def isReturned : Errand → Bool
  | returned => true
  | sampling (.done _) => true
  | _ => false

def told : Errand → Bool
  | sampling (.done published) => published
  | _ => false

end Errand

inductive Request where
  | attach
  | detach
  | sync
  | sample
  | notice (change : MediaChange)
deriving DecidableEq, Repr

namespace Request

def errand : Request → Errand
  | attach => .subscribing
  | detach => .detaching
  | sync => .listing .returning
  | sample => .sampling .waiting
  | notice change => .noticing change

def whole (sampler : Sampler) : Request → Sampler × Bool
  | attach => sampler.attach
  | detach => (sampler.detach, false)
  | sync => (sampler.sync, false)
  | sample => sampler.sample
  | notice change => sampler.deliver change

end Request

def Sampler.held (sampler : Sampler) : List Nat :=
  sampler.manager ++ sampler.sessions.flatMap Prod.snd

structure Listener where
  sampler : Sampler
  /-- Whether a call holds the lock on the registrations for sessions. -/
  locked : Bool := false
  /-- The registrations that calls have ended, each as often as one did so. -/
  ended : List Nat := []
  /-- The sets of registrations for the source as a whole that were granted since the last were
  taken out of the sampler. -/
  granted : List (List Nat) := []

namespace Listener

def letGo (listener : Listener) (number : Nat) : Listener :=
  { listener with
    sampler := { listener.sampler with source := listener.sampler.source.revoke number }
    ended := listener.ended ++ [number] }

/-- The next section of a call, and what is to be done after it. A call that finds a lock taken
waits. -/
def advance (listener : Listener) : Errand → Listener × Errand
  | .subscribing =>
    let (source, made) := listener.sampler.source.subscribeManager
    let sampler := { listener.sampler with source := source }
    match made with
    | .ok numbers =>
      ({ listener with sampler := sampler, granted := listener.granted ++ [numbers] },
        .installing numbers)
    | .error request =>
      ({ listener with
        sampler := sampler.noteFailure "media manager subscription failed" request },
        .listing .sampling)
  | .installing numbers =>
    ({ listener with sampler := { listener.sampler with manager := numbers } },
      .revoking listener.sampler.manager .syncing)
  | .noticing change =>
    ({ listener with
      sampler := listener.sampler.note .debug "media change notification"
        [("change", .text change.name)] },
      if change = .sessions then .listing .sampling else .sampling .waiting)
  | .listing sequel =>
    match listener.sampler.listSessions with
    | (sampler, none) => ({ listener with sampler := sampler }, sequel.errand)
    | (sampler, some sessions) =>
      ({ listener with sampler := sampler }, .updating sessions sequel)
  | .updating sessions sequel =>
    if listener.locked then
      (listener, .updating sessions sequel)
    else
      let (sampler, stale) := listener.sampler.dropUnlisted sessions
      ({ listener with sampler := sampler, locked := true }, .adding sessions stale sequel)
  | .adding [] stale sequel => ({ listener with locked := false }, .revoking stale sequel)
  | .adding (session :: rest) stale sequel =>
    ({ listener with sampler := listener.sampler.addSession session }, .adding rest stale sequel)
  | .revoking [] sequel => (listener, sequel.errand)
  | .revoking (number :: rest) sequel => (listener.letGo number, .revoking rest sequel)
  | .sampling stage =>
    let (sampler, stage) := listener.sampler.sampleStep stage
    ({ listener with sampler := sampler }, .sampling stage)
  | .detaching =>
    let (sampler, manager) := listener.sampler.takeManager
    ({ listener with sampler := sampler, granted := [] }, .emptying manager)
  | .emptying manager =>
    if listener.locked then
      (listener, .emptying manager)
    else
      let (sampler, sessions) := listener.sampler.takeSessions
      ({ listener with sampler := sampler }, .revoking (manager ++ sessions) .returning)
  | .returned => (listener, .returned)

def work (listener : Listener) (errand : Errand) : Nat → Listener × Errand
  | 0 => (listener, errand)
  | count + 1 =>
    let (listener, errand) := listener.advance errand
    listener.work errand count

def Leads (before after : Listener × Errand) : Prop :=
  ∃ count, before.1.work before.2 count = after

theorem work_add (listener : Listener) (errand : Errand) (first second : Nat) :
    listener.work errand (first + second) =
      (listener.work errand first).1.work (listener.work errand first).2 second := by
  induction first generalizing listener errand with
  | zero => simp [work]
  | succ first ih =>
      rw [Nat.succ_add]
      exact ih (listener.advance errand).1 (listener.advance errand).2

theorem Leads.refl (point : Listener × Errand) : Leads point point := ⟨0, rfl⟩

theorem Leads.trans {first second third : Listener × Errand} (earlier : Leads first second)
    (later : Leads second third) : Leads first third := by
  obtain ⟨before, reached⟩ := earlier
  obtain ⟨after, ends⟩ := later
  refine ⟨before + after, ?_⟩
  rw [work_add, reached]
  exact ends

theorem Leads.step {listener : Listener} {errand : Errand} {after : Listener × Errand}
    (later : Leads (listener.advance errand) after) : Leads (listener, errand) after := by
  obtain ⟨count, ends⟩ := later
  exact ⟨count + 1, ends⟩

theorem leads_sampling (listener : Listener) (stage : SampleStage) (steps : Nat) :
    Leads (listener, .sampling stage)
      ({ listener with sampler := (listener.sampler.sampleSteps stage steps).1 },
        .sampling (listener.sampler.sampleSteps stage steps).2) := by
  induction steps generalizing listener stage with
  | zero => exact Leads.refl _
  | succ steps ih =>
      apply Leads.step
      exact ih { listener with sampler := (listener.sampler.sampleStep stage).1 }
        (listener.sampler.sampleStep stage).2

theorem leads_sample (listener : Listener) (free : listener.sampler.busy = false) :
    Leads (listener, .sampling .waiting)
      ({ listener with sampler := listener.sampler.sample.1 },
        .sampling (.done listener.sampler.sample.2)) := by
  have stage := (Sampler.ends_sample free).stage
  have leads := leads_sampling listener .waiting 7
  have told : (listener.sampler.sampleSteps .waiting 7).2 = .done listener.sampler.sample.2 := by
    change _ = SampleStage.done ((listener.sampler.sampleSteps .waiting 7).2 == .done true)
    rw [stage]
    generalize Option.any _ _ = published
    cases published <;> rfl
  rw [told] at leads
  exact leads

theorem leads_revoking (listener : Listener) (numbers : List Nat) (sequel : Sequel) :
    Leads (listener, .revoking numbers sequel)
      ({ listener with
        sampler := listener.sampler.revokeAll numbers, ended := listener.ended ++ numbers },
        sequel.errand) := by
  induction numbers generalizing listener with
  | nil =>
      rw [List.append_nil]
      exact Leads.step (Leads.refl _)
  | cons number rest ih =>
      have later := ih (listener.letGo number)
      simp only [letGo, List.append_assoc, List.singleton_append] at later
      exact Leads.step later

theorem leads_adding (listener : Listener) (sessions : List Session) (stale : List Nat)
    (sequel : Sequel) :
    Leads (listener, .adding sessions stale sequel)
      ({ listener with
        sampler := sessions.foldl Sampler.addSession listener.sampler, locked := false },
        .revoking stale sequel) := by
  induction sessions generalizing listener with
  | nil => exact Leads.step (Leads.refl _)
  | cons session rest ih =>
      exact Leads.step (ih { listener with sampler := listener.sampler.addSession session })

theorem leads_sync (listener : Listener) (unlocked : listener.locked = false) (sequel : Sequel) :
    ∃ ended, Leads (listener, .listing sequel)
      ({ listener with sampler := listener.sampler.sync, ended := ended }, sequel.errand) := by
  cases found : listener.sampler.listSessions with
  | mk sampler sessions =>
      cases sessions with
      | none =>
          refine ⟨listener.ended, Leads.step ?_⟩
          simp only [advance, Sampler.sync, found]
          exact Leads.refl _
      | some sessions =>
          refine ⟨listener.ended ++ (sampler.dropUnlisted sessions).2, Leads.step ?_⟩
          simp only [advance, Sampler.sync, found, Sampler.update]
          apply Leads.step
          simp only [advance, unlocked, Bool.false_eq_true, if_false]
          have added := leads_adding
            { listener with sampler := (sampler.dropUnlisted sessions).1, locked := true }
            sessions (sampler.dropUnlisted sessions).2 sequel
          have ends := leads_revoking { listener with
            sampler := sessions.foldl Sampler.addSession (sampler.dropUnlisted sessions).1 }
            (sampler.dropUnlisted sessions).2 sequel
          simp only [unlocked] at added ends
          exact added.trans ends

theorem leads_syncThenSample (listener : Listener) (unlocked : listener.locked = false)
    (free : listener.sampler.busy = false) :
    ∃ ended, Leads (listener, .listing .sampling)
      ({ listener with sampler := listener.sampler.sync.sample.1, ended := ended },
        .sampling (.done listener.sampler.sync.sample.2)) := by
  obtain ⟨ended, synced⟩ := leads_sync listener unlocked .sampling
  have still : listener.sampler.sync.busy = false :=
    listener.sampler.steady_sync.busy.trans free
  exact ⟨ended, synced.trans
    (leads_sample { listener with sampler := listener.sampler.sync, ended := ended } still)⟩

theorem leads_attach (listener : Listener) (unlocked : listener.locked = false)
    (free : listener.sampler.busy = false) :
    ∃ ended granted, Leads (listener, .subscribing)
      (⟨listener.sampler.attach.1, false, ended, granted⟩,
        .sampling (.done listener.sampler.attach.2)) := by
  have still : listener.sampler.subscribeManager.busy = false :=
    listener.sampler.steady_subscribeManager.busy.trans free
  simp only [Sampler.attach]
  cases made : listener.sampler.source.subscribeManager with
  | mk source answer =>
      cases answer with
      | error request =>
          have subscribed : listener.sampler.subscribeManager =
              ({ listener.sampler with source := source } : Sampler).noteFailure
                "media manager subscription failed" request := by
            simp only [Sampler.subscribeManager, made]
          rw [subscribed] at still ⊢
          obtain ⟨ended, ends⟩ := leads_syncThenSample ⟨_, false, listener.ended, listener.granted⟩
            rfl still
          refine ⟨ended, listener.granted, Leads.step ?_⟩
          simp only [advance, made, unlocked]
          exact ends
      | ok numbers =>
          have subscribed : listener.sampler.subscribeManager =
              ({ listener.sampler with source := source, manager := numbers } : Sampler).revokeAll
                listener.sampler.manager := by
            simp only [Sampler.subscribeManager, made]
          rw [subscribed] at still ⊢
          obtain ⟨ended, ends⟩ := leads_syncThenSample
            ⟨_, false, listener.ended ++ listener.sampler.manager, listener.granted ++ [numbers]⟩
            rfl still
          refine ⟨ended, listener.granted ++ [numbers], Leads.step ?_⟩
          simp only [advance, made, unlocked]
          apply Leads.step
          exact (leads_revoking _ listener.sampler.manager .syncing).trans ends

theorem leads_notice (listener : Listener) (unlocked : listener.locked = false)
    (free : listener.sampler.busy = false) (change : MediaChange) :
    ∃ ended, Leads (listener, .noticing change)
      (⟨(listener.sampler.handleChange change).1, false, ended, listener.granted⟩,
        .sampling (.done (listener.sampler.handleChange change).2)) := by
  by_cases moves : change = .sessions
  · simp only [Sampler.handleChange, moves, if_true]
    obtain ⟨ended, ends⟩ := leads_syncThenSample
      ⟨listener.sampler.note .debug "media change notification"
        [("change", .text MediaChange.sessions.name)], false, listener.ended, listener.granted⟩
      rfl free
    refine ⟨ended, Leads.step ?_⟩
    simp only [advance, if_true, unlocked]
    exact ends
  · simp only [Sampler.handleChange, moves, if_false]
    refine ⟨listener.ended, Leads.step ?_⟩
    simp only [advance, moves, if_false, unlocked]
    exact leads_sample ⟨_, false, listener.ended, listener.granted⟩ free

theorem leads_detach (listener : Listener) (unlocked : listener.locked = false) :
    ∃ ended, Leads (listener, .detaching)
      (⟨listener.sampler.detach, false, ended, []⟩, .returned) := by
  have ends := leads_revoking
    ⟨listener.sampler.takeManager.1.takeSessions.1, false, listener.ended, []⟩
    (listener.sampler.takeManager.2 ++ listener.sampler.takeManager.1.takeSessions.2) .returning
  simp only [Sampler.revokeAll, Source.revokeAll, List.foldl_append] at ends
  refine ⟨listener.ended ++
    (listener.sampler.takeManager.2 ++ listener.sampler.takeManager.1.takeSessions.2),
    Leads.step ?_⟩
  simp only [advance]
  apply Leads.step
  simp only [advance, unlocked, Bool.false_eq_true, if_false]
  exact ends

theorem leads_whole (listener : Listener) (unlocked : listener.locked = false)
    (free : listener.sampler.busy = false) (alive : listener.sampler.alive = true)
    (request : Request) :
    ∃ ended granted errand, errand.isReturned = true ∧
      errand.told = (request.whole listener.sampler).2 ∧
      Leads (listener, request.errand)
        (⟨(request.whole listener.sampler).1, false, ended, granted⟩, errand) := by
  cases request with
  | attach =>
      obtain ⟨ended, granted, ends⟩ := leads_attach listener unlocked free
      exact ⟨ended, granted, _, rfl, rfl, ends⟩
  | detach =>
      obtain ⟨ended, ends⟩ := leads_detach listener unlocked
      exact ⟨ended, [], _, rfl, rfl, ends⟩
  | sync =>
      obtain ⟨ended, ends⟩ := leads_sync listener unlocked .returning
      rw [unlocked] at ends
      exact ⟨ended, listener.granted, _, rfl, rfl, ends⟩
  | sample =>
      have ends := leads_sample listener free
      rw [unlocked] at ends
      exact ⟨listener.ended, listener.granted, _, rfl, rfl, ends⟩
  | notice change =>
      obtain ⟨ended, ends⟩ := leads_notice listener unlocked free change
      simp only [Request.whole, Sampler.deliver, alive, if_true]
      exact ⟨ended, listener.granted, _, rfl, rfl, ends⟩

end Listener

structure Listening where
  listener : Listener
  errands : List Errand := []

namespace Listening

inductive Move where
  | begin (request : Request)
  /-- A call goes on by one section. -/
  | advance (number : Nat)
  | source (edit : SourceEdit)
  /-- The sampler goes away. -/
  | drop

/-- A sampler of a source that nobody has registered at. What the source plays, and which of its
requests fail, comes by its changes. -/
def start (format : TitleFormat) (artwork : Nat) (decoder : Artwork.Decoder) : Listening :=
  { listener := { sampler := Sampler.create {} format artwork decoder } }

def sampler (listening : Listening) : Sampler := listening.listener.sampler

def source (listening : Listening) : Source := listening.sampler.source

def isQuiet (listening : Listening) : Bool := listening.errands.all Errand.isReturned

def begin (listening : Listening) (request : Request) : Listening :=
  if listening.sampler.alive then
    { listening with errands := listening.errands ++ [request.errand] }
  else
    listening

def advance (listening : Listening) (number : Nat) : Listening :=
  match listening.errands[number]? with
  | none => listening
  | some errand =>
    let (listener, errand) := listening.listener.advance errand
    ⟨listener, listening.errands.set number errand⟩

def edit (listening : Listening) (edit : SourceEdit) : Listening :=
  { listening with
    listener := { listening.listener with sampler := listening.sampler.edit edit } }

def drop (listening : Listening) : Listening :=
  if listening.isQuiet && listening.sampler.alive then
    { listening with
      listener := { listening.listener with
        sampler := listening.sampler.drop
        ended := listening.listener.ended ++ listening.sampler.held
        granted := [] } }
  else
    listening

def step (listening : Listening) : Move → Listening
  | .begin request => listening.begin request
  | .advance number => listening.advance number
  | .source edit => listening.edit edit
  | .drop => listening.drop

def run (listening : Listening) (moves : List Move) : Listening := moves.foldl step listening

theorem begin_alive {listening : Listening} (living : listening.sampler.alive = true)
    (request : Request) :
    listening.begin request =
      { listening with errands := listening.errands ++ [request.errand] } := if_pos living

theorem sampler_begin (listening : Listening) (request : Request) :
    (listening.begin request).sampler = listening.sampler := by
  unfold Listening.begin
  split <;> rfl

theorem run_advancing (listener : Listener) (errands : List Errand) (errand : Errand)
    (count : Nat) :
    (⟨listener, errands ++ [errand]⟩ : Listening).run
        (List.replicate count (.advance errands.length)) =
      ⟨(listener.work errand count).1, errands ++ [(listener.work errand count).2]⟩ := by
  induction count generalizing listener errand with
  | zero => rfl
  | succ count ih =>
      have first : (⟨listener, errands ++ [errand]⟩ : Listening).advance errands.length =
          ⟨(listener.advance errand).1, errands ++ [(listener.advance errand).2]⟩ := by
        simp [advance]
      change ((⟨listener, errands ++ [errand]⟩ : Listening).advance errands.length).run _ = _
      rw [first]
      exact ih (listener.advance errand).1 (listener.advance errand).2

/-- A call that nobody comes between does what the sampler does when it is called at once. -/
theorem run_alone (listening : Listening) (unlocked : listening.listener.locked = false)
    (free : listening.sampler.busy = false) (living : listening.sampler.alive = true)
    (request : Request) :
    ∃ count ended granted errand, errand.isReturned = true ∧
      errand.told = (request.whole listening.sampler).2 ∧
      listening.run (.begin request :: List.replicate count (.advance listening.errands.length)) =
        ⟨⟨(request.whole listening.sampler).1, false, ended, granted⟩,
          listening.errands ++ [errand]⟩ := by
  obtain ⟨ended, granted, errand, finished, told, count, ends⟩ :=
    listening.listener.leads_whole unlocked free living request
  refine ⟨count, ended, granted, errand, finished, told, ?_⟩
  change (listening.begin request).run _ = _
  rw [begin_alive living, run_advancing]
  simp only at ends
  rw [ends]
  rfl

end Listening

end Marquee
