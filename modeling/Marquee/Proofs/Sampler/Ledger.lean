import Marquee.Proofs.Sampler.Holdings

/-!
The registrations of a sampler whose calls come one after another. Whenever no call is under way,
those in force are the ones that the sampler holds, and there is one set for the source as a whole
and one for a session at most; none is ended twice, and nothing is left of them once the sampler has
let everything go.
-/

namespace Marquee

namespace Listening

def Move.begins : Move → Bool
  | .begin _ => true
  | .drop => true
  | _ => false

def inTurn (listening : Listening) : List Move → Bool
  | [] => true
  | move :: rest =>
    (listening.isQuiet || !move.begins) && (listening.step move).inTurn rest

def newest (listening : Listening) : List Nat :=
  listening.listener.granted.getLast?.getD []

variable {listening : Listening}

/-- At most one call is under way, and the registrations for the source as a whole are the newest
ones, or that call is about to install these. -/
structure Serial (listening : Listening) : Prop where
  alone : ∀ {number errand}, listening.errands[number]? = some errand →
    errand.isReturned = false → number + 1 = listening.errands.length
  newest : (∃ numbers, .installing numbers ∈ listening.errands ∧
      listening.listener.granted.getLast? = some numbers) ∨
    (∀ numbers, .installing numbers ∉ listening.errands) ∧
      listening.sampler.manager = listening.newest

theorem Serial.others (serial : listening.Serial) {number : Nat} {errand : Errand}
    (found : listening.errands[number]? = some errand) (active : errand.isReturned = false)
    (after : Errand) {other : Errand} (member : other ∈ listening.errands.set number after) :
    other = after ∨ other.isReturned = true := by
  obtain ⟨place, present⟩ := List.mem_iff_getElem?.mp member
  rw [List.getElem?_set] at present
  split at present
  · split at present
    · exact Or.inl (Option.some.inj present).symm
    · cases present
  · rename_i apart
    right
    by_contra busy
    have last := serial.alone found active
    have also := serial.alone present (Bool.eq_false_iff.mpr busy)
    omega

theorem Serial.installing (serial : listening.Serial) {number : Nat} {errand : Errand}
    (found : listening.errands[number]? = some errand) (active : errand.isReturned = false)
    {numbers : List Nat} (member : .installing numbers ∈ listening.errands) :
    errand = .installing numbers := by
  obtain ⟨place, present⟩ := List.mem_iff_getElem?.mp member
  have last := serial.alone found active
  have also := serial.alone present rfl
  have same : place = number := by omega
  rw [same, found] at present
  exact Option.some.inj present

theorem Serial.not_installing (serial : listening.Serial) {number : Nat} {errand : Errand}
    (found : listening.errands[number]? = some errand) (active : errand.isReturned = false)
    {after : Errand} (apart : after.attaches = false) (numbers : List Nat) :
    .installing numbers ∉ listening.errands.set number after := by
  intro member
  rcases serial.others found active after member with same | gone
  · exact Errand.ne_installing apart numbers same.symm
  · cases gone

theorem Serial.alone_set (serial : listening.Serial) {number : Nat} {errand : Errand}
    (found : listening.errands[number]? = some errand) (active : errand.isReturned = false)
    (after : Errand) {place : Nat} {other : Errand}
    (present : (listening.errands.set number after)[place]? = some other)
    (busy : other.isReturned = false) :
    place + 1 = (listening.errands.set number after).length := by
  rw [List.length_set]
  have last := serial.alone found active
  rw [List.getElem?_set] at present
  split at present
  · omega
  · exact serial.alone present busy

/-- A section of the call under way leaves the newest registrations for the source as a whole in
the sampler, or in that call. -/
theorem Serial.newest_section (serial : listening.Serial) {number : Nat} {errand next : Errand}
    {after : Listener} (found : listening.errands[number]? = some errand)
    (active : errand.isReturned = false) (passed : listening.listener.Section errand after next) :
    (∃ numbers, .installing numbers ∈ listening.errands.set number next ∧
      after.granted.getLast? = some numbers) ∨
    (∀ numbers, .installing numbers ∉ listening.errands.set number next) ∧
      after.sampler.manager = after.granted.getLast?.getD [] := by
  by_cases places : ∃ numbers, errand = .installing numbers
  · obtain ⟨numbers, same⟩ := places
    subst same
    cases passed
    refine Or.inr ⟨serial.not_installing found active rfl, ?_⟩
    rcases serial.newest with ⟨newest, member, last⟩ | ⟨absent, _⟩
    · have equal := serial.installing found active member
      cases equal
      rw [last]
      rfl
    · exact absurd (List.mem_of_getElem? found) (absent numbers)
  -- No set waits to be installed, since no other call is under way.
  · have settled : listening.listener.sampler.manager =
        listening.listener.granted.getLast?.getD [] := by
      rcases serial.newest with ⟨newest, member, _⟩ | ⟨_, same⟩
      · exact absurd ⟨newest, serial.installing found active member⟩ places
      · exact same
    by_cases stays : errand = .detaching
    · subst stays
      cases passed
      exact Or.inr ⟨serial.not_installing found active rfl, rfl⟩
    · by_cases subscribes : errand = .subscribing
      · subst subscribes
        cases passed with
        | refused => exact Or.inr ⟨serial.not_installing found active rfl, settled⟩
        | granted =>
            refine Or.inl ⟨_, List.mem_set (List.getElem?_eq_some_iff.mp found).1 _, ?_⟩
            simp
      · have apart : errand.attaches = false := by
          cases errand with
          | subscribing => exact absurd rfl subscribes
          | installing numbers => exact absurd ⟨numbers, rfl⟩ places
          | _ => rfl
        obtain ⟨granted, manager, other⟩ := passed.apart apart stays
        refine Or.inr ⟨serial.not_installing found active other, ?_⟩
        rw [granted]
        exact manager.trans settled

theorem Serial.advance (serial : listening.Serial) (number : Nat) :
    (listening.advance number).Serial := by
  cases found : listening.errands[number]? with
  | none =>
      rw [advance_absent found]
      exact serial
  | some errand =>
      by_cases finished : errand.isReturned = true
      · rw [advance_returned found finished]
        exact serial
      · have active : errand.isReturned = false := Bool.eq_false_iff.mpr finished
        rw [advance_found found]
        constructor
        · exact serial.alone_set found active _
        · exact serial.newest_section found active (listening.listener.section_advance errand)

theorem Serial.of_isQuiet (quiet : listening.isQuiet = true)
    (newest : listening.sampler.manager = listening.newest) : listening.Serial := by
  have finished := List.all_eq_true.mp quiet
  constructor
  · intro number errand found active
    have returned := finished errand (List.mem_of_getElem? found)
    rw [active] at returned
    cases returned
  · refine Or.inr ⟨?_, newest⟩
    intro numbers member
    cases finished _ member

theorem Serial.newest_of_isQuiet (serial : listening.Serial) (quiet : listening.isQuiet = true) :
    listening.sampler.manager = listening.newest := by
  rcases serial.newest with ⟨numbers, member, _⟩ | ⟨_, same⟩
  · cases List.all_eq_true.mp quiet _ member
  · exact same

theorem Serial.begin (serial : listening.Serial) (quiet : listening.isQuiet = true)
    (request : Request) : (listening.begin request).Serial := by
  have finished := List.all_eq_true.mp quiet
  unfold Listening.begin
  split
  · constructor
    · intro number errand found active
      have within := (List.getElem?_eq_some_iff.mp found).1
      simp only [List.length_append, List.length_singleton] at within ⊢
      by_cases old : number < listening.errands.length
      · rw [List.getElem?_append_left old] at found
        have returned := finished errand (List.mem_of_getElem? found)
        rw [active] at returned
        cases returned
      · omega
    · refine Or.inr ⟨?_, serial.newest_of_isQuiet quiet⟩
      intro numbers member
      rcases List.mem_append.mp member with old | new
      · cases finished _ old
      · have same := List.mem_singleton.mp new
        cases request <;> cases same
  · exact serial

theorem Serial.drop (serial : listening.Serial) : listening.drop.Serial := by
  unfold Listening.drop
  split
  · rename_i ready
    exact Serial.of_isQuiet (Bool.and_eq_true_iff.mp ready).1 rfl
  · exact serial

theorem Serial.step (serial : listening.Serial) (move : Move)
    (turn : (listening.isQuiet || !move.begins) = true) : (listening.step move).Serial := by
  cases move with
  | begin request =>
      rw [Move.begins, Bool.not_true, Bool.or_false] at turn
      exact serial.begin turn request
  | advance number => exact serial.advance number
  | source edit => exact ⟨serial.alone, serial.newest⟩
  | drop => exact serial.drop

theorem Serial.run (serial : listening.Serial) (moves : List Move)
    (turns : listening.inTurn moves = true) : (listening.run moves).Serial := by
  induction moves generalizing listening with
  | nil => exact serial
  | cons move rest ih =>
      obtain ⟨turn, later⟩ := Bool.and_eq_true_iff.mp turns
      exact ih (serial.step move turn) later

end Listening

def Source.numbersOn (source : Source) (topics : List Topic) : List Nat :=
  (source.live.filter fun registration => registration.topic ∈ topics).map Registration.number

namespace Topic

theorem nodup_ofSession (id : String) : (ofSession id).Nodup := by simp [ofSession]

theorem eq_of_mem_ofSession {first second : String} {topic : Topic}
    (one : topic ∈ ofSession first) (other : topic ∈ ofSession second) : first = second := by
  simp only [ofSession, List.mem_cons, List.not_mem_nil, or_false] at one other
  rcases one with rfl | rfl <;> rcases other with same | same <;> cases same <;> rfl

theorem not_mem_ofSession {topic : Topic} (general : topic ∈ ofManager) (id : String) :
    topic ∉ ofSession id := by
  simp only [ofManager, List.mem_cons, List.not_mem_nil, or_false] at general
  rcases general with rfl | rfl <;> simp [ofSession]

end Topic

theorem eq_of_mem_zip {α β : Type} {items : List α} {marks : List β} (distinct : marks.Nodup)
    {first second : α} {mark : β} (one : (first, mark) ∈ items.zip marks)
    (other : (second, mark) ∈ items.zip marks) : first = second := by
  obtain ⟨here, _, found⟩ := List.getElem_of_mem one
  obtain ⟨there, _, present⟩ := List.getElem_of_mem other
  rw [List.getElem_zip, Prod.mk.injEq] at found present
  have same : here = there := distinct.getElem_inj_iff.mp (found.2.trans present.2.symm)
  subst same
  exact found.1.symm.trans present.1

namespace Listener

variable {listener : Listener}

theorem Kept.place (kept : listener.Kept []) {registration : Registration}
    (live : registration ∈ listener.sampler.source.live) :
    (registration.number, registration.topic) ∈
        listener.sampler.manager.zip Topic.ofManager ∨
      ∃ entry ∈ listener.sampler.sessions, (registration.number, registration.topic) ∈
        entry.2.zip (Topic.ofSession entry.1) := by
  have held := kept.owned.subset (List.mem_map_of_mem live)
  rw [List.append_nil, Sampler.held, List.mem_append, List.mem_flatMap] at held
  rcases held with manager | ⟨entry, member, among⟩
  · exact Or.inl (kept.manager registration live manager)
  · exact Or.inr ⟨entry, member, kept.sessions entry member registration live among⟩

theorem Kept.eq_of_topic (kept : listener.Kept []) {first second : Registration}
    (one : first ∈ listener.sampler.source.live) (other : second ∈ listener.sampler.source.live)
    (same : first.topic = second.topic) : first = second := by
  have number : first.number = second.number := by
    have here := kept.place one
    have there := kept.place other
    rw [← same] at there
    -- Topics of the source as a whole and of sessions differ, and so do those of two sessions.
    rcases here with general | ⟨entry, member, single⟩ <;>
      rcases there with generally | ⟨mark, present, singly⟩
    · exact eq_of_mem_zip (by decide) general generally
    · exact absurd (List.of_mem_zip singly).2
        (Topic.not_mem_ofSession (List.of_mem_zip general).2 mark.1)
    · exact absurd (List.of_mem_zip single).2
        (Topic.not_mem_ofSession (List.of_mem_zip generally).2 entry.1)
    · have id := Topic.eq_of_mem_ofSession (List.of_mem_zip single).2 (List.of_mem_zip singly).2
      have equal : entry = mark := List.inj_on_of_nodup_map kept.distinct member present id
      subst equal
      exact eq_of_mem_zip (Topic.nodup_ofSession entry.1) single singly
  cases first
  cases second
  simp_all

theorem Kept.nodup_held {inHand : List Nat} (kept : listener.Kept inHand) :
    (listener.sampler.held ++ inHand).Nodup :=
  kept.owned.nodup kept.issued.nodup.of_append_left

/-- A part of what is held that has all the registrations for some topics has nothing else. -/
theorem Kept.numbersOn_perm (kept : listener.Kept []) {part : List Nat} {topics : List Topic}
    (single : part.Nodup) (held : part ⊆ listener.sampler.held)
    (stamped : listener.sampler.source.Stamped part topics)
    (all : ∀ registration ∈ listener.sampler.source.live, registration.topic ∈ topics →
      registration.number ∈ part) :
    (listener.sampler.source.numbersOn topics).Perm part := by
  have numbers : listener.sampler.source.numbers.Nodup := kept.issued.nodup.of_append_left
  have distinct : (listener.sampler.source.numbersOn topics).Nodup :=
    (List.filter_sublist.map Registration.number).nodup numbers
  rw [List.perm_ext_iff_of_nodup distinct single]
  intro number
  constructor
  · intro member
    obtain ⟨registration, among, same⟩ := List.mem_map.mp member
    obtain ⟨live, topic⟩ := List.mem_filter.mp among
    exact same ▸ all registration live (of_decide_eq_true topic)
  · intro member
    have owned := kept.owned.symm.subset (List.mem_append_left _ (held member))
    obtain ⟨registration, live, same⟩ := List.mem_map.mp owned
    have topic := (List.of_mem_zip (stamped registration live (same ▸ member))).2
    exact List.mem_map.mpr ⟨registration, List.mem_filter.mpr ⟨live, decide_eq_true topic⟩, same⟩

theorem Kept.numbersOn_manager (kept : listener.Kept []) :
    (listener.sampler.source.numbersOn Topic.ofManager).Perm listener.sampler.manager := by
  have single := kept.nodup_held.of_append_left.of_append_left
  refine kept.numbersOn_perm single (List.subset_append_left _ _) kept.manager ?_
  intro registration live topic
  rcases kept.place live with general | ⟨entry, _, special⟩
  · exact (List.of_mem_zip general).1
  · exact absurd (List.of_mem_zip special).2 (Topic.not_mem_ofSession topic entry.1)

theorem Kept.mem_sessions (kept : listener.Kept []) {registration : Registration}
    (live : registration ∈ listener.sampler.source.live) {id : String}
    (topic : registration.topic ∈ Topic.ofSession id) :
    ∃ entry ∈ listener.sampler.sessions, entry.1 = id ∧ registration.number ∈ entry.2 := by
  rcases kept.place live with general | ⟨entry, member, special⟩
  · exact absurd topic (Topic.not_mem_ofSession (List.of_mem_zip general).2 id)
  · exact ⟨entry, member, Topic.eq_of_mem_ofSession (List.of_mem_zip special).2 topic,
      (List.of_mem_zip special).1⟩

theorem Kept.numbersOn_session (kept : listener.Kept []) {entry : String × List Nat}
    (member : entry ∈ listener.sampler.sessions) :
    (listener.sampler.source.numbersOn (Topic.ofSession entry.1)).Perm entry.2 := by
  have sessions := kept.nodup_held.of_append_left.of_append_right
  have single : entry.2.Nodup := (List.nodup_flatMap.mp sessions).1 entry member
  have held : entry.2 ⊆ listener.sampler.held := by
    intro number among
    exact List.mem_append_right _ (List.mem_flatMap.mpr ⟨entry, member, among⟩)
  refine kept.numbersOn_perm single held (kept.sessions entry member) ?_
  intro registration live topic
  obtain ⟨other, present, id, among⟩ := kept.mem_sessions live topic
  have same : other = entry := List.inj_on_of_nodup_map kept.distinct present member id
  exact same ▸ among

theorem Kept.numbersOn_absent (kept : listener.Kept []) {id : String}
    (absent : id ∉ listener.sampler.subscribed) :
    listener.sampler.source.numbersOn (Topic.ofSession id) = [] := by
  rw [Source.numbersOn, List.map_eq_nil_iff, List.filter_eq_nil_iff]
  intro registration live topic
  obtain ⟨entry, member, same, _⟩ := kept.mem_sessions live (of_decide_eq_true topic)
  exact absent (same ▸ List.mem_map_of_mem member)

end Listener

namespace Listening

variable {listening : Listening}

structure Balanced (listening : Listening) : Prop where
  held : listening.source.numbers.Perm listening.sampler.held
  once : (listening.source.live.map Registration.topic).Nodup
  distinct : listening.sampler.subscribed.Nodup
  sessions : ∀ entry ∈ listening.sampler.sessions,
    (listening.source.numbersOn (Topic.ofSession entry.1)).Perm entry.2
  others : ∀ id ∉ listening.sampler.subscribed,
    listening.source.numbersOn (Topic.ofSession id) = []
  manager : (listening.source.numbersOn Topic.ofManager).Perm listening.newest

theorem Sound.kept_of_isQuiet (sound : listening.Sound) (quiet : listening.isQuiet = true) :
    listening.listener.Kept [] := inHand_of_isQuiet quiet ▸ sound.kept

theorem Sound.balanced (sound : listening.Sound) (serial : listening.Serial)
    (quiet : listening.isQuiet = true) : listening.Balanced := by
  have kept := sound.kept_of_isQuiet quiet
  have numbers : listening.source.numbers.Nodup := kept.issued.nodup.of_append_left
  refine ⟨?_, ?_, kept.distinct, ?_, ?_, ?_⟩
  · have owned := kept.owned
    rw [List.append_nil] at owned
    exact owned
  · exact List.Nodup.map_on (fun _ one _ other same => kept.eq_of_topic one other same)
      (List.Nodup.of_map _ numbers)
  · intro entry member
    exact kept.numbersOn_session member
  · intro id absent
    exact kept.numbersOn_absent absent
  · rw [← serial.newest_of_isQuiet quiet]
    exact kept.numbersOn_manager

structure Cleared (listening : Listening) : Prop where
  live : listening.source.live = []
  ended : listening.listener.ended.Perm (List.range listening.source.next)

theorem Sound.cleared (sound : listening.Sound) (quiet : listening.isQuiet = true)
    (empty : listening.sampler.held = []) : listening.Cleared := by
  have kept := sound.kept_of_isQuiet quiet
  have owned := kept.owned
  have issued := kept.issued
  have held : listening.listener.sampler.held = [] := empty
  rw [held, List.append_nil] at owned
  have none := owned.eq_nil
  refine ⟨List.map_eq_nil_iff.mp none, ?_⟩
  rw [Source.Issued, none, List.nil_append] at issued
  rw [kept.noted]
  exact issued

structure Gone (listening : Listening) : Prop where
  alive : listening.sampler.alive = false
  quiet : listening.isQuiet = true
  empty : listening.sampler.held = []

theorem Gone.step (gone : listening.Gone) (move : Move) : (listening.step move).Gone ∧
    ∃ edits, listening.step move =
      { listening with listener := { listening.listener with
        sampler := listening.sampler.edits edits } } := by
  cases move with
  | begin request =>
      have same : listening.step (.begin request) = listening := by
        simp [Listening.step, Listening.begin, gone.alive]
      rw [same]
      exact ⟨gone, [], rfl⟩
  | advance number =>
      have same : listening.step (.advance number) = listening := by
        cases found : listening.errands[number]? with
        | none => exact advance_absent found
        | some errand =>
            have member := List.mem_of_getElem? found
            exact advance_returned found (List.all_eq_true.mp gone.quiet errand member)
      rw [same]
      exact ⟨gone, [], rfl⟩
  | source edit => exact ⟨⟨gone.alive, gone.quiet, gone.empty⟩, [edit], rfl⟩
  | drop =>
      have same : listening.step .drop = listening := by
        simp [Listening.step, Listening.drop, gone.alive]
      rw [same]
      exact ⟨gone, [], rfl⟩

theorem Gone.run (gone : listening.Gone) (moves : List Move) : (listening.run moves).Gone ∧
    ∃ edits, listening.run moves =
      { listening with listener := { listening.listener with
        sampler := listening.sampler.edits edits } } := by
  induction moves generalizing listening with
  | nil => exact ⟨gone, [], rfl⟩
  | cons move rest ih =>
      obtain ⟨still, first, stepped⟩ := gone.step move
      obtain ⟨after, others, reached⟩ := ih still
      refine ⟨after, first ++ others, ?_⟩
      change (listening.step move).run rest = _
      rw [reached, stepped]
      simp only [Listening.sampler, Sampler.edits, List.foldl_append]

theorem alive_advance (listening : Listening) (number : Nat) :
    (listening.advance number).sampler.alive = listening.sampler.alive := by
  cases found : listening.errands[number]? with
  | none => rw [advance_absent found]
  | some errand =>
      rw [advance_found found]
      exact (listening.listener.section_advance errand).alive

theorem gone_step (living : listening.sampler.alive = true) (move : Move)
    (finished : (listening.step move).sampler.alive = false) : (listening.step move).Gone := by
  cases move with
  | begin request =>
      change (listening.begin request).sampler.alive = false at finished
      rw [sampler_begin, living] at finished
      cases finished
  | advance number =>
      change (listening.advance number).sampler.alive = false at finished
      rw [alive_advance, living] at finished
      cases finished
  | source edit =>
      change listening.sampler.alive = false at finished
      rw [living] at finished
      cases finished
  | drop =>
      change listening.drop.sampler.alive = false at finished
      change listening.drop.Gone
      unfold Listening.drop at finished ⊢
      split at finished
      · rename_i ready
        rw [if_pos ready]
        exact ⟨rfl, (Bool.and_eq_true_iff.mp ready).1, rfl⟩
      · rw [living] at finished
        cases finished

theorem gone_run (moves : List Move) (living : listening.sampler.alive = true)
    (finished : (listening.run moves).sampler.alive = false) : (listening.run moves).Gone := by
  induction moves generalizing listening with
  | nil =>
      change listening.sampler.alive = false at finished
      rw [living] at finished
      cases finished
  | cons move rest ih =>
      cases still : (listening.step move).sampler.alive with
      | true => exact ih still finished
      | false => exact ((gone_step living move still).run rest).1

def Taken (sampler : Sampler) : Errand → Prop
  | .detaching => True
  | .emptying _ => sampler.manager = []
  | .revoking _ .returning => sampler.held = []
  | .returned => sampler.held = []
  | _ => False

theorem Taken.section {listener after : Listener} {errand next : Errand}
    (taken : Taken listener.sampler errand) (passed : listener.Section errand after next) :
    Taken after.sampler next := by
  cases passed with
  | detached => exact rfl
  | delayed => exact taken
  | emptied manager =>
      have none : listener.sampler.manager = [] := taken
      simp only [Taken, Sampler.held, Sampler.takeSessions, none, List.flatMap_nil,
        List.append_nil]
  | revoked sequel =>
      cases sequel with
      | returning => exact taken
      | _ => exact taken.elim
  | letGo number rest sequel =>
      cases sequel with
      | returning => exact taken
      | _ => exact taken.elim
  | stayed => exact taken
  | _ => exact taken.elim

structure Emptying (listening : Listening) (number : Nat) : Prop where
  others : ∀ {place errand}, listening.errands[place]? = some errand → place ≠ number →
    errand.isReturned = true
  own : ∃ errand, listening.errands[number]? = some errand ∧ Taken listening.sampler errand

theorem emptying_begin (quiet : listening.isQuiet = true)
    (living : listening.sampler.alive = true) :
    (listening.begin .detach).Emptying listening.errands.length := by
  rw [begin_alive living]
  constructor
  · intro place errand found apart
    have within := (List.getElem?_eq_some_iff.mp found).1
    simp only [List.length_append, List.length_singleton] at within
    rw [List.getElem?_append_left (by omega)] at found
    exact List.all_eq_true.mp quiet errand (List.mem_of_getElem? found)
  · exact ⟨.detaching, by simp [Request.errand], trivial⟩

theorem Emptying.step {number : Nat} (emptying : listening.Emptying number) (move : Move)
    (goes : move.begins = false) : (listening.step move).Emptying number := by
  cases move with
  | begin request => cases goes
  | drop => cases goes
  | source edit => exact ⟨emptying.others, emptying.own⟩
  | advance place =>
      change (listening.advance place).Emptying number
      obtain ⟨own, here, taken⟩ := emptying.own
      cases found : listening.errands[place]? with
      | none =>
          rw [advance_absent found]
          exact emptying
      | some errand =>
          by_cases same : place = number
          · subst same
            rw [here] at found
            cases found
            refine ⟨?_, _, getElem?_advance here, ?_⟩
            · intro other errand present apart
              rw [advance_found here, List.getElem?_set_ne (Ne.symm apart)] at present
              exact emptying.others present apart
            · rw [advance_found here]
              exact taken.section (listening.listener.section_advance own)
          · rw [advance_returned found (emptying.others found same)]
            exact emptying

theorem Emptying.run {number : Nat} (emptying : listening.Emptying number) (moves : List Move)
    (go : moves.all (!·.begins) = true) : (listening.run moves).Emptying number := by
  induction moves generalizing listening with
  | nil => exact emptying
  | cons move rest ih =>
      simp only [List.all_cons, Bool.and_eq_true, Bool.not_eq_true'] at go
      exact ih (emptying.step move go.1) (by simpa using go.2)

theorem Emptying.held {number : Nat} (emptying : listening.Emptying number)
    (quiet : listening.isQuiet = true) : listening.sampler.held = [] := by
  obtain ⟨own, here, taken⟩ := emptying.own
  have finished := List.all_eq_true.mp quiet own (List.mem_of_getElem? here)
  cases own with
  | returned => exact taken
  | sampling stage => exact taken.elim
  | _ => cases finished

theorem inTurn_append (listening : Listening) (early late : List Move) :
    listening.inTurn (early ++ late) =
      (listening.inTurn early && (listening.run early).inTurn late) := by
  induction early generalizing listening with
  | nil => rfl
  | cons move rest ih =>
      simp only [List.cons_append, inTurn, ih, Bool.and_assoc]
      rfl

/-- Once everything was let go, and no other call came, nothing is held. -/
theorem held_of_detach {early late : List Move} (living : listening.sampler.alive = true)
    (turns : listening.inTurn (early ++ .begin .detach :: late) = true)
    (alone : late.all (!·.begins) = true)
    (quiet : (listening.run (early ++ .begin .detach :: late)).isQuiet = true) :
    (listening.run (early ++ .begin .detach :: late)).sampler.held = [] := by
  rw [inTurn_append, Bool.and_eq_true, inTurn, Bool.and_eq_true] at turns
  obtain ⟨_, turn, _⟩ := turns
  rw [Move.begins, Bool.not_true, Bool.or_false] at turn
  have split : listening.run (early ++ .begin .detach :: late) =
      ((listening.run early).begin .detach).run late := List.foldl_append
  rw [split] at quiet ⊢
  cases still : (listening.run early).sampler.alive with
  | true => exact ((emptying_begin turn still).run late alone).held quiet
  | false =>
      have gone := gone_run early living still
      exact (((gone.step (.begin .detach)).1).run late).1.empty

/-- The books of a sampler whose calls come one after another. Nothing is ended twice, nor while it
is held; between calls, what is in force is what is held, and right after the sampler has let
everything go, or has gone away, every registration there was has been ended. After that only the
source changes, whatever is asked of the sampler. -/
theorem registrations_balance (format : TitleFormat) (artwork : Nat) (decoder : Artwork.Decoder)
    (moves : List Move) (turns : (start format artwork decoder).inTurn moves = true) :
    let listening := (start format artwork decoder).run moves
    (listening.listener.ended.Nodup ∧
      listening.listener.ended.Disjoint listening.sampler.held) ∧
    (listening.isQuiet = true → listening.Balanced ∧
      ∀ early late, moves = early ++ .begin .detach :: late → late.all (!·.begins) = true →
        listening.Cleared) ∧
    (listening.sampler.alive = false → listening.Cleared ∧
      ∀ later, ∃ edits, listening.run later =
        { listening with listener := { listening.listener with
          sampler := listening.sampler.edits edits } }) := by
  intro listening
  have sound : listening.Sound := (sound_start format artwork decoder).run moves
  have serial : listening.Serial := Serial.run (Serial.of_isQuiet rfl rfl) moves turns
  have kept := sound.kept
  refine ⟨⟨?_, ?_⟩, ?_, ?_⟩
  · rw [kept.noted]
    exact kept.issued.nodup.of_append_right
  · rw [kept.noted]
    intro number finished held
    have live := kept.owned.symm.subset (List.mem_append_left _ held)
    exact List.disjoint_of_nodup_append kept.issued.nodup live finished
  · intro quiet
    refine ⟨sound.balanced serial quiet, ?_⟩
    intro early late same alone
    refine sound.cleared quiet ?_
    subst same
    exact held_of_detach rfl turns alone quiet
  · intro finished
    have gone := gone_run moves rfl finished
    exact ⟨sound.cleared gone.quiet gone.empty, fun later => (gone.run later).2⟩

def attachedTwice : List Move :=
  .source (.sessions [⟨"a", "Song", "", .paused⟩]) ::
    (.begin .attach :: List.replicate 13 (.advance 0)) ++
      (.begin .attach :: List.replicate 15 (.advance 1))

theorem registrations_balance_twice :
    ((start .title 72 Artwork.decode?).run attachedTwice).Balanced ∧
      ((start .title 72 Artwork.decode?).run attachedTwice).source.numbers = [2, 3, 4, 5] ∧
      ((start .title 72 Artwork.decode?).run
        (attachedTwice ++ .begin .detach :: List.replicate 7 (.advance 2))).Cleared :=
  ⟨((registrations_balance .title 72 Artwork.decode? attachedTwice (by decide +kernel)).2.1
      (by decide +kernel)).1,
    by decide +kernel,
    ((registrations_balance .title 72 Artwork.decode? _ (by decide +kernel)).2.1
      (by decide +kernel)).2 attachedTwice (List.replicate 7 (.advance 2)) rfl rfl⟩

end Listening

end Marquee
