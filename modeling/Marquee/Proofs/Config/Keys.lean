import Mathlib.Data.List.Nodup
import Marquee.Config.Reading
import Marquee.Proofs.Toml.Sections

/-!
The keys of a configuration. Each value goes into a place of its own, so what a configuration becomes
does not depend on the order of its sections and keys; and a value that is not what its key asks for
makes the whole configuration fail.
-/

namespace Marquee

open Toml (Given Sheet)

namespace Toml.Given

def number? : Given → Option Nat
  | integer n => some n.toNat
  | string _ => none

def text? : Given → Option String
  | integer _ => none
  | string text => some text

end Toml.Given

namespace Toml.Sheet

def given (sheet : Sheet) (place : String × String) : Option Given :=
  (sheet.lookup place.1).bind (·.lookup place.2)

def entries (sheet : Sheet) : List ((String × String) × Given) :=
  sheet.flatMap fun part => part.2.map fun entry => ((part.1, entry.1), entry.2)

theorem lookup_part (name : String) (part : List (String × Given)) (place : String × String) :
    (part.map fun entry => ((name, entry.1), entry.2)).lookup place =
      if place.1 = name then part.lookup place.2 else none := by
  induction part with
  | nil => simp
  | cons entry part ih =>
      have both : (place == (name, entry.1)) = (place.1 == name && place.2 == entry.1) := rfl
      rw [List.map_cons, List.lookup_cons, List.lookup_cons, ih, both]
      by_cases same : place.1 = name
      · simp [same]
      · have other : (place.1 == name) = false := beq_eq_false_iff_ne.mpr same
        simp [same, other]

theorem lookup_eq_none {κ α : Type} [BEq κ] [LawfulBEq κ] {key : κ} {pairs : List (κ × α)}
    (absent : key ∉ pairs.map Prod.fst) : pairs.lookup key = none := by
  rw [List.lookup_eq_none_iff]
  intro pair member
  rw [bne_iff_ne]
  rintro rfl
  exact absent (List.mem_map_of_mem member)

theorem lookup_entries {sheet : Sheet} (distinct : (sheet.map Prod.fst).Nodup)
    (place : String × String) : sheet.entries.lookup place = sheet.given place := by
  induction sheet with
  | nil => rfl
  | cons part sheet ih =>
      rw [List.map_cons, List.nodup_cons] at distinct
      have later := ih distinct.2
      have first := lookup_part part.1 part.2 place
      unfold entries given at later ⊢
      rw [List.flatMap_cons, List.lookup_append, first, later, List.lookup_cons]
      by_cases same : place.1 = part.1
      · rw [if_pos same, same, lookup_eq_none distinct.1]
        simp
      · have other : (place.1 == part.1) = false := beq_eq_false_iff_ne.mpr same
        simp [same, other]

theorem lookup_iff_mem {κ α : Type} [BEq κ] [LawfulBEq κ] {pairs : List (κ × α)}
    (distinct : (pairs.map Prod.fst).Nodup) {key : κ} {value : α} :
    pairs.lookup key = some value ↔ (key, value) ∈ pairs := by
  induction pairs with
  | nil => simp
  | cons pair pairs ih =>
      obtain ⟨other, held⟩ := pair
      rw [List.map_cons, List.nodup_cons] at distinct
      rw [List.lookup_cons, List.mem_cons, Prod.mk.injEq, ← ih distinct.2]
      by_cases same : key = other
      · subst same
        simp [lookup_eq_none distinct.1, eq_comm]
      · have differ : (key == other) = false := beq_eq_false_iff_ne.mpr same
        simp [differ, same]

theorem nodup_entries {sheet : Sheet} (distinct : sheet.Distinct) :
    (sheet.entries.map Prod.fst).Nodup := by
  have places : sheet.entries.map Prod.fst =
      sheet.flatMap fun part => (part.2.map Prod.fst).map (part.1, ·) := by
    simp [entries, List.map_flatMap, List.map_map, Function.comp_def]
  rw [places, List.nodup_flatMap]
  constructor
  · intro part member
    exact (distinct.keys part member).map fun _ _ same => (Prod.mk.inj same).2
  · refine (List.pairwise_map.mp distinct.sections).imp fun {part other} differ => ?_
    intro place own others
    obtain ⟨_, _, rfl⟩ := List.mem_map.mp own
    obtain ⟨_, _, same⟩ := List.mem_map.mp others
    exact differ (Prod.mk.inj same).1.symm

theorem mem_entries {sheet : Sheet} (distinct : sheet.Distinct) {place : String × String}
    {value : Given} : (place, value) ∈ sheet.entries ↔ sheet.given place = some value := by
  rw [← lookup_entries distinct.sections]
  exact (lookup_iff_mem (nodup_entries distinct)).symm

theorem fits_entries {sheet : Sheet} (fits : sheet.Fits) {entry : (String × String) × Given}
    (present : entry ∈ sheet.entries) (n : Int) (integer : entry.2 = .integer n) :
    Toml.IsLong n := by
  obtain ⟨part, partPresent, held⟩ := List.mem_flatMap.mp present
  obtain ⟨own, ownPresent, rfl⟩ := List.mem_map.mp held
  exact fits part partPresent own ownPresent n integer

end Toml.Sheet

inductive Asked where
  | number (greatest : Int)
  | name (known : List String)
  | text
deriving DecidableEq

namespace Asked

def Suits : Asked → Given → Prop
  | number greatest, value => ∃ n, value = .integer n ∧ 0 ≤ n ∧ n ≤ greatest
  | name known, value => ∃ chosen ∈ known, value = .string chosen
  | text, value => ∃ written, value = .string written

def keys : List ((String × String) × Asked) :=
  [(("animation", "default_refresh_ms"), .number (2 ^ 63 - 1)),
    (("animation", "button_pixel_width"), .number (2 ^ 32 - 1)),
    (("animation", "default_font_size"), .number (2 ^ 32 - 1)),
    (("animation", "target"), .name ["both", "hardware", "software"]),
    (("artwork", "size"), .number (2 ^ 32 - 1)),
    (("display", "title_format"), .name ["title", "artist_title"]),
    (("log", "filter"), .text)]

end Asked

namespace ConfigDraft

def step (draft : ConfigDraft) (entry : (String × String) × Given) :
    Except ValueFault ConfigDraft :=
  draft.readSection (entry.1.1, .table .header [(entry.1.2, entry.2.toToml)])

theorem read_part (shape : SectionShape ConfigDraft) (draft : ConfigDraft)
    (part : List (String × Given)) :
    shape.read draft (.table .header (part.map Toml.entryMember)) =
      part.foldlM (fun draft entry => shape.read draft (.table .header [(entry.1, entry.2.toToml)]))
        draft := by
  simp only [SectionShape.read, List.foldlM_map, List.foldlM_cons, List.foldlM_nil, bind_pure]
  rfl

/-- A section is read by its shape, or passed over. -/
theorem readSection_name (name : String) :
    (∃ shape : SectionShape ConfigDraft,
      ∀ draft value, readSection draft (name, value) = shape.read draft value) ∨
    ∀ draft value, readSection draft (name, value) = .ok draft := by
  by_cases animation : name = "animation"
  · subst animation
    exact Or.inl ⟨animationSection, fun _ _ => rfl⟩
  by_cases artwork : name = "artwork"
  · subst artwork
    exact Or.inl ⟨artworkSection, fun _ _ => rfl⟩
  by_cases display : name = "display"
  · subst display
    exact Or.inl ⟨displaySection, fun _ _ => rfl⟩
  by_cases log : name = "log"
  · subst log
    exact Or.inl ⟨logSection, fun _ _ => rfl⟩
  · exact Or.inr fun draft value => by simp [readSection]

theorem readSection_part (draft : ConfigDraft) (name : String) (part : List (String × Given)) :
    draft.readSection (name, .table .header (part.map Toml.entryMember)) =
      (part.map fun entry => ((name, entry.1), entry.2)).foldlM step draft := by
  rw [List.foldlM_map]
  unfold step
  rcases readSection_name name with ⟨shape, reads⟩ | passes
  · simp only [reads]
    exact read_part shape draft part
  · have kept : part.foldlM (fun draft _ => (pure draft : Except ValueFault ConfigDraft)) draft =
        pure (part.foldl (fun draft _ => draft) draft) := List.foldlM_pure
    rw [List.foldl_fixed] at kept
    simp only [passes]
    exact kept.symm

theorem readSections (draft : ConfigDraft) (sheet : Sheet) :
    sheet.members.foldlM readSection draft = sheet.entries.foldlM step draft := by
  induction sheet generalizing draft with
  | nil => rfl
  | cons part sheet ih =>
      have first := readSection_part draft part.1 part.2
      have later (next : ConfigDraft) := ih next
      unfold Toml.Sheet.members Toml.Sheet.entries at later ⊢
      rw [List.map_cons, List.foldlM_cons, List.flatMap_cons, List.foldlM_append, Toml.partMember,
        first]
      exact congrArg (Except.bind _) (funext later)

def targetOf? (value : Given) : Option Target := value.text?.bind (targetNames.lookup ·)

def titleFormatOf? (value : Given) : Option TitleFormat :=
  value.text?.bind (titleFormatNames.lookup ·)

def filled (draft : ConfigDraft) (found : String × String → Option Given) : ConfigDraft where
  refresh := ((found ("animation", "default_refresh_ms")).bind Given.number?).or draft.refresh
  pixelWidth := ((found ("animation", "button_pixel_width")).bind Given.number?).or draft.pixelWidth
  fontSize := ((found ("animation", "default_font_size")).bind Given.number?).or draft.fontSize
  target := ((found ("animation", "target")).bind targetOf?).or draft.target
  artwork := ((found ("artwork", "size")).bind Given.number?).or draft.artwork
  titleFormat := ((found ("display", "title_format")).bind titleFormatOf?).or draft.titleFormat
  filter := ((found ("log", "filter")).bind Given.text?).or draft.filter

/-- A value stays where no later one has its place. -/
theorem or_lookup_cons {α : Type} (read : Given → Option α)
    {entry : (String × String) × Given} {entries : List ((String × String) × Given)}
    (fresh : entry.1 ∉ entries.map Prod.fst) (place : String × String) (old : Option α) :
    ((entries.lookup place).bind read).or ((([entry].lookup place).bind read).or old) =
      (((entry :: entries).lookup place).bind read).or old := by
  obtain ⟨named, value⟩ := entry
  by_cases own : place = named
  · subst own
    simp [Toml.Sheet.lookup_eq_none fresh]
  · have other : (place == named) = false := beq_eq_false_iff_ne.mpr own
    simp [List.lookup_cons, other]

theorem filled_cons (draft : ConfigDraft) {entry : (String × String) × Given}
    {entries : List ((String × String) × Given)} (fresh : entry.1 ∉ entries.map Prod.fst) :
    (draft.filled ([entry].lookup ·)).filled (entries.lookup ·) =
      draft.filled ((entry :: entries).lookup ·) := by
  simp only [filled, or_lookup_cons _ fresh]

theorem step_key {name key : String} {shape : SectionShape ConfigDraft}
    {sectionKey : SectionKey ConfigDraft}
    (reads : ∀ draft value, readSection draft (name, value) = shape.read draft value)
    (found : (shape.keys.find? fun own => own.name == key) = some sectionKey)
    (draft : ConfigDraft) (value : Given) :
    draft.step ((name, key), value) = sectionKey.read value.toToml draft := by
  simp only [step, reads, SectionShape.read, List.foldlM_cons, List.foldlM_nil, bind_pure,
    SectionShape.readMember, found]

theorem step_no_key (shape : SectionShape ConfigDraft) {name key : String}
    (reads : ∀ draft value, readSection draft (name, value) = shape.read draft value)
    (unknown : (shape.keys.find? fun own => own.name == key) = none)
    (draft : ConfigDraft) (value : Given) : draft.step ((name, key), value) = .ok draft := by
  simp only [step, reads, SectionShape.read, List.foldlM_cons, List.foldlM_nil, bind_pure,
    SectionShape.readMember, unknown]

theorem step_unknown {place : String × String} (unknown : place ∉ Asked.keys.map Prod.fst)
    (draft : ConfigDraft) (value : Given) : draft.step (place, value) = .ok draft := by
  obtain ⟨name, key⟩ := place
  simp only [Asked.keys, List.map_cons, List.map_nil, List.mem_cons, List.not_mem_nil, or_false,
    Prod.mk.injEq, not_or, not_and] at unknown
  obtain ⟨refresh, pixelWidth, fontSize, target, artwork, titleFormat, filter⟩ := unknown
  by_cases animation : name = "animation"
  · subst animation
    refine step_no_key animationSection (fun _ _ => rfl) ?_ draft value
    simp [animationSection, Ne.symm (refresh rfl), Ne.symm (pixelWidth rfl), Ne.symm (fontSize rfl),
      Ne.symm (target rfl)]
  by_cases artworks : name = "artwork"
  · subst artworks
    refine step_no_key artworkSection (fun _ _ => rfl) ?_ draft value
    simp [artworkSection, Ne.symm (artwork rfl)]
  by_cases display : name = "display"
  · subst display
    refine step_no_key displaySection (fun _ _ => rfl) ?_ draft value
    simp [displaySection, Ne.symm (titleFormat rfl)]
  by_cases log : name = "log"
  · subst log
    refine step_no_key logSection (fun _ _ => rfl) ?_ draft value
    simp [logSection, Ne.symm (filter rfl)]
  · simp [step, readSection]

structure Reads {α : Type} (asked : Asked) (meaning : Given → Option α)
    (read : ValueReader α) (value : Given) : Prop where
  suited : asked.Suits value → ∃ found, meaning value = some found ∧
    read value.toToml = .ok found
  refused : ¬ asked.Suits value → ∃ fault, read value.toToml = .error fault

theorem number_reads {greatest : Int} {limit : Nat} (expected : String) {value : Given}
    (admits : greatest ≤ limit)
    (bounded : ∀ n, value = .integer n → n ≤ limit → n ≤ greatest) :
    Reads (.number greatest) Given.number? (ValueReader.number limit expected) value where
  suited := by
    rintro ⟨n, rfl, least, most⟩
    exact ⟨n.toNat, rfl, if_pos ⟨least, Int.le_trans most admits⟩⟩
  refused := by
    intro misfit
    cases value with
    | integer n =>
        refine ⟨_, if_neg fun within => misfit ?_⟩
        exact ⟨n, rfl, within.1, bounded n rfl within.2⟩
    | string text => exact ⟨_, rfl⟩

theorem word64_reads {value : Given} (fits : ∀ n, value = .integer n → Toml.IsLong n) :
    Reads (.number (2 ^ 63 - 1)) Given.number? ValueReader.word64 value :=
  number_reads "u64" (by decide) fun n same _ => by
    have long := (fits n same).2
    omega

theorem word32_reads (value : Given) :
    Reads (.number (2 ^ 32 - 1)) Given.number? ValueReader.word32 value :=
  number_reads "u32" (by decide) fun _ _ most => most

theorem find?_name {α : Type} (names : List (String × α)) (name : String) :
    (names.find? fun known => known.1 == name).map Prod.snd = names.lookup name := by
  induction names with
  | nil => rfl
  | cons known names ih =>
      obtain ⟨other, value⟩ := known
      by_cases same : other = name
      · simp [same]
      · have differ : (name == other) = false := beq_eq_false_iff_ne.mpr (Ne.symm same)
        simp [List.lookup_cons, same, differ, ih]

theorem find?_listed {α : Type} {names : List (String × α)} {name : String}
    (listed : name ∈ names.map Prod.fst) :
    ∃ value, (names.find? fun known => known.1 == name) = some (name, value) := by
  obtain ⟨own, member, rfl⟩ := List.mem_map.mp listed
  cases found : names.find? fun known => known.1 == own.1 with
  | none => exact absurd (beq_self_eq_true own.1) (List.find?_eq_none.mp found own member)
  | some known =>
      have holds := List.find?_some found
      have same : known.1 = own.1 := beq_iff_eq.mp holds
      exact ⟨known.2, by rw [← same]⟩

theorem choice_reads {α : Type} (names : List (String × α)) (value : Given) :
    Reads (.name (names.map Prod.fst)) (fun value => value.text?.bind (names.lookup ·))
      (ValueReader.choice names) value where
  suited := by
    rintro ⟨chosen, listed, rfl⟩
    obtain ⟨meant, found⟩ := find?_listed listed
    refine ⟨meant, ?_, ?_⟩
    · show names.lookup chosen = some meant
      rw [← find?_name, found]
      rfl
    · simp only [Toml.Given.toToml, ValueReader.choice, ValueReader.named, found]
  refused := by
    intro misfit
    cases value with
    | integer n => exact ⟨_, rfl⟩
    | string text =>
        have unknown : names.find? (fun known => known.1 == text) = none := by
          rw [List.find?_eq_none]
          intro known member same
          exact misfit ⟨text, List.mem_map.mpr ⟨known, member, beq_iff_eq.mp same⟩, rfl⟩
        refine ⟨.unknownName text (names.map Prod.fst), ?_⟩
        simp only [Toml.Given.toToml, ValueReader.choice, ValueReader.named, unknown]

theorem text_reads (value : Given) : Reads .text Given.text? ValueReader.text value where
  suited := by
    rintro ⟨written, rfl⟩
    exact ⟨written, rfl, rfl⟩
  refused := by
    intro misfit
    cases value with
    | integer n => exact ⟨_, rfl⟩
    | string text => exact absurd ⟨text, rfl⟩ misfit

structure Steps (asked : Asked) (draft : ConfigDraft) (entry : (String × String) × Given) :
    Prop where
  suited : asked.Suits entry.2 → draft.step entry = .ok (draft.filled ([entry].lookup ·))
  refused : ¬ asked.Suits entry.2 → ∃ fault, draft.step entry = .error fault

theorem Reads.steps {α : Type} {asked : Asked} {meaning : Given → Option α}
    {read : ValueReader α} {draft : ConfigDraft} {value : Given}
    (reads : Reads asked meaning read value) (shape : SectionShape ConfigDraft)
    {name key : String} {sectionKey : SectionKey ConfigDraft}
    (own : ∀ draft value, readSection draft (name, value) = shape.read draft value)
    (keyed : (shape.keys.find? fun own => own.name == key) = some sectionKey)
    (store : Option α → ConfigDraft) (old : Option α)
    (stores : sectionKey.read value.toToml draft =
      (read value.toToml).bind fun found => .ok (store (some found)))
    (stored : draft.filled ([((name, key), value)].lookup ·) = store ((meaning value).or old)) :
    Steps asked draft ((name, key), value) where
  suited := by
    intro suits
    obtain ⟨found, meant, read⟩ := reads.suited suits
    rw [step_key own keyed, stores, read, stored, meant]
    rfl
  refused := by
    intro misfit
    obtain ⟨fault, failed⟩ := reads.refused misfit
    rw [step_key own keyed, stores, failed]
    exact ⟨fault, rfl⟩

/-- The value of each documented key goes into its place or is refused. -/
theorem steps {place : String × String} {asked : Asked} (listed : (place, asked) ∈ Asked.keys)
    {value : Given} (fits : ∀ n, value = .integer n → Toml.IsLong n) (draft : ConfigDraft) :
    Steps asked draft (place, value) := by
  simp only [Asked.keys, List.mem_cons, List.not_mem_nil, or_false, Prod.mk.injEq] at listed
  rcases listed with ⟨rfl, rfl⟩ | ⟨rfl, rfl⟩ | ⟨rfl, rfl⟩ | ⟨rfl, rfl⟩ | ⟨rfl, rfl⟩ | ⟨rfl, rfl⟩ |
    ⟨rfl, rfl⟩
  · exact (word64_reads fits).steps animationSection (fun _ _ => rfl) rfl
      (fun found => { draft with refresh := found }) draft.refresh rfl rfl
  · exact (word32_reads value).steps animationSection (fun _ _ => rfl) rfl
      (fun found => { draft with pixelWidth := found }) draft.pixelWidth rfl rfl
  · exact (word32_reads value).steps animationSection (fun _ _ => rfl) rfl
      (fun found => { draft with fontSize := found }) draft.fontSize rfl rfl
  · exact (choice_reads targetNames value).steps animationSection (fun _ _ => rfl) rfl
      (fun found => { draft with target := found }) draft.target rfl rfl
  · exact (word32_reads value).steps artworkSection (fun _ _ => rfl) rfl
      (fun found => { draft with artwork := found }) draft.artwork rfl rfl
  · exact (choice_reads titleFormatNames value).steps displaySection (fun _ _ => rfl)
      rfl (fun found => { draft with titleFormat := found }) draft.titleFormat rfl rfl
  · exact (text_reads value).steps logSection (fun _ _ => rfl) rfl
      (fun found => { draft with filter := found }) draft.filter rfl rfl

theorem filled_unknown {place : String × String} (unknown : place ∉ Asked.keys.map Prod.fst)
    (draft : ConfigDraft) (value : Given) :
    draft.filled ([(place, value)].lookup ·) = draft := by
  have absent (known : String × String) (listed : known ∈ Asked.keys.map Prod.fst) :
      [(place, value)].lookup known = none := by
    apply Toml.Sheet.lookup_eq_none
    intro same
    obtain rfl : known = place := List.mem_singleton.mp same
    exact unknown listed
  simp only [filled]
  rw [absent _ (by decide), absent _ (by decide), absent _ (by decide), absent _ (by decide),
    absent _ (by decide), absent _ (by decide), absent _ (by decide)]
  rfl

/-- Values that suit their keys go into their places, whatever their order. -/
theorem foldlM_suited (entries : List ((String × String) × Given)) (draft : ConfigDraft)
    (fresh : (entries.map Prod.fst).Nodup)
    (fits : ∀ entry ∈ entries, ∀ n, entry.2 = .integer n → Toml.IsLong n)
    (suits : ∀ entry ∈ entries, ∀ asked, (entry.1, asked) ∈ Asked.keys → asked.Suits entry.2) :
    entries.foldlM step draft = .ok (draft.filled (entries.lookup ·)) := by
  induction entries generalizing draft with
  | nil => rfl
  | cons entry entries ih =>
      rw [List.map_cons, List.nodup_cons] at fresh
      have first : draft.step entry = .ok (draft.filled ([entry].lookup ·)) := by
        by_cases known : entry.1 ∈ Asked.keys.map Prod.fst
        · obtain ⟨⟨place, asked⟩, listed, rfl⟩ := List.mem_map.mp known
          exact (steps listed (fits entry List.mem_cons_self) draft).suited
            (suits entry List.mem_cons_self asked listed)
        · rw [filled_unknown known]
          exact step_unknown known draft entry.2
      have later := ih (draft.filled ([entry].lookup ·)) fresh.2
        (fun other member => fits other (List.mem_cons_of_mem entry member))
        fun other member => suits other (List.mem_cons_of_mem entry member)
      -- No later entry has the place of this one, so its value stays.
      rw [filled_cons draft fresh.1] at later
      rw [List.foldlM_cons, first]
      exact later

/-- One value that does not suit its key is enough for a fault. -/
theorem foldlM_refused {entries : List ((String × String) × Given)}
    {entry : (String × String) × Given} (present : entry ∈ entries) {asked : Asked}
    (listed : (entry.1, asked) ∈ Asked.keys) (misfit : ¬ asked.Suits entry.2)
    (fits : ∀ n, entry.2 = .integer n → Toml.IsLong n) (draft : ConfigDraft) :
    ∃ fault, entries.foldlM step draft = .error fault := by
  induction entries generalizing draft with
  | nil => cases present
  | cons first entries ih =>
      rw [List.foldlM_cons]
      cases stepped : draft.step first with
      | error fault => exact ⟨fault, rfl⟩
      | ok next =>
          rcases List.mem_cons.mp present with rfl | later
          · obtain ⟨fault, failed⟩ := (steps listed fits draft).refused misfit
            cases failed.symm.trans stepped
          · exact ih later next

end ConfigDraft

end Marquee
