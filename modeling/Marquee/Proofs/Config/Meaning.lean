import Marquee.Proofs.Config.Keys

/-!
What a configuration means. A document of sections is accepted exactly if the values of the documented
keys are what these ask for, and each setting follows from its own key alone, or from its default.
-/

namespace Marquee

open Toml (Given Sheet)

structure Toml.Sheet.Admissible (sheet : Sheet) : Prop where
  fits : sheet.Fits
  suits : ∀ place asked, (place, asked) ∈ Asked.keys → ∀ value, sheet.given place = some value →
    asked.Suits value

def Toml.Sheet.number? (sheet : Sheet) (part key : String) : Option Nat :=
  (sheet.given (part, key)).bind Given.number?

def Toml.Sheet.text? (sheet : Sheet) (part key : String) : Option String :=
  (sheet.given (part, key)).bind Given.text?

namespace Config

structure Follows (config : Config) (sheet : Sheet) : Prop where
  refresh : config.animation.refresh =
    match sheet.number? "animation" "default_refresh_ms" with
    | none => 250
    | some ms => if ms = 0 then 250 else ms
  period : config.animation.period = max 16 (min 60000 config.animation.refresh)
  pixelWidth : config.animation.pixelWidth =
    max ((sheet.number? "animation" "button_pixel_width").getD 72) 1
  fontSize : config.animation.fontSize = sheet.number? "animation" "default_font_size"
  initialWidth : config.animation.initialWidth =
    match sheet.number? "animation" "default_font_size" with
    | none => 0
    | some size => config.animation.textWidth size
  target : ((sheet.text? "animation" "target").getD "both", config.animation.target) ∈
    [("both", .both), ("hardware", .hardware), ("software", .software)]
  artwork : config.artwork = (sheet.number? "artwork" "size").getD 72
  edge : artworkEdge config.artwork = max 16 (min 288 config.artwork)
  titleFormat : ((sheet.text? "display" "title_format").getD "title", config.titleFormat) ∈
    [("title", .title), ("artist_title", .artistTitle)]
  filter : config.filter = (sheet.text? "log" "filter").getD "info"

theorem complete_refresh (draft : ConfigDraft) : draft.complete.animation.refresh =
    match draft.refresh with
    | none => 250
    | some ms => if ms = 0 then 250 else ms := by
  show (draft.refresh.filter (0 < ·)).getD 250 = _
  match draft.refresh with
  | none => rfl
  | some 0 => rfl
  | some (_ + 1) => rfl

theorem initialWidth_eq (animation : AnimationConfig) : animation.initialWidth =
    match animation.fontSize with
    | none => 0
    | some size => animation.textWidth size := by
  unfold AnimationConfig.initialWidth
  cases animation.fontSize <;> rfl

/-- A choice among names is the one that was named, or the first where none was. -/
theorem named_mem {α : Type} (name : String) (first : α) (names : List (String × α))
    {given : Option Given}
    (suits : ∀ value, given = some value →
      (Asked.name (((name, first) :: names).map Prod.fst)).Suits value) :
    ((given.bind Given.text?).getD name,
      (given.bind fun value => value.text?.bind (((name, first) :: names).lookup ·)).getD first) ∈
        (name, first) :: names := by
  cases given with
  | none => exact List.mem_cons_self
  | some value =>
      obtain ⟨chosen, listed, rfl⟩ := suits value rfl
      obtain ⟨meant, found⟩ := ConfigDraft.find?_listed listed
      have same := ConfigDraft.find?_name ((name, first) :: names) chosen
      rw [found] at same
      have member := List.mem_of_find?_eq_some found
      simp only [Option.bind_some, Given.text?, ← same]
      exact member

theorem follows_filled {sheet : Sheet} (admissible : sheet.Admissible) :
    (ConfigDraft.filled {} sheet.given).complete.Follows sheet where
  refresh := by
    rw [complete_refresh]
    simp only [ConfigDraft.filled, Option.or_none]
    rfl
  period := rfl
  pixelWidth := by simp only [ConfigDraft.complete, ConfigDraft.filled, Option.or_none]; rfl
  fontSize := by simp only [ConfigDraft.complete, ConfigDraft.filled, Option.or_none]; rfl
  initialWidth := by
    rw [initialWidth_eq]
    simp only [ConfigDraft.complete, ConfigDraft.filled, Option.or_none]
    rfl
  target := by
    have chosen := named_mem "both" Target.both [("hardware", .hardware), ("software", .software)]
      (admissible.suits ("animation", "target") _ (by decide))
    simp only [ConfigDraft.complete, ConfigDraft.filled, Option.or_none]
    exact chosen
  artwork := by simp only [ConfigDraft.complete, ConfigDraft.filled, Option.or_none]; rfl
  edge := rfl
  titleFormat := by
    have chosen := named_mem "title" TitleFormat.title [("artist_title", .artistTitle)]
      (admissible.suits ("display", "title_format") _ (by decide))
    simp only [ConfigDraft.complete, ConfigDraft.filled, Option.or_none]
    exact chosen
  filter := by simp only [ConfigDraft.complete, ConfigDraft.filled, Option.or_none]; rfl

section Folded

variable {sheet : Sheet} {text : String} {draft : ConfigDraft} {fault : ValueFault}

/-- Reading a document of sections comes down to its keys. -/
theorem read_folded (distinct : sheet.Distinct) (spelled : sheet.IsTextOf text) (fits : sheet.Fits)
    (folded : sheet.entries.foldlM ConfigDraft.step {} = .ok draft) :
    Config.read text = .ok draft.complete := by
  rw [← ConfigDraft.readSections] at folded
  simp only [Config.read, Toml.read_sheet distinct spelled fits, folded]

theorem read_failed (distinct : sheet.Distinct) (spelled : sheet.IsTextOf text) (fits : sheet.Fits)
    (failed : sheet.entries.foldlM ConfigDraft.step {} = .error fault) :
    Config.read text = .error (.value fault) := by
  rw [← ConfigDraft.readSections] at failed
  simp only [Config.read, Toml.read_sheet distinct spelled fits, failed]

end Folded

/-- A document of sections means what it says, in any order of its sections and keys and in any
spelling. If its integers are those of a document and the documented keys that it gives have values
that suit them, it is read, and each setting follows from its own key; keys and sections that are not
documented make no difference. Otherwise it is refused. -/
theorem read_document {sheet : Sheet} {text : String} (distinct : sheet.Distinct)
    (spelled : sheet.IsTextOf text) :
    (sheet.Admissible → ∃ config, Config.read text = .ok config ∧ config.Follows sheet) ∧
    (¬ sheet.Fits → Config.read text = .error .grammar) ∧
    (sheet.Fits → ¬ sheet.Admissible → ∃ fault, Config.read text = .error (.value fault)) := by
  refine ⟨?_, ?_, ?_⟩
  · intro admissible
    have suits : ∀ entry ∈ sheet.entries, ∀ asked, (entry.1, asked) ∈ Asked.keys →
        asked.Suits entry.2 := fun entry present asked listed =>
      admissible.suits entry.1 asked listed entry.2 ((Toml.Sheet.mem_entries distinct).mp present)
    have filled := ConfigDraft.foldlM_suited sheet.entries {} (Toml.Sheet.nodup_entries distinct)
      (fun _ => Toml.Sheet.fits_entries admissible.fits) suits
    simp only [Toml.Sheet.lookup_entries distinct.sections] at filled
    exact ⟨_, read_folded distinct spelled admissible.fits filled, follows_filled admissible⟩
  · intro unfit
    rw [Config.read, Toml.read_unfit spelled unfit]
  · intro fits refused
    obtain ⟨place, asked, listed, value, given, misfit⟩ : ∃ place asked,
        (place, asked) ∈ Asked.keys ∧ ∃ value, sheet.given place = some value ∧
          ¬ asked.Suits value := by
      by_contra none
      push Not at none
      exact refused ⟨fits, none⟩
    have present := (Toml.Sheet.mem_entries distinct).mpr given
    obtain ⟨fault, failed⟩ := ConfigDraft.foldlM_refused present listed misfit
      (Toml.Sheet.fits_entries fits present) {}
    exact ⟨fault, read_failed distinct spelled fits failed⟩

section Documents

def mixedSheet : Sheet :=
  [("log", [("filter", .string "\t")]),
    ("animation", [("target", .string "software"), ("default_font_size", .integer 4294967295),
      ("frames", .integer (-9223372036854775808)),
      ("default_refresh_ms", .integer 9223372036854775807)]),
    ("colors", [("dark", .integer 9223372036854775807)]),
    ("display", [("title_format", .string "artist_title")]),
    ("artwork", [("size", .integer 4294967295)])]

def mixedText : String :=
  "[log] # few\n" ++ "filter = \"\\t\"\n" ++
  "[animation]\n" ++ "target = \"software\"\n" ++ "default_font_size = 4294967295\n" ++
  "frames = -9223372036854775808\n" ++ "default_refresh_ms = 9223372036854775807\n" ++
  "[colors]\n" ++ "dark = 9223372036854775807\n" ++
  "[display]\n" ++ "title_format = \"artist_title\"\n" ++
  "[artwork]\n" ++ "size = 4294967295\n"

theorem mixed_distinct : mixedSheet.Distinct := ⟨by decide, by decide⟩

theorem mixed_spelled : mixedSheet.IsTextOf mixedText := by
  have header : (Toml.Line.header "log").Spells "[log]".toList := Toml.Line.spells_plain rfl
  have comment : Toml.Remainder " # few".toList :=
    ⟨[' '], "# few".toList, by decide,
      Or.inr ⟨" few".toList, by simp [Toml.Plain], by decide⟩, by decide⟩
  have written : Toml.SpellsString "\t" "\"\\t\"".toList :=
    ⟨["\\t".toList], .cons (.short (by decide)) .nil, by decide⟩
  have entry : (Toml.Line.entry "filter" (.string "\t")).Spells "filter = \"\\t\"".toList :=
    ⟨"filter".toList, [' '], [' '], _, Toml.spellsKey_bare rfl, by decide, by decide, written,
      by decide⟩
  have rest := Toml.spellsLines_plain (Sheet.lines (mixedSheet.drop 1)) (by decide)
  have lines := Toml.SpellsLines.line Toml.blank_nil header comment (Or.inl rfl)
    (.line Toml.blank_nil entry Toml.remainder_nil (Or.inl rfl) rest)
  unfold Toml.Sheet.IsTextOf mixedText
  simp only [String.toList_append]
  exact Eq.mp (congrArg (Toml.SpellsLines mixedSheet.lines) (by decide +kernel)) lines

theorem mixed_admissible : mixedSheet.Admissible := by
  refine ⟨by decide, fun place asked listed value given => ?_⟩
  simp only [Asked.keys, List.mem_cons, List.not_mem_nil, or_false, Prod.mk.injEq] at listed
  rcases listed with ⟨rfl, rfl⟩ | ⟨rfl, rfl⟩ | ⟨rfl, rfl⟩ | ⟨rfl, rfl⟩ | ⟨rfl, rfl⟩ | ⟨rfl, rfl⟩ |
    ⟨rfl, rfl⟩ <;> cases given
  · exact ⟨_, rfl, by decide, by decide⟩
  · exact ⟨_, rfl, by decide, by decide⟩
  · exact ⟨_, by decide, rfl⟩
  · exact ⟨_, rfl, by decide, by decide⟩
  · exact ⟨_, by decide, rfl⟩
  · exact ⟨_, rfl⟩

def negativeSheet : Sheet := [("artwork", [("size", .integer (-1))])]

theorem negative_spelled : negativeSheet.IsTextOf "[artwork]\r\nsize = -1" := by
  have header : (Toml.Line.header "artwork").Spells "[artwork]".toList :=
    Toml.Line.spells_plain rfl
  have entry : (Toml.Line.entry "size" (.integer (-1))).Spells "size = -1".toList :=
    Toml.Line.spells_plain rfl
  exact Toml.SpellsLines.line Toml.blank_nil header Toml.remainder_nil (Or.inr rfl)
    (.lastLine Toml.blank_nil entry Toml.remainder_nil)

def excessiveSheet : Sheet :=
  [("colors", [("dark", .integer 1)]),
    ("animation", [("frames", .integer 0), ("default_refresh_ms", .integer 0),
      ("button_pixel_width", .integer 4294967296)])]

def excessiveText : String :=
  "[colors]\ndark = 1\n[animation]\nframes = 0\ndefault_refresh_ms = 0\n" ++
  "button_pixel_width = 4294967296\n"

theorem excessive_spelled : excessiveSheet.IsTextOf excessiveText :=
  Toml.Sheet.isTextOf_plain (by decide) (by decide +kernel)

def overlongSheet : Sheet :=
  [("display", [("title_format", .string "title")]),
    ("colors", [("dark", .integer 9223372036854775808)])]

def overlongText : String :=
  "[display]\ntitle_format = \"title\"\n[colors]\ndark = 9223372036854775808\n"

theorem overlong_spelled : overlongSheet.IsTextOf overlongText :=
  Toml.Sheet.isTextOf_plain (by decide) (by decide +kernel)

/-- A document is read whose sections and keys stand in an order of their own among others; one with
a negative size is refused, and so are one with a number that is too large for its key and one with
an integer that is too large for a document. -/
theorem read_document_log :
    (∃ config, Config.read mixedText = .ok config ∧ config.filter = "\t" ∧
      config.animation.refresh = 9223372036854775807 ∧ config.animation.period = 60000 ∧
      config.animation.pixelWidth = 72 ∧ config.animation.fontSize = some 4294967295 ∧
      config.animation.initialWidth = 0 ∧ config.animation.target = .software ∧
      config.titleFormat = .artistTitle ∧ artworkEdge config.artwork = 288) ∧
    (∃ fault, Config.read "[artwork]\r\nsize = -1" = .error (.value fault)) ∧
    (∃ fault, Config.read excessiveText = .error (.value fault)) ∧
    Config.read overlongText = .error .grammar := by
  refine ⟨?_, ?_, ?_, ?_⟩
  · obtain ⟨config, read, follows⟩ :=
      (read_document mixed_distinct mixed_spelled).1 mixed_admissible
    have refresh : config.animation.refresh = 9223372036854775807 := follows.refresh
    have pixelWidth : config.animation.pixelWidth = 72 := follows.pixelWidth
    have period := follows.period
    have initialWidth : config.animation.initialWidth = config.animation.textWidth 4294967295 :=
      follows.initialWidth
    have artwork : config.artwork = 4294967295 := follows.artwork
    have edge : artworkEdge config.artwork = 288 := by
      rw [follows.edge, artwork]
      decide
    rw [refresh] at period
    rw [AnimationConfig.textWidth, pixelWidth] at initialWidth
    have target : ("software", config.animation.target) ∈
        [("both", .both), ("hardware", .hardware), ("software", .software)] := follows.target
    have titleFormat : ("artist_title", config.titleFormat) ∈
        [("title", .title), ("artist_title", .artistTitle)] := follows.titleFormat
    exact ⟨config, read, follows.filter, refresh, period, pixelWidth, follows.fontSize,
      initialWidth, by simpa using target, by simpa using titleFormat, edge⟩
  · have refused : ¬ negativeSheet.Admissible := by
      intro admissible
      obtain ⟨n, same, least, _⟩ := admissible.suits ("artwork", "size") (.number (2 ^ 32 - 1))
        (by decide) _ rfl
      obtain rfl : -1 = n := Given.integer.inj same
      exact absurd least (by decide)
    exact (read_document ⟨by decide, by decide⟩ negative_spelled).2.2 (by decide) refused
  · have refused : ¬ excessiveSheet.Admissible := by
      intro admissible
      obtain ⟨n, same, _, most⟩ := admissible.suits ("animation", "button_pixel_width")
        (.number (2 ^ 32 - 1)) (by decide) _ rfl
      obtain rfl : 4294967296 = n := Given.integer.inj same
      exact absurd most (by decide)
    exact (read_document ⟨by decide, by decide⟩ excessive_spelled).2.2 (by decide) refused
  · exact (read_document ⟨by decide, by decide⟩ overlong_spelled).2.1 (by decide)

end Documents

end Config

end Marquee
