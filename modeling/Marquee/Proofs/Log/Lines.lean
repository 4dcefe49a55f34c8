import Marquee.Log.Line
import Marquee.Proofs.Decimal.Digits
import Marquee.Sampler.Sample

/-!
The lines of the log. Each event is one call of the host. Numbers, truth values and quoted texts
never break its line; a target, a name or a text that is recorded as it is breaks the line wherever
it holds a line break itself.
-/

namespace Marquee

namespace Text

def isBreak (c : Char) : Bool := c == '\n' || c == '\r'

def IsOneLine (text : String) : Prop := ∀ c ∈ text.toList, isBreak c = false

instance (text : String) : Decidable (IsOneLine text) :=
  decidable_of_iff (text.toList.any isBreak = false) (by simp [IsOneLine])

theorem isOneLine_append {left right : String} :
    IsOneLine (left ++ right) ↔ IsOneLine left ∧ IsOneLine right := by
  simp only [IsOneLine, String.toList_append, List.mem_append]
  exact ⟨fun all => ⟨fun c member => all c (Or.inl member), fun c member => all c (Or.inr member)⟩,
    fun both c member => member.elim (both.1 c) (both.2 c)⟩

theorem isOneLine_join {texts : List String} :
    IsOneLine (String.join texts) ↔ ∀ text ∈ texts, IsOneLine text := by
  simp only [IsOneLine, String.toList_join, List.mem_flatMap]
  exact ⟨fun all text listed c member => all c ⟨text, listed, member⟩,
    fun all c ⟨text, listed, member⟩ => all text listed c member⟩

theorem isBreak_digitChar {n : Nat} (small : n < 16) : isBreak n.digitChar = false := by
  have all : ∀ n < 16, isBreak n.digitChar = false := by decide
  exact all n small

theorem isBreak_of_mem_toDigits {base n : Nat} (least : 1 < base) (most : base ≤ 16) {c : Char}
    (member : c ∈ Nat.toDigits base n) : isBreak c = false := by
  induction n using Nat.strongRecOn with
  | ind n ih =>
      by_cases small : n < base
      · rw [Nat.toDigits_of_lt_base small] at member
        rw [List.mem_singleton.mp member]
        exact isBreak_digitChar (Nat.lt_of_lt_of_le small most)
      · have large : base ≤ n := Nat.not_lt.mp small
        rw [Nat.toDigits_of_base_le least large] at member
        rcases List.mem_append.mp member with front | last
        · exact ih (n / base) (Nat.div_lt_self (by omega) least) front
        · rw [List.mem_singleton.mp last]
          exact isBreak_digitChar (Nat.lt_of_lt_of_le (Nat.mod_lt n (by omega)) most)

/-- Every character that could break a line is escaped. -/
theorem isBreak_of_mem_quotedChar {c d : Char} (member : d ∈ quotedChar c) : isBreak d = false := by
  unfold quotedChar at member
  have pair {first second : Char} (plain : isBreak first = false ∧ isBreak second = false)
      (among : d ∈ [first, second]) : isBreak d = false := by
    rcases List.mem_cons.mp among with rfl | rest
    · exact plain.1
    · exact List.mem_singleton.mp rest ▸ plain.2
  iterate 6
    split at member
    · exact pair (by decide) member
  next noNull noTab noReturn noFeed noBackslash noQuote =>
  split at member
  · rcases List.mem_append.mp member with front | closing
    · rcases List.mem_append.mp front with opening | digit
      · have plain : ['\\', 'u', '\x7b'].any isBreak = false := by decide
        exact Bool.eq_false_iff.mpr (List.any_eq_false.mp plain d opening)
      · exact isBreak_of_mem_toDigits (by decide) (by decide) digit
    · rw [List.mem_singleton.mp closing]
      decide
  · rw [List.mem_singleton.mp member]
    simp [isBreak, noReturn, noFeed]

theorem isOneLine_quoted (text : String) : IsOneLine (quoted text) := by
  intro c member
  rw [quoted, String.toList_ofList] at member
  rcases List.mem_cons.mp member with rfl | inner
  · decide
  · rcases List.mem_append.mp inner with escaped | closing
    · obtain ⟨d, _, among⟩ := List.mem_flatMap.mp escaped
      exact isBreak_of_mem_quotedChar among
    · rw [List.mem_singleton.mp closing]
      decide

theorem isOneLine_toString (n : Int) : IsOneLine (toString n) := by
  intro c member
  rw [Decimal.toList_toString] at member
  rcases List.mem_append.mp member with sign | digit
  · split at sign
    · rw [List.mem_singleton.mp sign]
      decide
    · cases sign
  · exact isBreak_of_mem_toDigits (by decide) (by decide) digit

end Text

namespace Log

open Text

def Value.KeepsLine (value : Value) : Prop := ∀ text, value = .text text → IsOneLine text

theorem isOneLine_render {value : Value} : IsOneLine value.render ↔ value.KeepsLine := by
  unfold Value.KeepsLine
  cases value with
  | text text => simp [Value.render]
  | quoted text => simp [Value.render, isOneLine_quoted]
  | number n =>
      have plain : IsOneLine (Value.number n).render := isOneLine_toString n
      simp [plain]
  | flag value => cases value <;> simp [Value.render] <;> decide

/-- Gathering the values one after another comes to the same as picking out the message and the
others. -/
theorem gathered (fields : List (String × Value)) (line : Line) :
    fields.foldl Line.record line =
      { message := line.message ++ (Event.mk .info "" fields).message
        fields := line.fields ++ (Event.mk .info "" fields).details } := by
  induction fields generalizing line with
  | nil => simp [Event.message, Event.details]
  | cons field fields ih =>
      rw [List.foldl_cons, ih]
      by_cases named : field.1 = "message"
      · simp [Line.record, Event.message, Event.details, named, String.append_assoc]
      · simp [Line.record, Event.message, Event.details, named, String.append_assoc]

theorem render_gathered (event : Event) :
    (event.fields.foldl Line.record {}).render event.level event.target = event.line := by
  rw [gathered]
  simp [Line.render, Event.line, Event.message, Event.details]

theorem isOneLine_picked {fields : List (String × Value)} {picks : String × Value → Bool}
    {spell : String × Value → String} :
    IsOneLine (String.join ((fields.filter picks).map spell)) ↔
      ∀ field ∈ fields, picks field = true → IsOneLine (spell field) := by
  rw [isOneLine_join]
  constructor
  · exact fun all field listed picked =>
      all _ (List.mem_map_of_mem (List.mem_filter.mpr ⟨listed, picked⟩))
  · intro all text among
    obtain ⟨field, kept, rfl⟩ := List.mem_map.mp among
    exact all field (List.mem_filter.mp kept).1 (List.mem_filter.mp kept).2

theorem isOneLine_message {event : Event} :
    IsOneLine event.message ↔
      ∀ field ∈ event.fields, field.1 = "message" → field.2.KeepsLine := by
  simp only [Event.message, isOneLine_picked, isOneLine_render, beq_iff_eq]

theorem isOneLine_details {event : Event} :
    IsOneLine event.details ↔
      ∀ field ∈ event.fields, field.1 ≠ "message" → IsOneLine field.1 ∧ field.2.KeepsLine := by
  have space : IsOneLine " " := by decide
  have sign : IsOneLine "=" := by decide
  simp only [Event.details, isOneLine_picked, isOneLine_append, isOneLine_render, bne_iff_ne,
    space, sign, true_and, and_true]

/-- The text of an event is one line exactly where neither its target nor a name nor a text that
is recorded as it is breaks the line. -/
theorem isOneLine_line {event : Event} :
    IsOneLine event.line ↔
      IsOneLine event.target ∧
        ∀ field ∈ event.fields, IsOneLine field.1 ∧ field.2.KeepsLine := by
  have level : IsOneLine event.level.name := by cases event.level <;> decide
  have space : IsOneLine " " := by decide
  have colon : IsOneLine ": " := by decide
  simp only [Event.line, isOneLine_append, level, space, colon, true_and, and_true, and_assoc,
    isOneLine_message, isOneLine_details]
  refine and_congr_right fun _ => ⟨?_, ?_⟩
  · rintro ⟨messages, others⟩ field listed
    by_cases named : field.1 = "message"
    · have word : IsOneLine "message" := by decide
      exact ⟨named ▸ word, messages field listed named⟩
    · exact others field listed named
  · exact fun all => ⟨fun field listed _ => (all field listed).2, fun field listed _ =>
      all field listed⟩

theorem forward_eq (sent : List HostCall) (event : Event) :
    forward sent event = sent ++ [.logMessage event.line] := by
  rw [forward, render_gathered]

/-- However many events are forwarded, each is one call, and the text of the call is one line
unless something in it that is recorded as it is breaks the line. -/
theorem forwarded_lines (sent : List HostCall) (events : List Event) :
    events.foldl forward sent = sent ++ events.map (fun event => .logMessage event.line) ∧
      ∀ event ∈ events, IsOneLine event.line ↔
        IsOneLine event.target ∧
          ∀ field ∈ event.fields, IsOneLine field.1 ∧ field.2.KeepsLine := by
  refine ⟨?_, fun event _ => isOneLine_line⟩
  induction events generalizing sent with
  | nil => simp
  | cons event events ih => rw [List.foldl_cons, ih, forward_eq, List.map_cons, List.append_assoc,
      List.singleton_append]

/-- A sample logs the title that is played as it is, so one that holds a line feed makes two lines
of the text of the call. -/
theorem title_breaks_line :
    let sampler : Sampler :=
      { source := { current := some ⟨"a", "Two\nlines", "", .playing⟩ }, edge := 72 }
    ∃ event ∈ sampler.sample.1.log,
      forward [] event = [.logMessage
        "DEBUG nowplaying_deck::sampler: media state published title=Two\nlines"] ∧
      ¬ IsOneLine "DEBUG nowplaying_deck::sampler: media state published title=Two\nlines" := by
  refine ⟨Log.event .debug "nowplaying_deck::sampler" "media state published"
    [("title", .text "Two\nlines")], ?_, ?_, ?_⟩
  · decide
  · decide
  · decide

end Log

end Marquee
