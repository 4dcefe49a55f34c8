import Marquee.Proofs.Toml.Words

/-!
Reading the lines of a document: each one that says something is taken in its turn, whatever stands
around it.
-/

namespace Marquee.Toml

def Given.toml? : Given → Option Toml
  | .integer value => if IsLong value then some (.integer value) else none
  | .string text => some (.string text)

def Document.take (document : Document) : Line → Option Document
  | .header name => document.beginTable false [] name
  | .entry key value => value.toml?.bind (document.add [] key)

namespace Reader

theorem skipBlanks_append {blanks : List Char} (blank : Blank blanks) (rest : List Char) :
    skipBlanks (blanks ++ rest) = skipBlanks rest := by
  apply List.dropWhile_append_of_pos
  intro c member
  rcases blank c member with rfl | rfl <;> rfl

theorem skipBlanks_cons {c : Char} (noBlank : isBlank c = false) (rest : List Char) :
    skipBlanks (c :: rest) = c :: rest :=
  List.dropWhile_cons_of_neg (by simp [noBlank])

section Keys

variable {key : String} {text before after : List Char}

theorem isBareKeyChar_of_bare {c : Char} (bare : c.isAlphanum = true ∨ c = '_' ∨ c = '-') :
    isBareKeyChar c = true := by
  simpa [isBareKeyChar, or_assoc] using bare

theorem head_key (spelled : SpellsKey key text) :
    ∃ c rest, text = c :: rest ∧ c ∉ [' ', '\t', '[', '#', '\n', '\r', '\ufeff', '.'] := by
  rcases spelled with ⟨_, nonempty, bare⟩ | ⟨pieces, _, rfl⟩
  · cases text with
    | nil => exact absurd rfl nonempty
    | cons c rest =>
        have own := isBareKeyChar_of_bare (bare c List.mem_cons_self)
        refine ⟨c, rest, rfl, fun other => ?_⟩
        have none : ∀ c ∈ [' ', '\t', '[', '#', '\n', '\r', '\ufeff', '.'],
            isBareKeyChar c = false := by
          simp [isBareKeyChar]
        rw [none c other] at own
        cases own
  · exact ⟨'"', _, rfl, by decide⟩

def Unkeyed (text : List Char) : Prop := ∀ c, text.head? = some c → isBareKeyChar c = false

theorem keyPart?_bare (bare : SpellsBare key text) {rest : List Char} (ends : Unkeyed rest) :
    keyPart? (text ++ rest) = some (key, rest) := by
  obtain ⟨rfl, nonempty, bare⟩ := bare
  have all (c : Char) (member : c ∈ key.toList) : isBareKeyChar c = true :=
    isBareKeyChar_of_bare (bare c member)
  have run : (key.toList ++ rest).takeWhile isBareKeyChar = key.toList := by
    rw [List.takeWhile_append_of_pos all]
    cases rest with
    | nil => simp
    | cons c rest => simp [ends c rfl]
  have left : (key.toList ++ rest).dropWhile isBareKeyChar = rest := by
    rw [List.dropWhile_append_of_pos all]
    cases rest with
    | nil => rfl
    | cons c rest => simp [ends c rfl]
  have noQuote {mark : Char} (other : isBareKeyChar mark = false) (later : List Char) :
      key.toList ++ rest ≠ mark :: later := by
    intro same
    cases written : key.toList with
    | nil => exact nonempty written
    | cons c chars =>
        rw [written] at same
        obtain ⟨rfl, -⟩ := List.cons.inj same
        rw [all c (by simp [written])] at other
        cases other
  unfold keyPart?
  split
  · next same => exact absurd same (noQuote (by decide) _)
  · next same => exact absurd same (noQuote (by decide) _)
  · simp only [run, left, List.isEmpty_iff, nonempty, if_false, String.ofList_toList]

theorem keyPart?_spelled (spelled : SpellsKey key text) {rest : List Char} (ends : Unkeyed rest) :
    keyPart? (text ++ rest) = some (key, rest) := by
  rcases spelled with bare | quoted
  · exact keyPart?_bare bare ends
  · have read := lineString?_spelled quoted rest
    obtain ⟨pieces, _, rfl⟩ := quoted
    exact read

theorem key?_spelled (blank : Blank before) (spelled : SpellsKey key text)
    (blankAfter : Blank after) {mark : Char} (ends : mark = '=' ∨ mark = ']') (rest : List Char) :
    key? (before ++ (text ++ (after ++ mark :: rest))) = some ([], key, mark :: rest) := by
  have markAlone : isBlank mark = false ∧ isBareKeyChar mark = false ∧ mark ≠ '.' := by
    rcases ends with rfl | rfl <;> decide
  have unkeyed : Unkeyed (after ++ mark :: rest) := by
    intro c first
    cases after with
    | nil =>
        obtain rfl := Option.some.inj first
        exact markAlone.2.1
    | cons d after =>
        obtain rfl := Option.some.inj first
        rcases blankAfter d List.mem_cons_self with rfl | rfl <;> rfl
  obtain ⟨c, chars, rfl, first⟩ := head_key spelled
  have noBlank : isBlank c = false := by
    simp only [List.mem_cons, not_or] at first
    simp [isBlank, first.1, first.2.1]
  have part := keyPart?_spelled spelled unkeyed
  rw [List.cons_append] at part
  have parts (fuel : Nat) : keyParts? (fuel + 1)
      (before ++ (c :: chars ++ (after ++ mark :: rest))) = some ([key], mark :: rest) := by
    rw [keyParts?, skipBlanks_append blank, List.cons_append, skipBlanks_cons noBlank, part]
    simp only [Option.bind_eq_bind, Option.bind_some, skipBlanks_append blankAfter,
      skipBlanks_cons markAlone.1]
    split
    · next same => exact absurd (List.cons.inj same).1 markAlone.2.2
    · rfl
  rw [key?, parts]
  rfl

end Keys

section Values

variable {rest : List Char}

theorem scalar?_integer (value : Int) (stops : Stops rest) :
    scalar? ((toString value).toList ++ rest) =
      if IsLong value then some (.integer value, rest) else none := by
  have read := number?_integer value stops
  obtain ⟨c, digits, written, first⟩ := Decimal.head_toString value
  rw [written, List.cons_append] at read ⊢
  have begins : c = '+' ∨ c = '-' ∨ c.isDigit = true := Or.inr first
  have noWord : ∀ mark ∈ ['"', '\'', 't', 'f', 'i', 'n'], c ≠ mark := by
    have none : ∀ mark ∈ ['"', '\'', 't', 'f', 'i', 'n'],
        ¬ (mark = '-' ∨ mark.isDigit = true) := by
      simp
    rintro mark listed rfl
    exact none _ listed first
  simp only [List.mem_cons, List.not_mem_nil, or_false, forall_eq_or_imp, forall_eq] at noWord
  simp only [scalar?, noWord, or_self, if_false, begins, if_true, read]

theorem scalar?_string {value : String} {text : List Char} (spelled : SpellsString value text)
    (stops : Stops rest) : scalar? (text ++ rest) = some (.string value, rest) := by
  have noQuote : rest.head? ≠ some '"' := by
    intro quote
    obtain ⟨tail, rfl⟩ := List.head?_eq_some_iff.mp quote
    exact stops.ne '"' (by decide) rfl
  have read := anyString?_spelled spelled noQuote
  obtain ⟨pieces, _, rfl⟩ := spelled
  rw [List.cons_append] at read ⊢
  simp only [scalar?, true_or, if_true, read, Option.map_some]

theorem value?_spelled {value : Given} {written : List Char} (spelled : value.Spells written)
    (stops : Stops rest) :
    value? depthLimit (written ++ rest) = value.toml?.map (·, rest) := by
  have flat (c : Char) (tail : List Char) (noList : c ≠ '[') (noTable : c ≠ '\x7b') :
      value? depthLimit (c :: tail) = scalar? (c :: tail) := by
    unfold depthLimit value?
    split
    · next same => exact absurd (List.cons.inj same).1 noList
    · next same => exact absurd (List.cons.inj same).1 noTable
    · rfl
  cases value with
  | integer value =>
      obtain rfl : written = (toString value).toList := spelled
      have read := scalar?_integer value stops
      obtain ⟨c, digits, same, first⟩ := Decimal.head_toString value
      have noContainer : c ≠ '[' ∧ c ≠ '\x7b' := by
        constructor <;> (rintro rfl; revert first; decide)
      rw [same, List.cons_append] at read ⊢
      rw [flat _ _ noContainer.1 noContainer.2, read, Given.toml?]
      split <;> rfl
  | string text =>
      have read := scalar?_string spelled stops
      obtain ⟨pieces, _, rfl⟩ := spelled
      rw [List.cons_append] at read ⊢
      rw [flat _ _ (by decide) (by decide), read]
      rfl

theorem skipBlanks_spelled {value : Given} {written : List Char} (spelled : value.Spells written)
    (rest : List Char) : skipBlanks (written ++ rest) = written ++ rest := by
  cases value with
  | integer value =>
      obtain rfl : written = (toString value).toList := spelled
      obtain ⟨c, digits, same, first⟩ := Decimal.head_toString value
      have noBlank : isBlank c = false := by
        rw [Bool.eq_false_iff]
        intro blank
        simp only [isBlank, Bool.or_eq_true, beq_iff_eq] at blank
        rcases blank with rfl | rfl <;> (revert first; decide)
      rw [same, List.cons_append, skipBlanks_cons noBlank]
  | string text =>
      obtain ⟨pieces, _, rfl⟩ := spelled
      exact skipBlanks_cons (by decide) _

end Values

section Remainders

variable {remainder ending : List Char}

def Over (text : List Char) : Prop := ∀ c, text.head? = some c → c = '\n' ∨ c = '\r'

theorem over_nil : Over [] := nofun

theorem over_ending (ends : LineEnd ending) (text : List Char) : Over (ending ++ text) := by
  intro c first
  rcases ends with rfl | rfl
  · exact Or.inl (Option.some.inj first).symm
  · exact Or.inr (Option.some.inj first).symm

theorem length_lineEnd (ends : LineEnd ending) : 1 ≤ ending.length := by
  rcases ends with rfl | rfl <;> decide

theorem stops_remainder (remains : Remainder remainder) {rest : List Char} (closed : Over rest) :
    Stops (remainder ++ rest) := by
  obtain ⟨blanks, comment, blank, words, rfl⟩ := remains
  intro c first
  cases blanks with
  | cons d blanks =>
      obtain rfl := Option.some.inj first
      rcases blank d List.mem_cons_self with rfl | rfl <;> decide
  | nil =>
      rcases words with rfl | ⟨words, _, rfl⟩
      · rcases closed c first with rfl | rfl <;> decide
      · obtain rfl := Option.some.inj first
        decide

theorem remainder_comment {words : List Char} (plain : ∀ c ∈ words, Plain c) :
    Remainder ('#' :: words) :=
  ⟨[], _, blank_nil, Or.inr ⟨words, plain, rfl⟩, rfl⟩

/-- A comment with the blanks before it is passed over. -/
theorem skipComment_remainder (remains : Remainder remainder) {rest : List Char}
    (closed : Over rest) : skipComment (skipBlanks (remainder ++ rest)) = rest := by
  obtain ⟨blanks, comment, blank, words, rfl⟩ := remains
  rw [List.append_assoc, skipBlanks_append blank]
  rcases words with rfl | ⟨words, plain, rfl⟩
  · cases rest with
    | nil => rfl
    | cons c rest => rcases closed c rfl with rfl | rfl <;> rfl
  · have dropped : (words ++ rest).dropWhile isText = rest := by
      rw [List.dropWhile_append_of_pos fun c member => isText_of_plain (plain c member)]
      cases rest with
      | nil => rfl
      | cons c rest => rcases closed c rfl with rfl | rfl <;> rfl
    rw [List.cons_append, skipBlanks_cons (by decide)]
    exact dropped

theorem lineRest?_line (remains : Remainder remainder) (ends : LineEnd ending)
    (text : List Char) : lineRest? (remainder ++ (ending ++ text)) = some text := by
  unfold lineRest?
  rw [skipComment_remainder remains (over_ending ends text)]
  rcases ends with rfl | rfl <;> rfl

theorem lineRest?_last (remains : Remainder remainder) : lineRest? remainder = some [] := by
  have skipped := skipComment_remainder remains over_nil
  rw [List.append_nil] at skipped
  unfold lineRest?
  rw [skipped]

end Remainders

section Lines

variable {core after text : List Char}

theorem header?_spelled {name : String} (spelled : (Line.header name).Spells core)
    (after : List Char) : header? (core ++ after) = some (false, [], name, after) := by
  obtain ⟨before, key, behind, blank, named, blankBehind, rfl⟩ := spelled
  have read := key?_spelled blank named blankBehind (Or.inr rfl) after
  have single (later : List Char) :
      before ++ (key ++ (behind ++ ']' :: after)) ≠ '[' :: later := by
    intro same
    cases before with
    | cons c before =>
        obtain ⟨rfl, -⟩ := List.cons.inj same
        rcases blank '[' List.mem_cons_self with other | other <;> cases other
    | nil =>
        obtain ⟨c, rest, rfl, first⟩ := head_key named
        obtain ⟨rfl, -⟩ := List.cons.inj same
        exact first (by decide)
  simp only [List.cons_append, List.append_assoc, List.nil_append]
  unfold header?
  split
  · next same => exact absurd (List.cons.inj same).2 (single _)
  · next same =>
      obtain ⟨-, rfl⟩ := List.cons.inj same
      simp [read, expect?]
  · next other => exact absurd rfl (other _)

theorem pair?_spelled {key : String} {value : Given}
    (spelled : (Line.entry key value).Spells core) (stops : Stops after) :
    pair? (value? depthLimit) (core ++ after) =
      value.toml?.map fun found => (([], key, found), after) := by
  obtain ⟨name, before, behind, written, named, blank, blankBehind, meant, rfl⟩ := spelled
  have read := key?_spelled blank_nil named blank (Or.inl rfl)
    (behind ++ (written ++ after))
  rw [List.nil_append] at read
  simp only [List.cons_append, List.append_assoc]
  simp only [pair?, read, expect?, if_true, Option.bind_eq_bind, Option.bind_some,
    skipBlanks_append blankBehind, skipBlanks_spelled meant, value?_spelled meant stops]
  cases value.toml? <;> rfl

theorem head_line {line : Line} (spelled : line.Spells core) :
    ∃ c rest, core = c :: rest ∧ c ∉ [' ', '\t', '#', '\n', '\r', '\ufeff'] := by
  cases line with
  | header name =>
      obtain ⟨before, key, behind, _, _, _, rfl⟩ := spelled
      exact ⟨'[', _, rfl, by decide⟩
  | entry key value =>
      obtain ⟨name, before, behind, written, named, _, _, _, rfl⟩ := spelled
      obtain ⟨c, rest, rfl, first⟩ := head_key named
      refine ⟨c, _, rfl, ?_⟩
      simp only [List.mem_cons, not_or] at first ⊢
      tauto

theorem line?_spelled {line : Line} (spelled : line.Spells core) (stops : Stops after)
    (closed : lineRest? after = some text) (document : Document) :
    line? document (core ++ after) = (document.take line).map (·, text) := by
  cases line with
  | header name =>
      have read := header?_spelled spelled after
      obtain ⟨before, key, behind, _, _, _, rfl⟩ := spelled
      simp only [List.cons_append] at read ⊢
      simp only [line?, read, closed, Option.bind_eq_bind, Option.bind_some, Document.take]
      cases document.beginTable false [] name <;> rfl
  | entry key value =>
      have read := pair?_spelled spelled stops
      obtain ⟨name, before, behind, written, named, _, _, _, rfl⟩ := spelled
      obtain ⟨c, rest, rfl, first⟩ := head_key named
      simp only [List.mem_cons, not_or] at first
      obtain ⟨-, -, noHeader, noComment, noFeed, noReturn, -⟩ := first
      simp only [List.cons_append] at read ⊢
      unfold line?
      split
      · next same => exact absurd (List.cons.inj same).1 noComment
      · next same => exact absurd (List.cons.inj same).1 noFeed
      · next same => exact absurd (List.cons.inj same).1 noReturn
      · next same => exact absurd (List.cons.inj same).1 noHeader
      · rw [read, Document.take]
        cases value.toml? with
        | none => rfl
        | some meant =>
            simp only [Option.map_some, Option.bind_eq_bind, Option.bind_some, closed]
            cases document.add [] key meant <;> rfl

theorem lines?_line {line : Line} {before : List Char} (blank : Blank before)
    (spelled : line.Spells core) (stops : Stops after) (closed : lineRest? after = some text)
    (fuel : Nat) (document : Document) :
    lines? (fuel + 1) document (before ++ (core ++ after)) =
      (document.take line).bind fun document => lines? fuel document text := by
  have read := line?_spelled spelled stops closed document
  obtain ⟨c, rest, rfl, first⟩ := head_line spelled
  have noBlank : isBlank c = false := by
    simp only [List.mem_cons, not_or] at first
    simp [isBlank, first.1, first.2.1]
  rw [List.cons_append] at read ⊢
  rw [lines?, skipBlanks_append blank, skipBlanks_cons noBlank]
  simp only [read, Option.bind_eq_bind, Option.bind_map]
  rfl

/-- A line that says nothing leaves the document as it is. -/
theorem lines?_empty {remainder ending : List Char} (remains : Remainder remainder)
    (ends : LineEnd ending) (fuel : Nat) (document : Document) (text : List Char) :
    lines? (fuel + 1) document (remainder ++ (ending ++ text)) = lines? fuel document text := by
  obtain ⟨blanks, comment, blank, words, rfl⟩ := remains
  rw [lines?, List.append_assoc, skipBlanks_append blank]
  rcases words with rfl | ⟨words, plain, rfl⟩
  · rcases ends with rfl | rfl <;> rfl
  · have closed := lineRest?_line (remainder_comment plain) ends text
    rw [List.cons_append] at closed ⊢
    rw [skipBlanks_cons (by decide)]
    simp only [line?, closed, Option.map_some, Option.bind_eq_bind, Option.bind_some]

theorem lines?_last {remainder : List Char} (remains : Remainder remainder) {fuel : Nat}
    (room : remainder.length < fuel) (document : Document) :
    lines? fuel document remainder = some document := by
  obtain ⟨fuel, rfl⟩ := Nat.exists_eq_add_one_of_ne_zero (Nat.ne_zero_of_lt room)
  obtain ⟨blanks, comment, blank, words, rfl⟩ := remains
  rw [lines?, skipBlanks_append blank]
  rcases words with rfl | ⟨words, plain, rfl⟩
  · rfl
  · have closed := lineRest?_last (remainder_comment plain)
    obtain ⟨fuel, rfl⟩ : ∃ more, fuel = more + 1 := by
      refine Nat.exists_eq_add_one_of_ne_zero ?_
      simp only [List.length_append, List.length_cons] at room
      omega
    rw [skipBlanks_cons (by decide)]
    simp only [line?, closed, Option.map_some, Option.bind_eq_bind, Option.bind_some]
    rfl

/-- The lines of a document are taken one after the other. -/
theorem lines?_spelled {lines : List Line} {text : List Char} (spelled : SpellsLines lines text)
    (document : Document) {fuel : Nat} (room : text.length < fuel) :
    lines? fuel document text = lines.foldlM Document.take document := by
  induction spelled generalizing document fuel with
  | last remains => exact lines?_last remains room document
  | @lastLine line before core remainder blank spelled remains =>
      obtain ⟨c, rest, written, _⟩ := head_line spelled
      simp only [List.length_append, written, List.length_cons] at room
      -- Two turns: one for the line, and one for the end of the text behind it.
      obtain ⟨fuel, rfl⟩ : ∃ more, fuel = more + 2 := ⟨fuel - 2, by omega⟩
      have stops := stops_remainder remains over_nil
      rw [List.append_nil] at stops
      rw [lines?_line blank spelled stops (lineRest?_last remains), List.foldlM_cons]
      cases document.take line <;> rfl
  | empty remains ends _ ih =>
      have one := length_lineEnd ends
      simp only [List.length_append] at room
      obtain ⟨fuel, rfl⟩ := Nat.exists_eq_add_one_of_ne_zero (Nat.ne_zero_of_lt room)
      rw [lines?_empty remains ends]
      exact ih document (by omega)
  | @line line lines before core remainder ending text blank spelled remains ends _ ih =>
      have one := length_lineEnd ends
      simp only [List.length_append] at room
      obtain ⟨fuel, rfl⟩ := Nat.exists_eq_add_one_of_ne_zero (Nat.ne_zero_of_lt room)
      have stops := stops_remainder remains (over_ending ends text)
      rw [lines?_line blank spelled stops (lineRest?_line remains ends text), List.foldlM_cons]
      refine congrArg (Option.bind _) (funext fun after => ?_)
      exact ih after (by omega)

def Unmarked (text : List Char) : Prop := ∀ c, text.head? = some c → c ≠ '\ufeff'

theorem unmarked_blank {blanks rest : List Char} (blank : Blank blanks) (unmarked : Unmarked rest) :
    Unmarked (blanks ++ rest) := by
  intro c first
  cases blanks with
  | nil => exact unmarked c first
  | cons d blanks =>
      obtain rfl := Option.some.inj first
      rcases blank d List.mem_cons_self with rfl | rfl <;> decide

theorem unmarked_remainder {remainder rest : List Char} (remains : Remainder remainder)
    (closed : Over rest) : Unmarked (remainder ++ rest) := by
  intro c first
  have all : ∀ c ∈ stopChars, c ≠ '\ufeff' := by simp [stopChars]
  exact all c (stops_remainder remains closed c first)

theorem unmarked_line {line : Line} {before : List Char} (blank : Blank before)
    (spelled : line.Spells core) (rest : List Char) : Unmarked (before ++ (core ++ rest)) := by
  apply unmarked_blank blank
  obtain ⟨d, core, rfl, own⟩ := head_line spelled
  rintro c first rfl
  obtain rfl := Option.some.inj first
  exact own (by decide)

theorem unmarked_lines {lines : List Line} {text : List Char} (spelled : SpellsLines lines text) :
    Unmarked text := by
  cases spelled with
  | last remains =>
      have unmarked := unmarked_remainder remains over_nil
      rwa [List.append_nil] at unmarked
  | lastLine blank spelled _ => exact unmarked_line blank spelled _
  | empty remains ends _ => exact unmarked_remainder remains (over_ending ends _)
  | line blank spelled _ _ _ => exact unmarked_line blank spelled _

end Lines

end Reader

/-- The members of a document follow from the lines that say something. -/
theorem read_lines {lines : List Line} {text : String} (spelled : SpellsLines lines text.toList) :
    read text = (lines.foldlM Document.take {}).bind Document.finish := by
  have taken := Reader.lines?_spelled spelled {} (Nat.lt_succ_self _)
  unfold read
  split
  · next same => exact absurd rfl (Reader.unmarked_lines spelled _ (by rw [same]; rfl))
  · exact congrArg (Option.bind · Document.finish) taken

end Marquee.Toml
