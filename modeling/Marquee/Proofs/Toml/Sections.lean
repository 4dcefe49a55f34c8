import Marquee.Proofs.Toml.Lines

/-!
The members that come of a document of sections: one table for each section, with the values of its
keys, as long as no name is there twice and all integers fit.
-/

namespace Marquee.Toml

structure Sheet.Distinct (sheet : Sheet) : Prop where
  sections : (sheet.map Prod.fst).Nodup
  keys : ∀ part ∈ sheet, (part.2.map Prod.fst).Nodup

def Sheet.Fits (sheet : Sheet) : Prop :=
  ∀ part ∈ sheet, ∀ entry ∈ part.2, ∀ value, entry.2 = .integer value → IsLong value

def Given.fits : Given → Bool
  | .integer value => decide (IsLong value)
  | .string _ => true

theorem Given.fits_iff {given : Given} :
    given.fits = true ↔ ∀ value, given = .integer value → IsLong value := by
  cases given <;> simp [fits]

instance (sheet : Sheet) : Decidable sheet.Fits :=
  decidable_of_iff ((sheet.all fun part => part.2.all (·.2.fits)) = true)
    (by simp only [List.all_eq_true, Given.fits_iff, Sheet.Fits])

def Given.toToml : Given → Toml
  | .integer value => .integer value
  | .string text => .string text

def entryMember (entry : String × Given) : String × Toml := (entry.1, entry.2.toToml)

def partMember (part : String × List (String × Given)) : String × Toml :=
  (part.1, .table .header (part.2.map entryMember))

def Sheet.members (sheet : Sheet) : Members := sheet.map partMember

theorem find_eq_none {key : String} {members : Members} (absent : key ∉ members.map Prod.fst) :
    find key members = none := by
  induction members with
  | nil => rfl
  | cons member members ih =>
      simp only [List.map_cons, List.mem_cons, not_or] at absent
      rw [find, if_neg (Ne.symm absent.1)]
      exact ih absent.2

theorem toml?_eq_some {value : Given} (fits : ∀ number, value = .integer number → IsLong number) :
    value.toml? = some value.toToml := by
  cases value with
  | integer number => exact if_pos (fits number rfl)
  | string text => rfl

theorem take_entry {document : Document} {entry : String × Given}
    (fits : ∀ value, entry.2 = .integer value → IsLong value)
    (absent : entry.1 ∉ document.current.map Prod.fst) :
    document.take (.entry entry.1 entry.2) =
      some { document with current := document.current ++ [entryMember entry] } := by
  simp [Document.take, toml?_eq_some fits, Document.add, addKey, descend, addMember,
    find_eq_none absent, entryMember]

theorem take_entries (entries : List (String × Given)) (document : Document)
    (fits : ∀ entry ∈ entries, ∀ value, entry.2 = .integer value → IsLong value)
    (distinct : (document.current.map Prod.fst ++ entries.map Prod.fst).Nodup) :
    (entries.map fun entry => Line.entry entry.1 entry.2).foldlM Document.take document =
      some { document with current := document.current ++ entries.map entryMember } := by
  induction entries generalizing document with
  | nil => simp
  | cons entry entries ih =>
      have absent : entry.1 ∉ document.current.map Prod.fst := fun present =>
        (List.nodup_append.mp distinct).2.2 entry.1 present entry.1 List.mem_cons_self rfl
      rw [List.map_cons, List.foldlM_cons, take_entry (fits entry List.mem_cons_self) absent]
      simp only [Option.bind_eq_bind, Option.bind_some]
      rw [ih _ fun other member => fits other (List.mem_cons_of_mem entry member)]
      · simp
      · simpa [entryMember] using distinct

def Sheet.opened (closed : Sheet) (part : String × List (String × Given)) : Document where
  complete := closed.members
  current := part.2.map entryMember
  header := some ([], part.1)

theorem members_append (sheet others : Sheet) :
    Sheet.members (sheet ++ others) = sheet.members ++ others.members := List.map_append

theorem find_members_eq_none {sheet : Sheet} {name : String}
    (absent : name ∉ sheet.map Prod.fst) : find name sheet.members = none := by
  apply find_eq_none
  rwa [Sheet.members, List.map_map]

theorem finish_opened {closed : Sheet} {part : String × List (String × Given)}
    (absent : part.1 ∉ closed.map Prod.fst) :
    (closed.opened part).finish = some (Sheet.members (closed ++ [part])) := by
  simp only [Document.finish, Sheet.opened, descend, Document.place, find_members_eq_none absent,
    members_append]
  rfl

theorem take_part {closed : Sheet} {part : String × List (String × Given)} {document : Document}
    (done : document.finish = some closed.members) (absent : part.1 ∉ closed.map Prod.fst)
    (distinct : (part.2.map Prod.fst).Nodup)
    (fits : ∀ entry ∈ part.2, ∀ value, entry.2 = .integer value → IsLong value) :
    (Sheet.lines [part]).foldlM Document.take document = some (closed.opened part) := by
  have none := find_members_eq_none absent
  have begun : document.take (.header part.1) =
      some ⟨closed.members, [], some ([], part.1), false⟩ := by
    simp [Document.take, Document.beginTable, done, descend, Document.makeRoom, none,
      Document.impliedMembers]
  have entries := take_entries part.2 ⟨closed.members, [], some ([], part.1), false⟩ fits distinct
  simp only [Sheet.lines, List.flatMap_cons, List.flatMap_nil, List.append_nil, List.foldlM_cons,
    begun, Option.bind_eq_bind, Option.bind_some]
  exact entries

theorem take_parts (closed sheet : Sheet) {document : Document}
    (done : document.finish = some closed.members)
    (distinct : (closed.map Prod.fst ++ sheet.map Prod.fst).Nodup)
    (keys : ∀ part ∈ sheet, (part.2.map Prod.fst).Nodup) (fits : sheet.Fits) :
    (sheet.lines.foldlM Document.take document).bind Document.finish =
      some (Sheet.members (closed ++ sheet)) := by
  induction sheet generalizing closed document with
  | nil => simpa [Sheet.lines] using done
  | cons part sheet ih =>
      have absent : part.1 ∉ closed.map Prod.fst := fun present =>
        (List.nodup_append.mp distinct).2.2 part.1 present part.1 List.mem_cons_self rfl
      have split : Sheet.lines (part :: sheet) = Sheet.lines [part] ++ Sheet.lines sheet := by
        simp [Sheet.lines]
      rw [split, List.foldlM_append, take_part done absent (keys part List.mem_cons_self)
        (fits part List.mem_cons_self)]
      -- The next header finishes this section, which is closed from then on.
      have later := ih (closed ++ [part]) (finish_opened absent) (by simpa using distinct)
        (fun other member => keys other (List.mem_cons_of_mem part member))
        fun other member => fits other (List.mem_cons_of_mem part member)
      simpa using later

/-- A line that no document can hold, wherever it stands. -/
theorem take_refused {lines : List Line} {line : Line} (present : line ∈ lines)
    (refused : ∀ document : Document, document.take line = none) (document : Document) :
    lines.foldlM Document.take document = none := by
  induction lines generalizing document with
  | nil => cases present
  | cons first lines ih =>
      rw [List.foldlM_cons]
      rcases List.mem_cons.mp present with rfl | later
      · rw [refused document]
        rfl
      · cases document.take first with
        | none => rfl
        | some after => exact ih later after

/-- The document of sections is read as one table for each. -/
theorem read_sheet {sheet : Sheet} {text : String} (distinct : sheet.Distinct)
    (spelled : sheet.IsTextOf text) (fits : sheet.Fits) : read text = some sheet.members := by
  rw [read_lines spelled]
  exact take_parts [] sheet rfl distinct.sections distinct.keys fits

/-- With an integer beyond 64 bits a text is no document. -/
theorem read_unfit {sheet : Sheet} {text : String} (spelled : sheet.IsTextOf text)
    (unfit : ¬ sheet.Fits) : read text = none := by
  simp only [Sheet.Fits, not_forall] at unfit
  obtain ⟨part, partPresent, ⟨key, value⟩, entryPresent, number, rfl, long⟩ := unfit
  have present : Line.entry key (.integer number) ∈ sheet.lines := by
    refine List.mem_flatMap.mpr ⟨part, partPresent, List.mem_cons_of_mem _ ?_⟩
    exact List.mem_map.mpr ⟨_, entryPresent, rfl⟩
  have refused (document : Document) : document.take (.entry key (.integer number)) = none := by
    simp [Document.take, Given.toml?, long]
  rw [read_lines spelled, take_refused present refused]
  rfl

end Marquee.Toml
