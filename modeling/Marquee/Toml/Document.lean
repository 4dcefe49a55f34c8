import Marquee.Toml.Value

/-!
Putting a document together from its headers and key-value lines. No key may be given twice, a
table may have one header only, and dotted keys may not reach into a table that has a header of
its own or that is written in braces. `none` stands for a document that breaks one of these rules.
-/

namespace Marquee.Toml

def Origin.through (dotted : Bool) : Origin := if dotted then .dotted else .implied

/-- Whether a path may go on into a table. Only the headers of a document may enter a table with a
header, and nothing may enter one in braces. -/
def Origin.admits (origin : Origin) (dotted : Bool) : Bool :=
  match origin with
  | .header => !dotted
  | .implied => true
  | .dotted => true
  | .inline => false

/-- The members of a table after `act` was done at the end of a path below it. Tables that are
missing on the way are made, and of several tables under one key the last one is meant. -/
def descend (dotted : Bool) (act : Origin → Members → Option Members) :
    List String → Origin → Members → Option Members
  | [], origin, members => act origin members
  | key :: path, _, members =>
    match find key members with
    | none =>
      (descend dotted act path (.through dotted) []).map fun inner =>
        members ++ [(key, .table (.through dotted) inner)]
    | some (.table origin inner) =>
      if origin.admits dotted then
        (descend dotted act path origin inner).map fun inner =>
          change key (.table origin inner) members
      else
        none
    | some (.tables items) =>
      match items.getLast? with
      | some (.table origin inner) =>
        (descend dotted act path origin inner).map fun inner =>
          change key (.tables (items.dropLast ++ [.table origin inner])) members
      | _ => none
    | some _ => none

/-- Adds a member that was not there. A dotted key may only end in a table that dotted keys made,
and a plain key in any other. -/
def addMember (dotted : Bool) (key : String) (value : Toml) (origin : Origin) (members : Members) :
    Option Members :=
  if (origin == .dotted) != dotted then none
  else if (find key members).isSome then none
  else some (members ++ [(key, value)])

def addKey (path : List String) (key : String) (value : Toml) (origin : Origin)
    (members : Members) : Option Members :=
  descend true (addMember (!path.isEmpty) key value) path origin members

def inlineTable : List (List String × String × Toml) → Option Members
  | pairs =>
    pairs.foldlM (fun members (pair : List String × String × Toml) =>
      addKey pair.1 pair.2.1 pair.2.2 .inline members) []

structure Document where
  complete : Members := []
  current : Members := []
  /-- The header of the current table, as the parts before its last one and the last one. -/
  header : Option (List String × String) := none
  /-- Whether the header is in double brackets. -/
  isItem : Bool := false
deriving Inhabited

namespace Document

def add (document : Document) (path : List String) (key : String) (value : Toml) :
    Option Document :=
  (addKey path key value .header document.current).map fun members =>
    { document with current := members }

def place (isItem : Bool) (key : String) (table : Members) (_ : Origin) (members : Members) :
    Option Members :=
  if isItem then
    match find key members with
    | none => some (members ++ [(key, .tables [.table .header table])])
    | some (.tables items) => some (change key (.tables (items ++ [.table .header table])) members)
    | some _ => none
  else
    if (find key members).isSome then none else some (members ++ [(key, .table .header table)])

def finish (document : Document) : Option Members :=
  match document.header with
  | none => some document.current
  | some (path, key) =>
    descend false (place document.isItem key document.current) path .header document.complete

/-- Makes room for a table with a header: an implied one gives way and leaves its members. -/
def makeRoom (isItem : Bool) (key : String) (_ : Origin) (members : Members) : Option Members :=
  match find key members with
  | none => some (if isItem then members ++ [(key, .tables [])] else members)
  | some (.tables _) => if isItem then some members else none
  | some (.table .implied _) => if isItem then none else some (erase key members)
  | some _ => none

def impliedMembers : List String → String → Members → Members
  | [], key, members =>
    match find key members with
    | some (.table .implied inner) => inner
    | _ => []
  | part :: path, key, members =>
    match find part members with
    | some (.table _ inner) => impliedMembers path key inner
    | some (.tables items) =>
      match items.getLast? with
      | some (.table _ inner) => impliedMembers path key inner
      | _ => []
    | _ => []

def beginTable (document : Document) (isItem : Bool) (path : List String) (key : String) :
    Option Document := do
  let complete ← document.finish
  let opened ← descend false (makeRoom isItem key) path .header complete
  some ⟨opened, if isItem then [] else impliedMembers path key complete, some (path, key), isItem⟩

end Document

end Marquee.Toml
