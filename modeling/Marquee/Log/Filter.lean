import Marquee.Log.Event

/-!
Which log events are let through. A filter is a list of directives: a level for every target that
begins with a given text, or for all targets. Of the directives that apply to an event the one
with the longest text decides.
-/

namespace Marquee.Log

/-- A level for the targets that begin with `target`; no level lets nothing through. -/
structure Directive where
  target : String
  level : Option Level
deriving DecidableEq, Repr

abbrev Filter := List Directive

def Level.ofName? (name : String) : Option (Option Level) :=
  match name.toLower with
  | "off" => some none
  | "error" => some (some .error)
  | "warn" => some (some .warn)
  | "info" => some (some .info)
  | "debug" => some (some .debug)
  | "trace" => some (some .trace)
  | _ => none

def Directive.ofText? (text : String) : Option Directive :=
  match text.splitOn "=" with
  | [word] =>
    if word.isEmpty then none
    else
      match Level.ofName? word with
      | some level => some ⟨"", level⟩
      | none => some ⟨word, some .trace⟩
  | [target, word] => (Level.ofName? word).map (⟨target, ·⟩)
  | _ => none

def Filter.ofText (text : String) : Filter := (text.splitOn ",").filterMap Directive.ofText?

/-- The directive for a target: among those that apply, the one with the longest text. -/
def Filter.rule? (filter : Filter) (target : String) : Option Directive :=
  filter.foldl (fun best directive =>
    if target.startsWith directive.target then
      match best with
      | some chosen =>
        if chosen.target.length ≤ directive.target.length then some directive else best
      | none => some directive
    else best) none

/-- Whether an event is let through. Where no directive applies, errors are. -/
def Filter.allows (filter : Filter) (event : Event) : Bool :=
  match filter.rule? event.target with
  | none => event.level.detail ≤ Level.error.detail
  | some rule =>
    match rule.level with
    | none => false
    | some level => event.level.detail ≤ level.detail

def Filter.install (current : Option Filter) (next : Filter) : Filter := current.getD next

end Marquee.Log
