import Marquee.Config.Basic
import Marquee.Config.Fault
import Marquee.Toml.Reader

/-!
Reading a configuration from a TOML document. Each section is a table of its own, or a list of its
values in a fixed order; keys that are not known are passed over, and a key that is absent takes
its default. The first fault in the order of the document is reported.
-/

namespace Marquee

abbrev ValueReader (α : Type) := Toml → Except ValueFault α

namespace ValueReader

def number (limit : Nat) (expected : String) : ValueReader Nat := fun value =>
  match value with
  | .integer n =>
    if 0 ≤ n ∧ n ≤ limit then .ok n.toNat else .error (.invalidNumber n expected)
  | other => .error (.invalidType other.found expected)

def word64 : ValueReader Nat := number 0xffffffffffffffff "u64"

def word32 : ValueReader Nat := number 0xffffffff "u32"

def text : ValueReader String := fun value =>
  match value with
  | .string text => .ok text
  | other => .error (.invalidType other.found "a string")

def named {α : Type} (names : List (String × α)) (name : String) : Except ValueFault α :=
  match names.find? fun known => known.1 == name with
  | some known => .ok known.2
  | none => .error (.unknownName name (names.map Prod.fst))

def nothing (value : Toml) : Except ValueFault Unit :=
  match value with
  | .table _ members => if members.isEmpty then .ok () else .error .nonemptyTable
  | .array items => if items.isEmpty then .ok () else .error .nonemptyTable
  | .tables items => if items.isEmpty then .ok () else .error .nonemptyList
  | other => .error (.noTable other.kind)

def choice {α : Type} (names : List (String × α)) : ValueReader α := fun value =>
  match value with
  | .string name => named names name
  | .table _ [] => .error .noEntry
  | .table _ [(name, inner)] => do
    let chosen ← named names name
    nothing inner
    .ok chosen
  | .table _ _ => .error .severalEntries
  | _ => .error .neitherStringNorTable

end ValueReader

structure SectionKey (σ : Type) where
  name : String
  read : Toml → σ → Except ValueFault σ

structure SectionShape (σ : Type) where
  name : String
  keys : List (SectionKey σ)

namespace SectionShape

variable {σ : Type}

def readMember (shape : SectionShape σ) (state : σ) (member : String × Toml) :
    Except ValueFault σ :=
  match shape.keys.find? fun key => key.name == member.1 with
  | some key => key.read member.2 state
  | none => .ok state

def lengthText (shape : SectionShape σ) : String :=
  "struct " ++ shape.name ++ " with " ++ toString shape.keys.length ++
    (if shape.keys.length = 1 then " element" else " elements")

def readItems (shape : SectionShape σ) :
    Nat → List (SectionKey σ) → List Toml → σ → Except ValueFault σ
  | _, [], _, state => .ok state
  | index, _ :: _, [], _ => .error (.invalidLength index shape.lengthText)
  | index, key :: keys, item :: items, state => do
    let next ← key.read item state
    shape.readItems (index + 1) keys items next

/-- The section that a value holds. A date counts as a table without known keys. -/
def read (shape : SectionShape σ) (initial : σ) (value : Toml) : Except ValueFault σ :=
  match value with
  | .table _ members => members.foldlM shape.readMember initial
  | .array items => shape.readItems 0 shape.keys items initial
  | .tables items => shape.readItems 0 shape.keys items initial
  | .datetime => .ok initial
  | other => .error (.invalidType other.found ("struct " ++ shape.name))

end SectionShape

structure ConfigDraft where
  refresh : Option Nat := none
  pixelWidth : Option Nat := none
  fontSize : Option Nat := none
  target : Option Target := none
  artwork : Option Nat := none
  titleFormat : Option TitleFormat := none
  filter : Option String := none
deriving DecidableEq, Repr, Inhabited

namespace ConfigDraft

def targetNames : List (String × Target) :=
  [("both", .both), ("hardware", .hardware), ("software", .software)]

def titleFormatNames : List (String × TitleFormat) :=
  [("title", .title), ("artist_title", .artistTitle)]

def animationSection : SectionShape ConfigDraft where
  name := "AnimationSection"
  keys := [
    ⟨"default_refresh_ms", fun value draft => do
      let found ← ValueReader.word64 value
      .ok { draft with refresh := some found }⟩,
    ⟨"button_pixel_width", fun value draft => do
      let found ← ValueReader.word32 value
      .ok { draft with pixelWidth := some found }⟩,
    ⟨"default_font_size", fun value draft => do
      let found ← ValueReader.word32 value
      .ok { draft with fontSize := some found }⟩,
    ⟨"target", fun value draft => do
      let found ← ValueReader.choice targetNames value
      .ok { draft with target := some found }⟩]

def artworkSection : SectionShape ConfigDraft where
  name := "ArtworkSection"
  keys := [
    ⟨"size", fun value draft => do
      let found ← ValueReader.word32 value
      .ok { draft with artwork := some found }⟩]

def displaySection : SectionShape ConfigDraft where
  name := "DisplaySection"
  keys := [
    ⟨"title_format", fun value draft => do
      let found ← ValueReader.choice titleFormatNames value
      .ok { draft with titleFormat := some found }⟩]

def logSection : SectionShape ConfigDraft where
  name := "LogSection"
  keys := [
    ⟨"filter", fun value draft => do
      let found ← ValueReader.text value
      .ok { draft with filter := some found }⟩]

def readSection (draft : ConfigDraft) (member : String × Toml) : Except ValueFault ConfigDraft :=
  match member.1 with
  | "animation" => animationSection.read draft member.2
  | "artwork" => artworkSection.read draft member.2
  | "display" => displaySection.read draft member.2
  | "log" => logSection.read draft member.2
  | _ => .ok draft

/-- The configuration with the defaults filled in. A period of zero counts as absent, and a button
is at least one pixel wide. -/
def complete (draft : ConfigDraft) : Config where
  animation := {
    refresh := (draft.refresh.filter (0 < ·)).getD 250
    pixelWidth := max (draft.pixelWidth.getD 72) 1
    fontSize := draft.fontSize
    target := draft.target.getD .both }
  artwork := draft.artwork.getD 72
  titleFormat := draft.titleFormat.getD .title
  filter := draft.filter.getD "info"

end ConfigDraft

def Config.read (text : String) : Except ConfigFault Config :=
  match Toml.read text with
  | none => .error .grammar
  | some members =>
    match members.foldlM ConfigDraft.readSection {} with
    | .ok draft => .ok draft.complete
    | .error fault => .error (.value fault)

end Marquee
