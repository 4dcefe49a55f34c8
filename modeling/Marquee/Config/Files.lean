import Marquee.Config.Reading

/-!
Finding the configuration among files. Three places are tried in turn, and the first that exists
counts, even where it cannot be read; without any of them the defaults hold.
-/

namespace Marquee

structure FileTree where
  files : List (List String × ByteArray) := []
  folders : List (List String) := []
deriving Inhabited

namespace FileTree

def isFolder (tree : FileTree) (path : List String) : Bool :=
  path.isEmpty || tree.folders.any path.isPrefixOf ||
    tree.files.any fun file => path.isPrefixOf file.1 && file.1 != path

def content? (tree : FileTree) (path : List String) : Option ByteArray :=
  (tree.files.reverse.find? fun file => file.1 == path).map Prod.snd

def contains (tree : FileTree) (path : List String) : Bool :=
  tree.isFolder path || (tree.content? path).isSome

/-- The path that parts lead to from a folder: a dot stays, two dots go back, and any other part
must be below a folder. -/
def walk (tree : FileTree) (here : List String) : List String → Option (List String)
  | [] => some here
  | part :: parts =>
    if !tree.isFolder here then none
    else if part = "" ∨ part = "." then tree.walk here parts
    else if part = ".." then
      if here.isEmpty then none else tree.walk here.dropLast parts
    else tree.walk (here ++ [part]) parts

def resolve (tree : FileTree) (path : String) : Option (List String) :=
  if path.isEmpty || path.startsWith "/" then none else tree.walk [] (path.splitOn "/")

def text? (tree : FileTree) (path : String) : Option String := do
  let place ← tree.resolve path
  let bytes ← tree.content? place
  String.fromUTF8? bytes

end FileTree

inductive FileFault where
  | unreadable (path : String)
  | invalid (path : String)
deriving DecidableEq, Repr

def FileFault.message : FileFault → String
  | unreadable path => "Failed to read config file: " ++ path
  | invalid path => "Failed to parse config: " ++ path

namespace Config

def ofFile (tree : FileTree) (path shown : String) : Except FileFault Config :=
  match tree.text? path with
  | none => .error (.unreadable shown)
  | some text =>
    match Config.read text with
    | .ok config => .ok config
    | .error _ => .error (.invalid shown)

def places : List String :=
  ["config.toml", "config/config.toml", "config/nowplaying-deck.toml"]

def load (tree : FileTree) (folder : String) : Except FileFault Config :=
  match places.find? fun place => tree.contains (place.splitOn "/") with
  | some place => ofFile tree place (folder ++ "/" ++ place)
  | none => .ok {}

end Config

end Marquee
