import DiceBot.Text.Encoding

/-!
# Files

What lies at a path. A path is walked name by name: every name but the last has to lead to a
directory, two dots lead back up, and one dot or nothing between two slashes leads nowhere else. A
tree says what lies at each place, and directories can be made in it.
-/

namespace DiceBot

/-- What lies at a place. -/
inductive FileEntry where
  /-- A file with these bytes. -/
  | file (bytes : List UInt8)
  /-- A directory, or something else that cannot be read like a file. -/
  | directory
  deriving DecidableEq

/-- The text of a file. -/
def FileEntry.text? : FileEntry → Option Text
  | file bytes => Text.ofBytes? bytes
  | directory => none

/-- A place: so many directories above the top of a tree, and from there down along these names. -/
structure Place where
  /-- How many directories above the top the way down begins. -/
  up : Nat
  /-- The names on the way down. -/
  names : List Text
  deriving DecidableEq, Repr

namespace Place

/-- The top of a tree. -/
def top : Place := ⟨0, []⟩

/-- The place of the directory that a place lies in. -/
def parent (place : Place) : Place :=
  if place.names.isEmpty then ⟨place.up + 1, []⟩ else { place with names := place.names.dropLast }

/-- The place of a name in a directory. -/
def child (place : Place) (name : Text) : Place := { place with names := place.names ++ [name] }

/-- The place that one name of a path leads to from a directory. -/
def step (place : Place) (name : Text) : Place :=
  if name = [] ∨ name = ['.'] then place
  else if name = ['.', '.'] then place.parent
  else place.child name

/-- Where a path begins. A path that begins with a slash leaves the tree at once. -/
def start : (path : Text) → Place
  | '/' :: _ => ⟨1, []⟩
  | _ => top

/-- The names of a path. -/
def namesOf (path : Text) : List Text := path.splitOn '/'

/-- The place that a path leads to if every name on the way is that of a directory. -/
def ofPath (path : Text) : Place := (namesOf path).foldl step (start path)

end Place

/-- What lies where. -/
abbrev FileTree := Place → Option FileEntry

namespace FileTree

/-- What lies at the end of a path that begins at a place. -/
def walk (tree : FileTree) : (path : List Text) → Place → Option FileEntry
  | [], place => tree place
  | name :: path, place =>
    match tree place with
    | some .directory => tree.walk path (place.step name)
    | _ => none

/-- What lies at the end of a path. -/
def find? (tree : FileTree) (path : Text) : Option FileEntry :=
  tree.walk (Place.namesOf path) (Place.start path)

/-- A tree with one more directory. -/
def withDirectory (tree : FileTree) (place : Place) : FileTree := fun other =>
  if other = place then some .directory else tree other

/-- A tree with the directories that a path from a place still lacks, and whether the path leads to
a directory then. It does not if it comes to a file. -/
def makeAlong (tree : FileTree) : (path : List Text) → Place → FileTree × Bool
  | [], _ => (tree, true)
  | name :: path, place =>
    match tree (place.step name) with
    | some .directory => tree.makeAlong path (place.step name)
    | some (.file _) => (tree, false)
    | none => (tree.withDirectory (place.step name)).makeAlong path (place.step name)

/-- A tree with the directories that a path still lacks, and whether the path leads to a directory
then. -/
def makeDirectories (tree : FileTree) (path : Text) : FileTree × Bool :=
  tree.makeAlong (Place.namesOf path) (Place.start path)

/-- Whether names lead through a directory to something else. -/
def isProperPrefix (directory path : List Text) : Bool :=
  Nat.blt directory.length path.length && directory.isPrefixOf path

/-- The tree that holds these files, the directories that they lie in, and further directories.
Above it there are only directories that hold nothing else. -/
def ofFiles (files : List (Text × List UInt8)) (directories : List Text) : FileTree := fun place =>
  match files.find? fun f => Place.ofPath f.1 == place with
  | some f => some (.file f.2)
  | none =>
    if place.names.isEmpty || (directories.any fun d => Place.ofPath d == place) ||
        (place.up == 0 &&
          files.any fun f => isProperPrefix place.names (Place.ofPath f.1).names) then
      some .directory
    else none

end FileTree

end DiceBot
