import DesiredState.Path

/-!
# Disks

**Types.** A file tree is a file with its bytes, a directory with named file trees, or
something that is neither. A disk is a tree together with the current directory.

**Algorithm.** A path is followed piece by piece: a name leads to the entry of
that name, two dots lead back, and an empty piece or a dot stays in place. Each of
these needs a directory to start from, so a path with a slash at its end names no
file.

**Building.** A tree is put where a path leads, and what the path passes becomes a
directory. Directories that are missing on the way are made.

**Walking.** All files below a directory are listed in the order of their paths,
compared component by component. What is neither a file nor a directory is passed over.
-/

namespace DesiredState

/-- A file, a directory with its entries, each name once, or something that is neither,
such as a link or a device. -/
inductive FileTree where
  | file (bytes : ByteArray)
  | directory (entries : List (String × FileTree))
  | special
deriving Inhabited

namespace FileTree

/-- The tree is a directory. -/
def isDirectory : FileTree → Bool
  | .directory _ => true
  | _ => false

/-- The entry of a name. -/
def child? (tree : FileTree) (name : String) : Option FileTree :=
  match tree with
  | .directory entries =>
      (entries.find? fun entry => entry.1 = name).map Prod.snd
  | _ => none

mutual

/-- The names that lead to each file below a tree. -/
def filePaths : FileTree → List (List String)
  | .file _ => [[]]
  | .directory entries => filePathsOf entries
  | .special => []

/-- The names that lead to each file among some entries. -/
def filePathsOf : List (String × FileTree) → List (List String)
  | [] => []
  | (name, tree) :: rest =>
      tree.filePaths.map (name :: ·) ++ filePathsOf rest

end

/-- The entries of a directory; nothing else has any. -/
def entries : FileTree → List (String × FileTree)
  | .directory entries => entries
  | _ => []

/-- Change what some names lead to. Directories that are missing on the way are
made, and what is missing at the end is taken for an empty directory. -/
def alter (change : FileTree → FileTree) : List String → FileTree → FileTree
  | [], tree => change tree
  | name :: rest, tree =>
      let changed := alter change rest ((tree.child? name).getD (.directory []))
      if tree.entries.any fun entry => entry.1 = name then
        .directory (tree.entries.map fun entry =>
          if entry.1 = name then (name, changed) else entry)
      else .directory (tree.entries ++ [(name, changed)])

/-- The tree, if it is a directory, and an empty directory if not. -/
def asDirectory (tree : FileTree) : FileTree :=
  if tree.isDirectory then tree else .directory []

end FileTree

/-- A file tree with a current directory, given by the names that lead to it. -/
structure Disk where
  root : FileTree
  cwd : List String
deriving Inhabited

namespace Disk

section Following

/-- Follow one piece from a place, which is given with the directories above it,
the innermost first. -/
def follow (place : FileTree × List FileTree) (piece : String) :
    Option (FileTree × List FileTree) :=
  let (here, above) := place
  if !here.isDirectory then none
  else if Path.isIdle piece then some (here, above)
  else if piece = ".." then
    match above with
    | [] => some (here, [])
    | outer :: rest => some (outer, rest)
  else (here.child? piece).map fun child => (child, here :: above)

/-- The place that a path leads to. -/
def lookup? (disk : Disk) (path : Path) : Option FileTree :=
  if path.text = "" then none
  else
    let start := if path.isAbsolute then [] else disk.cwd
    ((start ++ path.pieces).foldlM follow (disk.root, [])).map Prod.fst

/-- The path leads to a directory. -/
def isDirectory (disk : Disk) (path : Path) : Bool :=
  match disk.lookup? path with
  | some (.directory _) => true
  | _ => false

/-- The path leads to a file. -/
def isFile (disk : Disk) (path : Path) : Bool :=
  match disk.lookup? path with
  | some (.file _) => true
  | _ => false

/-- The text of a file, if it is one. -/
def readText? (disk : Disk) (path : Path) : Option String :=
  match disk.lookup? path with
  | some (.file bytes) => String.fromUTF8? bytes
  | _ => none

end Following

section Building

/-- The disk with nothing but its current directory. -/
def empty (cwd : List String) : Disk :=
  ⟨FileTree.alter FileTree.asDirectory cwd (.directory []), cwd⟩

/-- The names that lead to where a piece leads from a directory. -/
def namesAfter (here : List String) (piece : String) : List String :=
  if Path.isIdle piece then here
  else if piece = ".." then here.dropLast
  else here ++ [piece]

/-- Put a tree where some pieces lead from a directory; what they pass on the way
becomes a directory. -/
def putAt (tree : FileTree) (here : List String) :
    List String → FileTree → FileTree
  | [], root => FileTree.alter (fun _ => tree) here root
  | piece :: rest, root =>
      putAt tree (namesAfter here piece) rest
        (FileTree.alter FileTree.asDirectory here root)

/-- Put a tree where a path leads. -/
def put (disk : Disk) (path : Path) (tree : FileTree) : Disk :=
  let start := if path.isAbsolute then [] else disk.cwd
  { disk with root := putAt tree start path.pieces disk.root }

end Building

section Walking

/-- The order of paths below a directory, name by name. -/
def pathLe (a b : List String) : Bool :=
  !decide (b < a)

/-- The files below a directory, in the order of their paths. -/
def walk (disk : Disk) (path : Path) : List Path :=
  match disk.lookup? path with
  | some tree =>
      (tree.filePaths.mergeSort pathLe).map fun names =>
        names.foldl (fun base name => base.join ⟨name⟩) path
  | none => []

end Walking

end Disk
end DesiredState
