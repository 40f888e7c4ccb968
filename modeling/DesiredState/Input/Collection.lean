import DesiredState.Input.NodeFile

/-!
# Collection of node files

**Rule.** A path that leads to a file stands for that file, whatever its name. A
path that leads to a directory stands for all node files below it, in the order of
their paths. The first path that leads nowhere ends the collection.
-/

namespace DesiredState

/-- Why node files cannot be collected or loaded. -/
inductive InputFailure where
  | notFound (path : Path)
  | load (failure : LoadFailure)
deriving DecidableEq, Repr

/-- The failure in words. -/
def InputFailure.message : InputFailure → String
  | .notFound path => "Input not found: " ++ path.text
  | .load failure => failure.message

namespace Disk

/-- The node files below a directory. -/
def nodeFilesBelow (disk : Disk) (path : Path) : List Path :=
  (disk.walk path).filter fun file => (NodeFormat.ofPath? file).isSome

/-- The node files that a path stands for. -/
def nodeFilesAt (disk : Disk) (path : Path) : Except InputFailure (List Path) :=
  if disk.isDirectory path then .ok (disk.nodeFilesBelow path)
  else if disk.isFile path then .ok [path]
  else .error (.notFound path)

/-- The node files that some paths stand for. -/
def collect (disk : Disk) : List Path → Except InputFailure (List Path)
  | [] => .ok []
  | path :: rest =>
      match disk.nodeFilesAt path with
      | .error failure => .error failure
      | .ok files =>
          match disk.collect rest with
          | .error failure => .error failure
          | .ok more => .ok (files ++ more)

/-- Load some node files, up to the first one that fails. -/
def loadAll (disk : Disk) : List Path → Except InputFailure (List LoadedNode)
  | [] => .ok []
  | path :: rest =>
      match LoadedNode.load disk path with
      | .error failure => .error (.load failure)
      | .ok loaded =>
          match disk.loadAll rest with
          | .error failure => .error failure
          | .ok more => .ok (loaded :: more)

/-- Collect and load the node files that some paths stand for. -/
def loadInputs (disk : Disk) (paths : List Path) :
    Except InputFailure (List LoadedNode) :=
  match disk.collect paths with
  | .error failure => .error failure
  | .ok files => disk.loadAll files

end Disk
end DesiredState
