/-!
# Paths

**Type.** A path is a text whose pieces are separated by slashes.

**Components.** Read as a sequence of components, a path starts at the root when
it starts with a slash; empty pieces do not count, and a dot counts only at the
start of a relative path. Paths with the same components name the same place,
whatever their spelling.

**Names.** The last component of a path, unless it is the parent, is a file name.
Its extension follows its last dot, unless that dot is the first character.
-/

namespace DesiredState

/-- A path as it is spelled. -/
structure Path where
  text : String
deriving DecidableEq, Repr, Inhabited

namespace Path

/-- One step of a path. -/
inductive Component where
  | root
  | current
  | parent
  | normal (name : String)
deriving DecidableEq, Repr

section Components

/-- The pieces between slashes. -/
def piecesOfChars : List Char → List (List Char)
  | [] => [[]]
  | c :: rest =>
      if c = '/' then [] :: piecesOfChars rest
      else
        match piecesOfChars rest with
        | [] => [[c]]
        | piece :: pieces => (c :: piece) :: pieces

/-- The pieces between slashes. -/
def pieces (path : Path) : List String :=
  (piecesOfChars path.text.toList).map String.ofList

/-- The path starts at the root. -/
def isAbsolute (path : Path) : Bool :=
  path.text.toList.head? = some '/'

/-- The component of a piece that is not the first. -/
def componentOf? (piece : String) : Option Component :=
  if piece = "" || piece = "." then none
  else if piece = ".." then some .parent
  else some (.normal piece)

/-- The components of a path. -/
def components (path : Path) : List Component :=
  match path.pieces with
  | [] => []
  | "" :: rest =>
      if path.isAbsolute then .root :: rest.filterMap componentOf?
      else rest.filterMap componentOf?
  | "." :: rest => .current :: rest.filterMap componentOf?
  | first :: rest => (first :: rest).filterMap componentOf?

end Components

section Joining

/-- The path that a second path leads to from a first: an absolute one stands on
its own. -/
def join (base next : Path) : Path :=
  if next.isAbsolute || base.text = "" then next
  else if base.text.toList.getLast? = some '/' then ⟨base.text ++ next.text⟩
  else ⟨base.text ++ "/" ++ next.text⟩

/-- A piece that adds no component. -/
def isIdle (piece : String) : Bool :=
  piece = "" || piece = "."

/-- The pieces, the first one apart, without idle ones at the end. -/
def dropIdle : List String → List String
  | [] => []
  | first :: rest => first :: (rest.reverse.dropWhile isIdle).reverse

/-- The directory of a path that ends in a file name; a name alone stands in the
current directory. -/
def directory (path : Path) : Path :=
  match dropIdle path.pieces.dropLast with
  | [] => ⟨"."⟩
  | [""] => if path.isAbsolute then ⟨"/"⟩ else ⟨"."⟩
  | pieces => ⟨String.intercalate "/" pieces⟩

end Joining

section Names

/-- The file name. -/
def fileName? (path : Path) : Option String :=
  match path.components.getLast? with
  | some (.normal name) => some name
  | _ => none

/-- What stands before and after the last dot. -/
def cutAtLastDot (cs : List Char) : Option (List Char × List Char) :=
  match cs with
  | [] => none
  | c :: rest =>
      match cutAtLastDot rest with
      | some (before, after) => some (c :: before, after)
      | none => if c = '.' then some ([], rest) else none

/-- The stem and the extension of a file name. -/
def cutName (name : String) : String × Option String :=
  match cutAtLastDot name.toList with
  | some (c :: before, after) =>
      (String.ofList (c :: before), some (String.ofList after))
  | _ => (name, none)

/-- The file name without its extension. -/
def stem? (path : Path) : Option String :=
  path.fileName?.map fun name => (cutName name).1

/-- The extension of the file name. -/
def extension? (path : Path) : Option String :=
  path.fileName?.bind fun name => (cutName name).2

end Names

section Home

/-- The path with a leading tilde replaced by a home directory: a tilde alone, or
one before a slash. -/
def expandHome (home : Option String) (path : Path) : Path :=
  match path.text.toList, home with
  | ['~'], some home => ⟨home⟩
  | '~' :: '/' :: rest, some home => ⟨home ++ "/" ++ String.ofList rest⟩
  | _, _ => path

end Home

end Path
end DesiredState
