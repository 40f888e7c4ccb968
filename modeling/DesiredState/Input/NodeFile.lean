import DesiredState.Compilation
import DesiredState.Disk
import DesiredState.Json.Reader
import DesiredState.Toml.Reader

/-!
# Node files

**Type.** A node file holds the layers that one node is compiled from: the name of
the module, the name of the node, the root of its templates, facts and parameters.

**Reading.** A file whose name ends in `.json` is JSON, any other is TOML. In
JSON the fields may also be given as an array in their order, a field must not be
repeated, and arrays and objects are nested 127 deep at most. Fields of other names
do not count.
-/

namespace DesiredState

/-- The form of a node file. -/
inductive NodeFormat where
  | toml
  | json
deriving DecidableEq, Repr

namespace NodeFormat

/-- The name of the format, which is the extension of its files. -/
def name : NodeFormat → String
  | .toml => "toml"
  | .json => "json"

/-- The format that the extension of a path names. -/
def ofPath? (path : Path) : Option NodeFormat :=
  match path.extension? with
  | some "toml" => some .toml
  | some "json" => some .json
  | _ => none

end NodeFormat

/-- The layers that one node is compiled from. -/
structure NodeFile where
  module : String
  node : Option String
  templates : Option String
  facts : KeyMap RawValue
  params : KeyMap RawValue
deriving Inhabited

namespace NodeFile

section Decoding

/-- The module of a node file that names none. -/
def defaultModule : String := "nginx"

/-- The fields of a node file, in their order. -/
def fieldNames : List String :=
  ["module", "node", "templates", "facts", "params"]

/-- A string, or a default for a missing field. -/
def stringOr (default : String) : Option Json → Option String
  | none => some default
  | some json => json.string?

/-- A string that may be missing or null. -/
def optionalString : Option Json → Option (Option String)
  | none => some none
  | some .null => some none
  | some json => json.string?.map some

/-- Raw values by name, or none for a missing field. -/
def rawMapOr : Option Json → Option (KeyMap RawValue)
  | none => some .empty
  | some json => json.toRawMap?

/-- The node file of its fields. -/
def ofFields? (field : String → Option Json) : Option NodeFile :=
  match stringOr defaultModule (field "module"), optionalString (field "node"),
    optionalString (field "templates"), rawMapOr (field "facts"),
    rawMapOr (field "params") with
  | some module, some node, some templates, some facts, some params =>
      some ⟨module, node, templates, facts, params⟩
  | _, _, _, _, _ => none

/-- How deep the value of a field may be nested. -/
def maxFieldDepth : Nat := 126

/-- The fields of a node file in JSON that count: no one twice, none too deep. -/
def knownFields? (fields : List (String × Json)) : Option (List (String × Json)) :=
  let known := fields.filter fun field => fieldNames.contains field.1
  if (known.map Prod.fst).Nodup ∧ known.all fun field => field.2.depth ≤ maxFieldDepth then
    some known
  else none

/-- The fields of a node file that is written as an array. -/
def positionalFields? (items : List Json) : Option (List (String × Json)) :=
  if items.length ≤ fieldNames.length then knownFields? (fieldNames.zip items) else none

/-- Read a node file in JSON. -/
def ofJson? (json : Json) : Option NodeFile :=
  let fields :=
    match json with
    | .object fields => knownFields? fields
    | .array items => positionalFields? items
    | _ => none
  fields.bind fun fields => ofFields? fun name => Json.lastOf name fields

/-- Read a node file in a format. -/
def ofText? (format : NodeFormat) (text : String) : Option NodeFile :=
  match format with
  | .json => (Json.read? text).bind ofJson?
  | .toml => (Toml.read? text).bind fun json => ofFields? json.field?

end Decoding

section Layers

/-- The parameters that belong to no option. -/
def unknownParams (file : NodeFile) : List String :=
  file.params.keys.filter fun name => !OptionName.isKnown name

/-- The facts, with the name of the node for a missing `fqdn`. -/
def allFacts (file : NodeFile) : KeyMap RawValue :=
  match file.node with
  | none => file.facts
  | some node => file.facts.insertIfNew "fqdn" (.text node)

/-- What the module of the node is compiled from. -/
def sources (file : NodeFile) : Sources :=
  ⟨file.module, file.params, file.allFacts⟩

end Layers

end NodeFile

/-- A node file together with its path. -/
structure LoadedNode where
  path : Path
  file : NodeFile
deriving Inhabited

/-- Why a node file cannot be loaded. -/
inductive LoadFailure where
  | unreadable (path : Path)
  | malformed (format : NodeFormat) (path : Path)
deriving DecidableEq, Repr

/-- The failure in words. -/
def LoadFailure.message : LoadFailure → String
  | .unreadable path => "Could not read " ++ path.text
  | .malformed .json path => "Invalid JSON format in " ++ path.text
  | .malformed .toml path => "Invalid TOML format in " ++ path.text

namespace LoadedNode

/-- Load a node file. -/
def load (disk : Disk) (path : Path) : Except LoadFailure LoadedNode :=
  let format := (NodeFormat.ofPath? path).getD .toml
  match disk.readText? path with
  | none => .error (.unreadable path)
  | some text =>
      match NodeFile.ofText? format text with
      | none => .error (.malformed format path)
      | some file => .ok ⟨path, file⟩

/-- The name of the node in reports: its own, or that of its file. -/
def name (loaded : LoadedNode) : String :=
  match loaded.file.node with
  | some node => node
  | none => (loaded.path.stem?).getD loaded.path.text

/-- The directory of the file. -/
def directory (loaded : LoadedNode) : Path :=
  loaded.path.directory

/-- The root of the node's templates: relative to the directory of its file, which
also stands in for a missing one. -/
def templateRoot (home : Option String) (loaded : LoadedNode) : Path :=
  match loaded.file.templates with
  | none => loaded.directory
  | some root => loaded.directory.join (Path.expandHome home ⟨root⟩)

/-- The node to compile. -/
def node (loaded : LoadedNode) : Node :=
  ⟨loaded.name, loaded.file.sources⟩

end LoadedNode
end DesiredState
