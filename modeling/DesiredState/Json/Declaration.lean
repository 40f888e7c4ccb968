import DesiredState.Graph.Change
import DesiredState.Json.Basic

/-!
# Declarations as JSON

**Form.** A declaration is an object with the fields `kind`, `id` and
`attributes`, and `notifies` when it notifies a resource. A kind is its name, a
reference an object with `kind` and `id`, and an attribute a boolean, a string or
an object of strings.

**Reading.** Fields of other names do not count, and a missing or null `notifies`
means that no resource is notified.
-/

namespace DesiredState

/-- A map as an object. -/
def Json.ofMap {α : Type} (encode : α → Json) (m : KeyMap α) : Json :=
  .object (m.entries.map fun entry => (entry.1, encode entry.2))

/-- The entries of an object, each value decoded. -/
def Json.decodeFields {α : Type} (decode : Json → Option α) :
    List (String × Json) → Option (List (String × α))
  | [] => some []
  | (name, json) :: rest =>
      match decode json, decodeFields decode rest with
      | some value, some entries => some ((name, value) :: entries)
      | _, _ => none

/-- The map of an object whose values can be decoded. -/
def Json.toMap? {α : Type} (decode : Json → Option α) (json : Json) :
    Option (KeyMap α) :=
  json.object?.bind fun fields => (decodeFields decode fields).map .ofList

namespace Kind

/-- The kind as JSON. -/
def toJson (kind : Kind) : Json :=
  .string kind.name

/-- Read a kind. -/
def ofJson? (json : Json) : Option Kind :=
  json.string?.bind ofName?

end Kind

namespace Ref

/-- The reference as JSON. -/
def toJson (ref : Ref) : Json :=
  .object [("kind", ref.kind.toJson), ("id", .string ref.id)]

/-- Read a reference. -/
def ofJson? (json : Json) : Option Ref :=
  match (json.field? "kind").bind Kind.ofJson?, (json.field? "id").bind Json.string? with
  | some kind, some id => some ⟨kind, id⟩
  | _, _ => none

end Ref

namespace Attribute

/-- The attribute as JSON. -/
def toJson : Attribute → Json
  | .boolean value => .boolean value
  | .text value => .string value
  | .mapping entries => .ofMap .string entries

/-- Read an attribute. -/
def ofJson? : Json → Option Attribute
  | .boolean value => some (.boolean value)
  | .string value => some (.text value)
  | .object fields => ((Json.object fields).toMap? Json.string?).map .mapping
  | _ => none

end Attribute

namespace Declaration

/-- The declaration as JSON. -/
def toJson (decl : Declaration) : Json :=
  .object ([("kind", decl.kind.toJson), ("id", .string decl.id),
      ("attributes", .ofMap Attribute.toJson decl.attributes)] ++
    match decl.notifies with
    | none => []
    | some ref => [("notifies", ref.toJson)])

/-- Read the resource that a declaration notifies. -/
def notifiesOfJson? : Option Json → Option (Option Ref)
  | none => some none
  | some .null => some none
  | some json => (Ref.ofJson? json).map some

/-- Read a declaration. -/
def ofJson? (json : Json) : Option Declaration :=
  match Ref.ofJson? json,
    (json.field? "attributes").bind (Json.toMap? Attribute.ofJson?),
    notifiesOfJson? (json.field? "notifies") with
  | some ref, some attributes, some notifies =>
      some ⟨ref.kind, ref.id, attributes, notifies⟩
  | _, _, _ => none

end Declaration

namespace Edge

/-- The edge as JSON. -/
def toJson (edge : Edge) : Json :=
  .object [("from", edge.source.toJson), ("to", edge.target.toJson)]

end Edge

namespace Graph

/-- The graph as JSON. -/
def toJson (graph : Graph) : Json :=
  .object [("module", .string graph.module), ("state", .string graph.state.name),
    ("resources", .array (graph.resources.map Declaration.toJson)),
    ("includes", .array (graph.includes.map .string))]

end Graph

namespace Switch

/-- The switch as JSON. -/
def toJson (switch : Switch) : Json :=
  .string switch.text

end Switch

namespace Setting

/-- The setting as JSON; a text that is not set is null. -/
def toJson : Setting → Json
  | .switch value => value.toJson
  | .text none => .null
  | .text (some value) => .string value
  | .mapping entries => .ofMap .string entries

end Setting
end DesiredState
