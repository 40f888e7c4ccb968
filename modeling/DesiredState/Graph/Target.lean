import DesiredState.Graph.Basic
import DesiredState.Text.Search

/-!
# Targets

**Rule.** A target selects declarations. Without a dot it is the word for a
kind. With a dot, it is the word for a kind and a part of the identifier when
what stands before the first dot is the word for a kind, and otherwise the whole
of it is a part of the identifier. A word for no kind selects nothing.
-/

namespace DesiredState

/-- What a target asks for. -/
inductive Target where
  /-- The declarations of the kind that a word names. -/
  | ofKind (word : String)
  /-- Of those, the ones whose identifier has a part. -/
  | ofKindWithPart (kind : Kind) (part : String)
  /-- The declarations whose identifier has a part. -/
  | withPart (part : String)
deriving DecidableEq, Repr

namespace Target

/-- Read a target. -/
def ofText (text : String) : Target :=
  match Text.cut? text '.' with
  | none => .ofKind text
  | some (word, part) =>
      match Kind.ofWord? word with
      | some kind => .ofKindWithPart kind part
      | none => .withPart text

/-- The declaration is selected. -/
def selects (target : Target) (decl : Declaration) : Bool :=
  match target with
  | .ofKind word => Kind.ofWord? word = some decl.kind
  | .ofKindWithPart kind part =>
      kind = decl.kind && Text.contains decl.id part
  | .withPart part => Text.contains decl.id part

end Target

namespace Graph

/-- The declarations that a target selects, or all of them without a target. -/
def filterByTarget (graph : Graph) : Option String → Graph
  | none => graph
  | some text => graph.filter (Target.ofText text).selects

end Graph
end DesiredState
