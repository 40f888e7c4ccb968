import DesiredState.Graph.Basic

/-!
# Changes between graphs

**Types.** A change is about one resource: its declaration was added, removed or
modified. It lists the attributes whose values differ, and the notified
resources when those differ.

**Rule.** The changes come in the order of the later graph, and the removals
after them in the order of the earlier one. A resource that is declared alike in
both is not listed.
-/

namespace DesiredState

/-- What became of a declaration. -/
inductive ChangeKind where
  | added
  | removed
  | modified
deriving DecidableEq, Repr

/-- The name of the kind of change. -/
def ChangeKind.name : ChangeKind → String
  | .added => "added"
  | .removed => "removed"
  | .modified => "modified"

/-- The two values of an attribute that differ. -/
structure AttributeChange where
  key : String
  before : Option Attribute
  after : Option Attribute
deriving DecidableEq

/-- What differs between two declarations of one resource. -/
structure Change where
  ref : Ref
  kind : ChangeKind
  attributes : List AttributeChange
  /-- The notified resources before and after, when they differ. -/
  notify : Option (Option Ref × Option Ref)
deriving DecidableEq

namespace KeyMap

/-- The names of two maps, in order, each once. -/
def unionKeys {α β : Type} (m : KeyMap α) (n : KeyMap β) : List String :=
  (ofList ((m.keys ++ n.keys).map fun key => (key, ()))).keys

end KeyMap

namespace Change

/-- The attributes of a declaration that may be missing. -/
def attributesOf (decl : Option Declaration) : KeyMap Attribute :=
  match decl with
  | none => .empty
  | some decl => decl.attributes

/-- The attributes whose values differ, in the order of their names. -/
def attributeChanges (before after : KeyMap Attribute) : List AttributeChange :=
  (before.unionKeys after).filterMap fun key =>
    if before.get? key = after.get? key then none
    else some ⟨key, before.get? key, after.get? key⟩

/-- The change of a resource between two declarations that may be missing. -/
def ofPair (ref : Ref) (kind : ChangeKind) (before after : Option Declaration) :
    Change :=
  let notifiedBefore := before.bind Declaration.notifies
  let notifiedAfter := after.bind Declaration.notifies
  { ref := ref
    kind := kind
    attributes := attributeChanges (attributesOf before) (attributesOf after)
    notify :=
      if notifiedBefore = notifiedAfter then none
      else some (notifiedBefore, notifiedAfter) }

/-- The change from one declaration to another; none when both are missing or
alike. -/
def between? : Option Declaration → Option Declaration → Option Change
  | none, none => none
  | none, some after => some (ofPair after.ref .added none (some after))
  | some before, none => some (ofPair before.ref .removed (some before) none)
  | some before, some after =>
      if before = after then none
      else some (ofPair before.ref .modified (some before) (some after))

end Change

namespace Graph

/-- The changes that lead from one graph to another. -/
def changes (before after : Graph) : List Change :=
  (after.resources.filterMap fun decl =>
      Change.between? (before.get? decl.ref) (some decl)) ++
    ((before.resources.filter fun decl => (after.get? decl.ref).isNone).filterMap
      fun decl => Change.between? (some decl) none)

end Graph

/-- The classes included in one graph only. -/
structure IncludeChanges where
  added : List String
  removed : List String
deriving DecidableEq, Repr

namespace IncludeChanges

/-- The classes that one graph includes and the other does not. -/
def between (before after : Graph) : IncludeChanges :=
  { added := after.includes.filter fun name => name ∉ before.includes
    removed := before.includes.filter fun name => name ∉ after.includes }

/-- Both graphs include the same classes. -/
def isEmpty (includes : IncludeChanges) : Bool :=
  includes.added.isEmpty && includes.removed.isEmpty

/-- No class differs. -/
def none : IncludeChanges :=
  ⟨[], []⟩

end IncludeChanges

/-- How many changes there are of each kind. -/
structure ChangeSummary where
  additions : Nat
  removals : Nat
  modifications : Nat
  includesAdded : Nat
  includesRemoved : Nat
deriving DecidableEq, Repr

namespace ChangeSummary

/-- Count the changes of declarations and of includes. -/
def of (changes : List Change) (includes : IncludeChanges) : ChangeSummary :=
  { additions := changes.countP fun change => change.kind = .added
    removals := changes.countP fun change => change.kind = .removed
    modifications := changes.countP fun change => change.kind = .modified
    includesAdded := includes.added.length
    includesRemoved := includes.removed.length }

/-- The number of changes. -/
def total (summary : ChangeSummary) : Nat :=
  summary.additions + summary.removals + summary.modifications +
    summary.includesAdded + summary.includesRemoved

/-- There is a change. -/
def hasChanges (summary : ChangeSummary) : Bool :=
  0 < summary.total

end ChangeSummary

namespace Change

/-- The changes of each kind of resource, in the order of the kinds. -/
def groupByKind (changes : List Change) : List (Kind × List Change) :=
  Kind.all.filterMap fun kind =>
    match changes.filter fun change => change.ref.kind = kind with
    | [] => none
    | group => some (kind, group)

end Change
end DesiredState
