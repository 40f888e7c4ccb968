import DesiredState.Declaration

/-!
# Graphs of declarations

**Type.** A graph lists the declarations of a module in the order in which their
resources were first demanded, each resource once, and the classes to include,
each once. Declarations that notify a resource are the sources of its edges.

**Operations.** A declaration is put in the place of an older one of the same
resource, or at the end. Filtering keeps the order.

**Results.** One equation for the look-up after each operation.
-/

namespace DesiredState

/-- A notification from one resource to another. -/
structure Edge where
  source : Ref
  target : Ref
deriving DecidableEq, Repr

/-- The edge as messages show it, around an arrow. -/
def Edge.text (edge : Edge) (arrow : String) : String :=
  edge.source.text ++ arrow ++ edge.target.text

/-- The declarations of a module, with the classes to include. -/
structure Graph where
  module : String
  state : Lifecycle
  resources : List Declaration
  includes : List String
  resources_nodup : (resources.map Declaration.ref).Nodup
  includes_nodup : includes.Nodup
deriving DecidableEq

namespace Graph

section Defs

/-- The graph without declarations. -/
def new (module : String) (state : Lifecycle) : Graph :=
  ⟨module, state, [], [], .nil, .nil⟩

instance : Inhabited Graph := ⟨new "" .installed⟩

/-- Put a declaration in the place of the one with the same resource, or at the
end. -/
def put (decl : Declaration) : List Declaration → List Declaration
  | [] => [decl]
  | d :: rest => if d.ref = decl.ref then decl :: rest else d :: put decl rest

theorem refs_put (decl : Declaration) (ds : List Declaration) :
    (put decl ds).map Declaration.ref =
      if decl.ref ∈ ds.map Declaration.ref then ds.map Declaration.ref
      else ds.map Declaration.ref ++ [decl.ref] := by
  induction ds with
  | nil => simp [put]
  | cons d rest ih =>
      rw [put]
      split
      · rename_i heq
        simp [heq]
      · rename_i hne
        have hiff : decl.ref ∈ (d :: rest).map Declaration.ref ↔
            decl.ref ∈ rest.map Declaration.ref := by
          simp [Ne.symm hne]
        rw [List.map_cons, ih]
        by_cases h : decl.ref ∈ rest.map Declaration.ref
        · rw [if_pos h, if_pos (hiff.mpr h)]
          rfl
        · rw [if_neg h, if_neg fun h' => h (hiff.mp h')]
          rfl

theorem nodup_append_singleton {α : Type} {xs : List α} {x : α}
    (h : xs.Nodup) (hx : x ∉ xs) : (xs ++ [x]).Nodup := by
  refine List.nodup_append.mpr ⟨h, by simp, ?_⟩
  intro a ha b hb hab
  rw [List.mem_singleton] at hb
  exact hx (hb ▸ hab ▸ ha)

/-- Add a declaration; an older one of the same resource gives up its place. -/
def push (graph : Graph) (decl : Declaration) : Graph :=
  { graph with
    resources := put decl graph.resources
    resources_nodup := by
      rw [refs_put]
      split
      · exact graph.resources_nodup
      · rename_i h
        exact nodup_append_singleton graph.resources_nodup h }

/-- Add a class to include, unless it is there. -/
def addInclude (graph : Graph) (name : String) : Graph :=
  if h : name ∈ graph.includes then graph
  else
    { graph with
      includes := graph.includes ++ [name]
      includes_nodup := nodup_append_singleton graph.includes_nodup h }

/-- The declaration of a resource. -/
def get? (graph : Graph) (ref : Ref) : Option Declaration :=
  graph.resources.find? fun decl => decl.ref = ref

/-- The declarations of a kind, in order. -/
def ofKind (graph : Graph) (kind : Kind) : List Declaration :=
  graph.resources.filter fun decl => decl.kind = kind

/-- The notifications, in the order of their sources. -/
def edges (graph : Graph) : List Edge :=
  graph.resources.filterMap fun decl =>
    decl.notifies.map fun target => ⟨decl.ref, target⟩

/-- Keep the declarations that satisfy a condition. -/
def filter (graph : Graph) (keep : Declaration → Bool) : Graph :=
  { graph with
    resources := graph.resources.filter keep
    resources_nodup :=
      graph.resources_nodup.sublist (List.filter_sublist.map Declaration.ref) }

/-- The number of declarations. -/
def size (graph : Graph) : Nat :=
  graph.resources.length

end Defs

section Lookup

@[simp] theorem get?_new (module : String) (state : Lifecycle) (ref : Ref) :
    (new module state).get? ref = none :=
  rfl

theorem find?_put (decl : Declaration) (ref : Ref) (ds : List Declaration) :
    ((put decl ds).find? fun d => d.ref = ref) =
      if ref = decl.ref then some decl else ds.find? fun d => d.ref = ref := by
  induction ds with
  | nil =>
      by_cases h : ref = decl.ref
      · simp [put, h]
      · simp [put, h, Ne.symm h]
  | cons d rest ih =>
      rw [put]
      split
      · rename_i heq
        by_cases h : ref = decl.ref
        · simp [h]
        · simp [h, heq, Ne.symm h]
      · rename_i hne
        by_cases hd : d.ref = ref
        · have h : ref ≠ decl.ref := fun h => hne (hd.trans h)
          simp [hd, h]
        · simp only [List.find?_cons, hd, decide_false]
          exact ih

/-- A declaration is seen under its own resource and nowhere else. -/
theorem get?_push (graph : Graph) (decl : Declaration) (ref : Ref) :
    (graph.push decl).get? ref =
      if ref = decl.ref then some decl else graph.get? ref :=
  find?_put decl ref graph.resources

@[simp] theorem get?_addInclude (graph : Graph) (name : String) (ref : Ref) :
    (graph.addInclude name).get? ref = graph.get? ref := by
  unfold addInclude
  split <;> rfl

end Lookup

end Graph
end DesiredState
