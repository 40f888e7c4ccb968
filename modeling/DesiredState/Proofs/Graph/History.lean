import DesiredState.Graph.Target
import DesiredState.Proofs.Graph.Changes
import DesiredState.Proofs.Graph.Operations

/-!
# The history of a graph

**Input.** A sequence of operations on a graph: new starts, declarations that
are pushed, classes that are included, and filters.

**Specification.** A map that remembers the order in which its keys were
inserted: a value for an old key takes the place of the older value, a new key
comes last, and a filter drops keys and leaves the others in their order. A
catalogue keeps the declarations of a module and its classes in two such maps.

**Results.**
* `Shows.perform`, `Shows.performAll`: the graph and the catalogue stay in step.
* `get?_perform_eq_some_iff`: what stands under a resource after an operation.
* `get?_performAll_eq_some_iff`: after a history, the last declaration pushed for
  a resource stands there if no operation since has dropped it.
* `performAll_ordered`: all that can be observed of a graph after a history.
-/

namespace DesiredState

section Specification

/-- A map that remembers the order in which its keys were inserted. -/
structure OrderedMap (κ α : Type) where
  order : List κ
  value : κ → Option α

namespace OrderedMap

variable {κ α : Type}

/-- The map without keys. -/
def empty : OrderedMap κ α :=
  ⟨[], fun _ => none⟩

/-- Give a key a value. A key that has one keeps its place, and another comes
last. -/
def insert [DecidableEq κ] (m : OrderedMap κ α) (key : κ) (value : α) : OrderedMap κ α :=
  { order := if (m.value key).isSome then m.order else m.order ++ [key]
    value := fun other => if other = key then some value else m.value other }

/-- Drop the keys whose values do not satisfy a condition. -/
def retain (m : OrderedMap κ α) (keep : α → Bool) : OrderedMap κ α :=
  { order := m.order.filter fun key => (m.value key).any keep
    value := fun key => (m.value key).filter keep }

/-- The values, in the order of their keys. -/
def values (m : OrderedMap κ α) : List α :=
  m.order.filterMap m.value

end OrderedMap

/-- An operation on a graph. -/
inductive Operation where
  | new (module : String) (state : Lifecycle)
  | push (decl : Declaration)
  | addInclude (name : String)
  | filter (keep : Declaration → Bool)
  | filterByTarget (target : Option String)

namespace Operation

/-- A declaration that stands before the operation stands after it. -/
def spares (operation : Operation) (decl : Declaration) : Bool :=
  match operation with
  | .new _ _ => false
  | .push other => other.ref ≠ decl.ref
  | .addInclude _ => true
  | .filter keep => keep decl
  | .filterByTarget none => true
  | .filterByTarget (some text) => (Target.ofText text).selects decl

/-- The operation acts on other resources only. -/
def LeavesAlone (operation : Operation) (ref : Ref) : Prop :=
  ∀ decl : Declaration, decl.ref = ref → operation.spares decl = true

/-- A history pushes a declaration, and spares it from then on. -/
def Retains (history : List Operation) (decl : Declaration) : Prop :=
  ∃ earlier later, history = earlier ++ .push decl :: later ∧
    ∀ operation ∈ later, operation.spares decl = true

/-- A history that goes on from an operation retains what the rest of it retains,
or what the operation pushes and the rest spares. -/
theorem retains_cons_iff (operation : Operation) (rest : List Operation)
    (decl : Declaration) :
    Retains (operation :: rest) decl ↔
      Retains rest decl ∨
        (operation = .push decl ∧ ∀ later ∈ rest, later.spares decl = true) := by
  constructor
  · rintro ⟨earlier, later, hsplit, hspares⟩
    cases earlier with
    | nil =>
        obtain ⟨rfl, rfl⟩ := List.cons.inj hsplit
        exact .inr ⟨rfl, hspares⟩
    | cons first earlier =>
        obtain ⟨_, hrest⟩ := List.cons.inj hsplit
        exact .inl ⟨earlier, later, hrest, hspares⟩
  · rintro (⟨earlier, later, rfl, hspares⟩ | ⟨rfl, hspares⟩)
    · exact ⟨operation :: earlier, later, rfl, hspares⟩
    · exact ⟨[], rest, rfl, hspares⟩

end Operation

/-- What is declared for a module, and which classes are included, both in the
order in which they came. -/
structure Catalogue where
  module : String
  state : Lifecycle
  declarations : OrderedMap Ref Declaration
  includes : OrderedMap String Unit

namespace Catalogue

/-- The catalogue without declarations. -/
def new (module : String) (state : Lifecycle) : Catalogue :=
  ⟨module, state, .empty, .empty⟩

/-- Keep the declarations that satisfy a condition. -/
def retain (catalogue : Catalogue) (keep : Declaration → Bool) : Catalogue :=
  { catalogue with declarations := catalogue.declarations.retain keep }

/-- The catalogue after an operation. -/
def perform (catalogue : Catalogue) : Operation → Catalogue
  | .new module state => new module state
  | .push decl =>
      { catalogue with declarations := catalogue.declarations.insert decl.ref decl }
  | .addInclude name => { catalogue with includes := catalogue.includes.insert name () }
  | .filter keep => catalogue.retain keep
  | .filterByTarget none => catalogue
  | .filterByTarget (some text) => catalogue.retain (Target.ofText text).selects

/-- The catalogue after a history. -/
def performAll (catalogue : Catalogue) (history : List Operation) : Catalogue :=
  history.foldl perform catalogue

/-- The notifications, in the order of their sources. -/
def edges (catalogue : Catalogue) : List Edge :=
  catalogue.declarations.order.filterMap fun ref =>
    ((catalogue.declarations.value ref).bind Declaration.notifies).map fun target =>
      ⟨ref, target⟩

end Catalogue

end Specification

namespace Graph

section Defs

/-- The graph after an operation. -/
def perform (graph : Graph) : Operation → Graph
  | .new module state => new module state
  | .push decl => graph.push decl
  | .addInclude name => graph.addInclude name
  | .filter keep => graph.filter keep
  | .filterByTarget target => graph.filterByTarget target

/-- The graph after a history. -/
def performAll (graph : Graph) (history : List Operation) : Graph :=
  history.foldl perform graph

/-- The graph holds what the catalogue holds, in the same order. -/
structure Shows (graph : Graph) (catalogue : Catalogue) : Prop where
  module_eq : graph.module = catalogue.module
  state_eq : graph.state = catalogue.state
  refs_eq : graph.resources.map Declaration.ref = catalogue.declarations.order
  get?_eq : ∀ ref, graph.get? ref = catalogue.declarations.value ref
  includes_eq : graph.includes = catalogue.includes.order
  mem_includes_iff : ∀ name,
    name ∈ graph.includes ↔ (catalogue.includes.value name).isSome

/-- All that can be observed of the graph is what the catalogue says. -/
structure Observed (graph : Graph) (catalogue : Catalogue) : Prop where
  module_eq : graph.module = catalogue.module
  state_eq : graph.state = catalogue.state
  resources_eq : graph.resources = catalogue.declarations.values
  get?_eq : ∀ ref, graph.get? ref = catalogue.declarations.value ref
  ofKind_eq : ∀ kind, graph.ofKind kind =
    (catalogue.declarations.order.filter fun ref => ref.kind = kind).filterMap
      catalogue.declarations.value
  edges_eq : graph.edges = catalogue.edges
  size_eq : graph.size = catalogue.declarations.order.length
  includes_eq : graph.includes = catalogue.includes.order

end Defs

section Step

variable {graph : Graph} {catalogue : Catalogue}

theorem isSome_get?_iff (ref : Ref) :
    (graph.get? ref).isSome ↔ ref ∈ graph.resources.map Declaration.ref := by
  simp [get?, List.find?_isSome]

theorem shows_new (module : String) (state : Lifecycle) :
    (new module state).Shows (.new module state) where
  module_eq := rfl
  state_eq := rfl
  refs_eq := rfl
  get?_eq _ := rfl
  includes_eq := rfl
  mem_includes_iff name := by simp [new, Catalogue.new, OrderedMap.empty]

theorem Shows.push (h : graph.Shows catalogue) (decl : Declaration) :
    (graph.push decl).Shows (catalogue.perform (.push decl)) where
  module_eq := h.module_eq
  state_eq := h.state_eq
  refs_eq := by
    have hold := graph.isSome_get?_iff decl.ref
    rw [h.get?_eq, h.refs_eq] at hold
    refine (refs_put decl graph.resources).trans ?_
    simp only [Catalogue.perform, OrderedMap.insert, h.refs_eq, hold]
  get?_eq := by
    intro ref
    rw [get?_push, h.get?_eq]
    rfl
  includes_eq := h.includes_eq
  mem_includes_iff := h.mem_includes_iff

theorem Shows.addInclude (h : graph.Shows catalogue) (name : String) :
    (graph.addInclude name).Shows (catalogue.perform (.addInclude name)) := by
  obtain ⟨hmodule, hstate, hresources⟩ := graph.addInclude_other name
  have hincludes : (graph.addInclude name).includes =
      if (catalogue.includes.value name).isSome then catalogue.includes.order
      else catalogue.includes.order ++ [name] := by
    rw [← h.includes_eq]
    simp only [← h.mem_includes_iff]
    split
    · rename_i hmem
      rw [Graph.addInclude, dif_pos hmem]
    · rename_i hnew
      exact includes_addInclude hnew
  refine ⟨hmodule.trans h.module_eq, hstate.trans h.state_eq, ?_, ?_, hincludes, ?_⟩
  · rw [hresources]
    exact h.refs_eq
  · intro ref
    rw [get?_addInclude]
    exact h.get?_eq ref
  · intro other
    have hmem := h.mem_includes_iff other
    have hvalue := h.mem_includes_iff name
    rw [h.includes_eq] at hmem hvalue
    rw [hincludes]
    simp only [Catalogue.perform, OrderedMap.insert]
    by_cases heq : other = name
    · subst heq
      split <;> simp_all
    · split <;> simp [heq, hmem]

theorem Shows.filter (h : graph.Shows catalogue) (keep : Declaration → Bool) :
    (graph.filter keep).Shows (catalogue.retain keep) where
  module_eq := h.module_eq
  state_eq := h.state_eq
  refs_eq := by
    have hkeep : ∀ decl ∈ graph.resources,
        keep decl = ((fun ref => (catalogue.declarations.value ref).any keep) ∘ Declaration.ref)
          decl := by
      intro decl hmem
      rw [Function.comp_apply, ← h.get?_eq, graph.get?_ref hmem, Option.any_some]
    simp only [Catalogue.retain, OrderedMap.retain, ← h.refs_eq, Graph.filter]
    rw [List.filter_map, List.filter_congr hkeep]
  get?_eq := by
    intro ref
    rw [get?_filter, h.get?_eq]
    rfl
  includes_eq := h.includes_eq
  mem_includes_iff := h.mem_includes_iff

/-- An operation keeps the graph and the catalogue in step. -/
theorem Shows.perform (h : graph.Shows catalogue) (operation : Operation) :
    (graph.perform operation).Shows (catalogue.perform operation) := by
  cases operation with
  | new module state => exact shows_new module state
  | push decl => exact h.push decl
  | addInclude name => exact h.addInclude name
  | filter keep => exact h.filter keep
  | filterByTarget target =>
      cases target with
      | none => exact h
      | some text => exact h.filter (Target.ofText text).selects

/-- A history keeps them in step. -/
theorem Shows.performAll (h : graph.Shows catalogue) (history : List Operation) :
    (graph.performAll history).Shows (catalogue.performAll history) := by
  induction history generalizing graph catalogue with
  | nil => exact h
  | cons operation rest ih => exact ih (h.perform operation)

end Step

section Observations

variable {graph : Graph} {catalogue : Catalogue}

theorem filterMap_get?_ref {ds : List Declaration} (h : ∀ decl ∈ ds, decl ∈ graph.resources) :
    (ds.map Declaration.ref).filterMap graph.get? = ds := by
  rw [List.filterMap_map]
  refine (List.filterMap_congr ?_).trans List.filterMap_some
  intro decl hmem
  exact graph.get?_ref (h decl hmem)

theorem Shows.observed (h : graph.Shows catalogue) : graph.Observed catalogue := by
  have hvalue : catalogue.declarations.value = graph.get? :=
    funext fun ref => (h.get?_eq ref).symm
  refine ⟨h.module_eq, h.state_eq, ?_, h.get?_eq, ?_, ?_, ?_, h.includes_eq⟩
  · rw [OrderedMap.values, hvalue, ← h.refs_eq]
    exact (filterMap_get?_ref fun _ hmem => hmem).symm
  · intro kind
    rw [hvalue, ← h.refs_eq, List.filter_map]
    exact (filterMap_get?_ref fun _ hmem => List.mem_of_mem_filter hmem).symm
  · rw [Catalogue.edges, hvalue, ← h.refs_eq, List.filterMap_map]
    refine List.filterMap_congr ?_
    intro decl hmem
    rw [Function.comp_apply, graph.get?_ref hmem, Option.bind_some]
  · rw [← h.refs_eq, List.length_map]
    rfl

end Observations

section LookUp

variable {graph : Graph}

/-- After an operation the declaration that it pushed stands under its resource,
and elsewhere those that stood there before and were spared. -/
theorem get?_perform_eq_some_iff (operation : Operation) (ref : Ref) (decl : Declaration) :
    (graph.perform operation).get? ref = some decl ↔
      (operation = .push decl ∧ decl.ref = ref) ∨
        (graph.get? ref = some decl ∧ operation.spares decl = true) := by
  cases operation with
  | new module state => simp [perform, Operation.spares]
  | push other =>
      rw [perform, get?_push]
      by_cases heq : ref = other.ref
      · have hold : graph.get? ref = some decl → other.ref = decl.ref := by
          intro h
          rw [graph.ref_of_get? h, heq]
        rw [if_pos heq]
        constructor
        · intro h
          cases h
          exact .inl ⟨rfl, heq.symm⟩
        · rintro (⟨hpush, _⟩ | ⟨hget, hspares⟩)
          · cases hpush
            rfl
          · exact absurd (hold hget) (by simpa [Operation.spares] using hspares)
      · rw [if_neg heq]
        constructor
        · intro h
          refine .inr ⟨h, ?_⟩
          have href := graph.ref_of_get? h
          simp only [Operation.spares, href, decide_eq_true_eq]
          exact Ne.symm heq
        · rintro (⟨hpush, href⟩ | ⟨hget, _⟩)
          · cases hpush
            exact absurd href.symm heq
          · exact hget
  | addInclude name => simp [perform, Operation.spares]
  | filter keep => simp [perform, get?_filter, Option.filter_eq_some_iff, Operation.spares]
  | filterByTarget target =>
      cases target with
      | none => simp [perform, filterByTarget, Operation.spares]
      | some text =>
          simp [perform, filterByTarget, get?_filter, Option.filter_eq_some_iff, Operation.spares]

/-- What stands under a resource after a history was pushed in it and spared from
then on, or stood there before and was spared all along. -/
theorem get?_performAll_eq_some_iff (history : List Operation) (ref : Ref)
    (decl : Declaration) :
    (graph.performAll history).get? ref = some decl ↔
      (decl.ref = ref ∧ Operation.Retains history decl) ∨
        (graph.get? ref = some decl ∧
          ∀ operation ∈ history, operation.spares decl = true) := by
  induction history generalizing graph with
  | nil => simp [performAll, Operation.Retains]
  | cons operation rest ih =>
      have hrest : ((graph.perform operation).performAll rest).get? ref = some decl ↔
          (decl.ref = ref ∧ Operation.Retains rest decl) ∨
            ((graph.perform operation).get? ref = some decl ∧
              ∀ later ∈ rest, later.spares decl = true) := ih
      rw [performAll] at hrest
      rw [performAll, List.foldl_cons, hrest, get?_perform_eq_some_iff,
        Operation.retains_cons_iff, List.forall_mem_cons]
      tauto

/-- Operations on other resources do not change what stands under a resource. -/
theorem get?_performAll_of_leavesAlone {operations : List Operation} {ref : Ref}
    (h : ∀ operation ∈ operations, operation.LeavesAlone ref) :
    (graph.performAll operations).get? ref = graph.get? ref := by
  induction operations generalizing graph with
  | nil => rfl
  | cons operation rest ih =>
      have hhead : operation.LeavesAlone ref := h operation List.mem_cons_self
      have hstep : (graph.perform operation).get? ref = graph.get? ref := by
        apply Option.ext
        intro decl
        rw [get?_perform_eq_some_iff]
        constructor
        · rintro (⟨rfl, href⟩ | ⟨hget, _⟩)
          · simpa [Operation.spares] using hhead decl href
          · exact hget
        · intro hget
          exact .inr ⟨hget, hhead decl (graph.ref_of_get? hget)⟩
      have hrest : ((graph.perform operation).performAll rest).get? ref =
          (graph.perform operation).get? ref :=
        ih fun other hother => h other (List.mem_cons_of_mem _ hother)
      exact hrest.trans hstep

end LookUp

section History

/-- After every history of a graph, a resource is declared once and a class
included once, and the graph is what the catalogue of the same history says. Under
a resource stands the last declaration that was pushed for it, if no operation
since has dropped it, and operations on other resources leave it alone. -/
theorem performAll_ordered (module : String) (state : Lifecycle) (history : List Operation) :
    (((new module state).performAll history).resources.map Declaration.ref).Nodup ∧
    ((new module state).performAll history).includes.Nodup ∧
    ((new module state).performAll history).Observed
      ((Catalogue.new module state).performAll history) ∧
    (∀ ref decl, ((new module state).performAll history).get? ref = some decl ↔
      decl.ref = ref ∧ Operation.Retains history decl) ∧
    (∀ ref operations, (∀ operation ∈ operations, operation.LeavesAlone ref) →
      ((new module state).performAll (history ++ operations)).get? ref =
        ((new module state).performAll history).get? ref) := by
  have hshows := (shows_new module state).performAll history
  refine ⟨resources_nodup _, includes_nodup _, hshows.observed, ?_, ?_⟩
  · intro ref decl
    rw [get?_performAll_eq_some_iff, get?_new]
    simp
  · intro ref operations halone
    rw [performAll, List.foldl_append]
    exact get?_performAll_of_leavesAlone halone

/-- A declaration that replaces another keeps its place, and one that was dropped
comes back at the end. -/
example :
    ((new "web" .installed).performAll
      [.push ⟨.package, "web", .empty, none⟩, .push ⟨.service, "web", .empty, none⟩,
        .push ⟨.file, "web", .empty, none⟩, .push ⟨.service, "web", .empty, some ⟨.file, "web"⟩⟩,
        .filterByTarget (some "packages.we"), .push ⟨.service, "web", .empty, none⟩]).resources.map
          Declaration.ref = [⟨.package, "web"⟩, ⟨.service, "web"⟩] := by
  decide +kernel

end History

end Graph
end DesiredState
