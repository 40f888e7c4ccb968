import DesiredState.Assembly
import DesiredState.Proofs.Graph.Operations
import Mathlib.Data.List.Nodup

/-!
# The shape of assembled graphs

**Input.** A configuration, the state of its module, and the content of the
configuration file.

**Idea.** Every declaration of a module has a slot of its own, which its kind and
the end of its identifier tell. The declarations come in the order of the slots,
so that no two of them are about one resource, whatever the identifiers.

**Results.**
* `map_ref_declarations`: the resources of a module, in their order.
* `resources_assemble`: the graph lists the declarations in their order; none
  takes the place of another.
* `toGraph_eq_ok_iff`: when a configuration has a graph, and which.
* `fileContent_eq_error_iff`, `toGraph_eq_error_iff`: when it has none, and why.
-/

namespace DesiredState

namespace Declaration

section Slots

/-- The place of a resource among those of a module. Of the files the directory
comes last; it is told by the last letter of `dir`. -/
def slot (ref : Ref) : Nat :=
  match ref.kind with
  | .package => 0
  | .service => 1
  | .file => if ref.id.toList.getLast? = some 'r' then 3 else 2
  | .monitor => 4
  | .firewall => 5
  | .integration => 6

theorem slot_file (name : String) : slot ⟨.file, name ++ ".conf"⟩ = 2 := by
  simp [slot, String.toList_append]

theorem slot_directory (name : String) : slot ⟨.file, name ++ ".dir"⟩ = 3 := by
  simp [slot, String.toList_append]

/-- The declarations come in the order of their slots. -/
def Ordered (ds : List Declaration) : Prop :=
  ds.Pairwise fun a b => slot a.ref < slot b.ref

theorem Ordered.nodup_refs {ds : List Declaration} (h : Ordered ds) :
    (ds.map Declaration.ref).Nodup := by
  refine List.pairwise_map.mpr (h.imp ?_)
  intro a b hlt heq
  rw [heq] at hlt
  exact Nat.lt_irrefl _ hlt

theorem Ordered.nodup {ds : List Declaration} (h : Ordered ds) : ds.Nodup :=
  List.Nodup.of_map _ h.nodup_refs

/-- Ordered lists with the same members are equal. -/
theorem Ordered.ext {ds es : List Declaration} (hds : Ordered ds) (hes : Ordered es)
    (h : ∀ decl, decl ∈ ds ↔ decl ∈ es) : ds = es := by
  have hperm : ds.Perm es := (List.perm_ext_iff_of_nodup hds.nodup hes.nodup).mpr h
  refine hperm.eq_of_pairwise ?_ hds hes
  intro a b _ _ hab hba
  exact absurd hba (Nat.lt_asymm hab)

end Slots

end Declaration

namespace Config

variable (config : Config) (state : Lifecycle) (content : Option FileContent)

section Order

/-- The resources that a module demands, in their order. -/
def refs : List Ref :=
  [⟨.package, config.text .package⟩, ⟨.service, config.text .service⟩,
    ⟨.file, config.module ++ ".conf"⟩] ++
    (if (config.text? .sourceDir).isSome then [⟨.file, config.module ++ ".dir"⟩] else []) ++
    (if config.isOn .monitor then [⟨.monitor, config.module ++ "_process"⟩] else []) ++
    (if config.isOn .firewall then
      [⟨.firewall, config.text .service ++ "_" ++ config.text .protocol ++ "_" ++
        config.text .port⟩] else []) ++
    (if config.isOn .puppi then [⟨.integration, config.text .service⟩] else [])

theorem refs_configDir :
    (config.configDirDeclaration? state).toList.map Declaration.ref =
      if (config.text? .sourceDir).isSome then [⟨.file, config.module ++ ".dir"⟩] else [] := by
  cases h : config.text? .sourceDir with
  | none => simp [configDirDeclaration?, textAttribute?, h]
  | some source =>
      simp [configDirDeclaration?, textAttribute?, h]
      rfl

theorem refs_monitor :
    (config.monitorDeclaration? state).toList.map Declaration.ref =
      if config.isOn .monitor then [⟨.monitor, config.module ++ "_process"⟩] else [] := by
  unfold monitorDeclaration?
  split <;> rfl

theorem refs_firewall :
    (config.firewallDeclaration? state).toList.map Declaration.ref =
      if config.isOn .firewall then
        [⟨.firewall, config.text .service ++ "_" ++ config.text .protocol ++ "_" ++
          config.text .port⟩] else [] := by
  unfold firewallDeclaration?
  split <;> rfl

theorem refs_integration :
    (config.integrationDeclaration? state).toList.map Declaration.ref =
      if config.isOn .puppi then [⟨.integration, config.text .service⟩] else [] := by
  unfold integrationDeclaration?
  split <;> rfl

/-- The declarations of a module are about its resources, one about each. -/
theorem map_ref_declarations :
    (config.declarations state content).map Declaration.ref = config.refs := by
  simp only [declarations, integrationDeclarations, List.map_append, refs_configDir,
    refs_monitor, refs_firewall, refs_integration, refs, List.append_assoc]
  rfl

/-- A declaration that is made under a condition is about the resource named there. -/
theorem ref_of_refs {condition : Prop} [Decidable condition] {decl? : Option Declaration}
    {decl : Declaration} {ref : Ref}
    (h : decl?.toList.map Declaration.ref = if condition then [ref] else [])
    (hdecl : decl? = some decl) : decl.ref = ref := by
  subst hdecl
  split at h
  · simpa using h
  · simp at h

theorem sublist_slots (condition : Prop) [Decidable condition] {ref : Ref} {n : Nat}
    (h : Declaration.slot ref = n) :
    ((if condition then [ref] else []).map Declaration.slot).Sublist [n] := by
  split
  · simp [h]
  · exact List.nil_sublist _

theorem slots_refs : (config.refs.map Declaration.slot).Sublist [0, 1, 2, 3, 4, 5, 6] := by
  have hcore : ([⟨.package, config.text .package⟩, ⟨.service, config.text .service⟩,
      ⟨.file, config.module ++ ".conf"⟩].map Declaration.slot).Sublist [0, 1, 2] := by
    simp only [List.map_cons, List.map_nil, Declaration.slot_file]
    exact List.Sublist.refl _
  have hdir := sublist_slots (config.text? .sourceDir).isSome
    (Declaration.slot_directory config.module)
  simp only [refs, List.map_append]
  exact (((hcore.append hdir).append (sublist_slots (config.isOn .monitor) rfl)).append
    (sublist_slots (config.isOn .firewall) rfl)).append (sublist_slots (config.isOn .puppi) rfl)

theorem ordered_declarations :
    Declaration.Ordered (config.declarations state content) := by
  have hincreasing : [0, 1, 2, 3, 4, 5, 6].Pairwise (fun a b : Nat => a < b) := by decide
  have hslots := hincreasing.sublist config.slots_refs
  rw [← config.map_ref_declarations state content, List.map_map] at hslots
  exact List.pairwise_map.mp hslots

end Order

section Contradictions

theorem versionConflict?_eq_none_iff :
    config.versionConflict? state = none ↔
      (state ≠ .absent → Ensure.ofVersion (config.text .version) ≠ .absent) := by
  simp [versionConflict?]

theorem contentConflict?_eq_none_iff :
    config.contentConflict? = none ↔
      ((config.text? .content).isSome →
        config.text? .source = none ∧ config.text? .template = none) := by
  unfold contentConflict?
  cases config.text? .content <;> cases config.text? .source <;>
    cases config.text? .template <;> simp

end Contradictions

section Assemble

@[simp] theorem foldl_push_declarations :
    ((config.declarations state content).foldl Graph.push
      (Graph.new config.module state)).resources = config.declarations state content := by
  have h := (Graph.new config.module state).resources_foldl_push
    (config.declarations state content)
    (config.ordered_declarations state content).nodup_refs
  simpa [Graph.new] using h

/-- The graph lists the declarations of the module in their order. -/
@[simp] theorem resources_assemble :
    (config.assemble state content).resources = config.declarations state content := by
  rw [← config.foldl_push_declarations state content, assemble]
  cases config.text? .myClass with
  | none => rfl
  | some name => exact (Graph.addInclude_other _ name).2.2

@[simp] theorem includes_assemble :
    (config.assemble state content).includes = (config.text? .myClass).toList := by
  have hnone : ((config.declarations state content).foldl Graph.push
      (Graph.new config.module state)).includes = [] :=
    (Graph.foldl_push_other _ _).2.2
  rw [assemble]
  cases config.text? .myClass with
  | none => exact hnone
  | some name =>
      have hnew : name ∉ ((config.declarations state content).foldl Graph.push
          (Graph.new config.module state)).includes := by
        rw [hnone]
        exact List.not_mem_nil
      refine (Graph.includes_addInclude hnew).trans ?_
      rw [hnone]
      rfl

@[simp] theorem module_assemble : (config.assemble state content).module = config.module := by
  have hmodule := (Graph.foldl_push_other (Graph.new config.module state)
    (config.declarations state content)).1
  rw [assemble]
  cases config.text? .myClass with
  | none => exact hmodule
  | some name => exact (Graph.addInclude_other _ name).1.trans hmodule

@[simp] theorem state_assemble : (config.assemble state content).state = state := by
  have hstate := (Graph.foldl_push_other (Graph.new config.module state)
    (config.declarations state content)).2.1
  rw [assemble]
  cases config.text? .myClass with
  | none => exact hstate
  | some name => exact (Graph.addInclude_other _ name).2.1.trans hstate

/-- A configuration has a graph when its version and its content contradict
nothing and its template can be rendered. -/
theorem toGraph_eq_ok_iff (facts : KeyMap RawValue) (renderer : Renderer)
    (graph : Graph) :
    config.toGraph facts renderer state = .ok graph ↔
      config.versionConflict? state = none ∧
        ∃ content, config.fileContent facts renderer = .ok content ∧
          graph = config.assemble state content := by
  unfold toGraph
  split
  · rename_i conflict hconflict
    simp [hconflict]
  · rename_i hversion
    split
    · rename_i fault hfault
      simp [hfault]
    · rename_i content hcontent
      constructor
      · intro h
        cases h
        exact ⟨hversion, content, hcontent, rfl⟩
      · rintro ⟨_, content', hcontent', rfl⟩
        rw [hcontent] at hcontent'
        cases hcontent'
        rfl

/-- The content of the file is refused when it contradicts other options, and otherwise
when the template that it comes from is not rendered. -/
theorem fileContent_eq_error_iff (facts : KeyMap RawValue) (renderer : Renderer)
    (fault : Fault) :
    config.fileContent facts renderer = .error fault ↔
      (∃ conflict, config.contentConflict? = some conflict ∧ fault = .conflict conflict) ∨
      (config.contentConflict? = none ∧ config.text? .source = none ∧
        ∃ template, config.text? .template = some template ∧
          renderer template (config.templateVariables facts) = .error fault) := by
  unfold fileContent
  cases config.contentConflict? with
  | some conflict => simp [eq_comm]
  | none =>
      cases config.text? .source with
      | some pointer => simp
      | none =>
          cases config.text? .template with
          | none => simp
          | some template =>
              cases hrendered : renderer template (config.templateVariables facts) <;>
                simp [hrendered]

/-- A configuration has no graph when its version contradicts its state, and otherwise
when the content of its file is refused. -/
theorem toGraph_eq_error_iff (facts : KeyMap RawValue) (renderer : Renderer)
    (fault : Fault) :
    config.toGraph facts renderer state = .error fault ↔
      (∃ conflict, config.versionConflict? state = some conflict ∧ fault = .conflict conflict) ∨
      (config.versionConflict? state = none ∧
        config.fileContent facts renderer = .error fault) := by
  unfold toGraph
  cases config.versionConflict? state with
  | some conflict => simp [eq_comm]
  | none => cases config.fileContent facts renderer <;> simp

end Assemble

end Config

section Builds

/-- The sources resolve to a configuration that has a graph in a state, and both
pass a test. -/
def Sources.builds (sources : Sources) (renderer : Renderer) (state : Lifecycle)
    (test : Config → Graph → Bool) : Bool :=
  match sources.resolve with
  | .error _ => false
  | .ok config =>
      match config.toGraph sources.facts renderer state with
      | .error _ => false
      | .ok graph => test config graph

theorem Sources.exists_of_builds {sources : Sources} {renderer : Renderer}
    {state : Lifecycle} {test : Config → Graph → Bool}
    (h : sources.builds renderer state test = true) :
    ∃ config graph, sources.resolve = .ok config ∧
      config.toGraph sources.facts renderer state = .ok graph ∧ test config graph = true := by
  unfold builds at h
  split at h
  · cases h
  · rename_i config hconfig
    split at h
    · cases h
    · rename_i graph hgraph
      exact ⟨config, graph, hconfig, hgraph, h⟩

/-- The sources resolve to a configuration that passes a test. -/
theorem Sources.exists_of_resolve {sources : Sources} {test : Config → Bool}
    (h : sources.resolve.toOption.any test = true) :
    ∃ config, sources.resolve = .ok config ∧ test config = true := by
  cases hok : sources.resolve with
  | error invalid =>
      rw [hok] at h
      cases h
  | ok config =>
      rw [hok] at h
      exact ⟨config, rfl, h⟩

end Builds

end DesiredState
