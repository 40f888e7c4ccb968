import DesiredState.Compilation
import DesiredState.Proofs.Assembly.Demand
import DesiredState.Proofs.Graph.Changes
import DesiredState.Proofs.Precedence

/-!
# Differences between compiled graphs

**Input.** Two modules, each compiled from sources of its own with a renderer of
its own.

**Idea.** The changes compare declarations only. A module and its state are
nevertheless read off its declarations: the module off the identifier of the
configuration file, the state off what is demanded of the service and of that
file. The order of the declarations is that of their slots.

**Results.**
* `compile_eq_ok_iff`: when a compilation succeeds, and with what.
* `declarations_inj`: equal declarations belong to one module in one state.
* `assemble_ext`: graphs that declare and include the same are equal.
* `hasChanges_compile_eq_false_iff`: no change is hidden.
-/

namespace DesiredState

section Ensures

theorem Lifecycle.eq_of_ensure {state other : Lifecycle}
    (hservice : state.serviceEnsure.map Ensure.text = other.serviceEnsure.map Ensure.text)
    (hfile : state.fileEnsure.text = other.fileEnsure.text) : state = other := by
  cases state <;> cases other <;>
    simp_all [Lifecycle.serviceEnsure, Lifecycle.fileEnsure, Ensure.text]

end Ensures

section Recovery

variable {config config' : Config} {state state' : Lifecycle}
variable {content content' : Option FileContent}

/-- The declarations tell the module and its state. -/
theorem Config.declarations_inj
    (h : config.declarations state content = config'.declarations state' content') :
    config.module = config'.module ∧ state = state' := by
  simp only [declarations, List.cons_append, List.nil_append, List.cons.injEq] at h
  obtain ⟨_, hservice, hfile, _⟩ := h
  constructor
  · have hid : config.module ++ ".conf" = config'.module ++ ".conf" :=
      congrArg Declaration.id hfile
    exact (String.append_left_inj _).mp hid
  · have hserviceEnsure := congrArg Declaration.ensure? hservice
    have hfileEnsure := congrArg Declaration.ensure? hfile
    rw [ensure?_service, ensure?_service] at hserviceEnsure
    rw [ensure?_configFile, ensure?_configFile, Option.some.injEq] at hfileEnsure
    exact Lifecycle.eq_of_ensure hserviceEnsure hfileEnsure

theorem Graph.eq_of_fields {graph other : Graph} (hmodule : graph.module = other.module)
    (hstate : graph.state = other.state) (hresources : graph.resources = other.resources)
    (hincludes : graph.includes = other.includes) : graph = other := by
  cases graph
  cases other
  dsimp only at hmodule hstate hresources hincludes
  subst hmodule hstate hresources hincludes
  rfl

theorem Graph.mem_resources_congr {graph other : Graph}
    (h : ∀ ref, graph.get? ref = other.get? ref) (decl : Declaration) :
    decl ∈ graph.resources ↔ decl ∈ other.resources := by
  have hgraph := graph.get?_eq_some_iff decl.ref decl
  have hother := other.get?_eq_some_iff decl.ref decl
  rw [h decl.ref] at hgraph
  have hiff := hgraph.symm.trans hother
  simpa using hiff

theorem Config.declarations_eq_of_get?
    (hget : ∀ ref, (config.assemble state content).get? ref =
      (config'.assemble state' content').get? ref) :
    config.declarations state content = config'.declarations state' content' := by
  refine (config.ordered_declarations state content).ext
    (config'.ordered_declarations state' content') ?_
  intro decl
  rw [← resources_assemble, ← resources_assemble]
  exact Graph.mem_resources_congr hget decl

/-- Assembled graphs that declare and include the same are equal in every
field. -/
theorem Config.assemble_ext
    (hget : ∀ ref, (config.assemble state content).get? ref =
      (config'.assemble state' content').get? ref)
    (hincludes : ∀ name, name ∈ (config.assemble state content).includes ↔
      name ∈ (config'.assemble state' content').includes) :
    config.assemble state content = config'.assemble state' content' := by
  have hresources := declarations_eq_of_get? hget
  obtain ⟨hmodule, hstate⟩ := declarations_inj hresources
  have hclass : config.text? .myClass = config'.text? .myClass := by
    apply Option.ext
    intro name
    simpa using hincludes name
  apply Graph.eq_of_fields
  · simpa using hmodule
  · simpa using hstate
  · simpa using hresources
  · simp [hclass]

end Recovery

section Compile

theorem Sources.compile_eq_ok_iff (sources : Sources) (renderer : Renderer)
    (compiled : Compiled) :
    sources.compile renderer = .ok compiled ↔
      sources.resolve = .ok compiled.config ∧
        compiled.state = compiled.config.lifecycle ∧
          compiled.config.toGraph sources.facts renderer compiled.state =
            .ok compiled.graph := by
  obtain ⟨config, state, graph⟩ := compiled
  unfold Sources.compile Sources.config
  cases hresolve : sources.resolve with
  | error invalid => simp
  | ok resolved =>
      dsimp only
      cases hgraph : resolved.toGraph sources.facts renderer resolved.lifecycle with
      | error fault =>
          constructor
          · intro h
            cases h
          · rintro ⟨hconfig, hstate, hok⟩
            cases hconfig
            rw [hstate, hgraph] at hok
            cases hok
      | ok assembled =>
          constructor
          · intro h
            cases h
            exact ⟨rfl, rfl, hgraph⟩
          · rintro ⟨hconfig, hstate, hok⟩
            cases hconfig
            rw [hstate, hgraph] at hok
            cases hok
            rw [hstate]

/-- A compiled graph is the assembled one of its module and state. -/
theorem Sources.assembled_of_compile {sources : Sources} {renderer : Renderer}
    {compiled : Compiled} (h : sources.compile renderer = .ok compiled) :
    compiled.config.module = sources.module ∧
      ∃ content, compiled.graph = compiled.config.assemble compiled.state content := by
  obtain ⟨hresolve, _, hgraph⟩ := (sources.compile_eq_ok_iff renderer compiled).mp h
  obtain ⟨_, content, _, hassembled⟩ :=
    (compiled.config.toGraph_eq_ok_iff compiled.state sources.facts renderer
      compiled.graph).mp hgraph
  exact ⟨((sources.resolve_eq_ok_iff _).mp hresolve).1, content, hassembled⟩

theorem Sources.module_state_of_get? {before after : Sources}
    {rendererBefore rendererAfter : Renderer} {old new : Compiled}
    (hold : before.compile rendererBefore = .ok old)
    (hnew : after.compile rendererAfter = .ok new)
    (hget : ∀ ref, old.graph.get? ref = new.graph.get? ref) :
    before.module = after.module ∧ old.state = new.state := by
  obtain ⟨hmoduleBefore, contentBefore, hgraphBefore⟩ := assembled_of_compile hold
  obtain ⟨hmoduleAfter, contentAfter, hgraphAfter⟩ := assembled_of_compile hnew
  simp only [hgraphBefore, hgraphAfter] at hget
  obtain ⟨hmodule, hstate⟩ :=
    Config.declarations_inj (Config.declarations_eq_of_get? hget)
  exact ⟨hmoduleBefore.symm.trans (hmodule.trans hmoduleAfter), hstate⟩

theorem Sources.compiled_of_state {sources : Sources} {renderer : Renderer}
    {state : Lifecycle}
    (h : (sources.compile renderer).toOption.map Compiled.state = some state) :
    ∃ compiled, sources.compile renderer = .ok compiled ∧ compiled.state = state := by
  obtain ⟨compiled, hcompiled, hstate⟩ := Option.map_eq_some_iff.mp h
  refine ⟨compiled, ?_, hstate⟩
  cases hok : sources.compile renderer with
  | error fault =>
      rw [hok] at hcompiled
      cases hcompiled
  | ok other =>
      rw [hok] at hcompiled
      cases hcompiled
      rfl

/-- Between compiled modules nothing is counted exactly when the graphs are equal
in every field, and another module or another state is never without a changed
declaration. -/
theorem Sources.hasChanges_compile_eq_false_iff {before after : Sources}
    {rendererBefore rendererAfter : Renderer} {old new : Compiled}
    (hold : before.compile rendererBefore = .ok old)
    (hnew : after.compile rendererAfter = .ok new) :
    ((ChangeSummary.of (old.graph.changes new.graph)
        (.between old.graph new.graph)).hasChanges = false ↔
      old.graph.module = new.graph.module ∧ old.graph.state = new.graph.state ∧
        old.graph.resources = new.graph.resources ∧
        old.graph.includes = new.graph.includes) ∧
    (before.module ≠ after.module ∨ old.state ≠ new.state →
      old.graph.changes new.graph ≠ []) := by
  constructor
  · rw [ChangeSummary.hasChanges_between_eq_false_iff]
    constructor
    · rintro ⟨hget, hincludes⟩
      obtain ⟨_, contentBefore, hgraphBefore⟩ := assembled_of_compile hold
      obtain ⟨_, contentAfter, hgraphAfter⟩ := assembled_of_compile hnew
      rw [hgraphBefore, hgraphAfter] at hget hincludes
      rw [hgraphBefore, hgraphAfter, Config.assemble_ext hget hincludes]
      exact ⟨rfl, rfl, rfl, rfl⟩
    · rintro ⟨hmodule, hstate, hresources, hincludes⟩
      rw [Graph.eq_of_fields hmodule hstate hresources hincludes]
      exact ⟨fun _ => rfl, fun _ => Iff.rfl⟩
  · intro hdifferent hnone
    have hget := (Graph.changes_eq_nil_iff _ _).mp hnone
    obtain ⟨hmodule, hstate⟩ := module_state_of_get? hold hnew hget
    rcases hdifferent with hne | hne
    · exact hne hmodule
    · exact hne hstate

/-- The removal of an installed module shows. -/
theorem Sources.changes_compile_removed :
    ∃ old new,
      (⟨"nginx", .empty, .empty⟩ : Sources).compile Renderer.none = .ok old ∧
      (⟨"nginx", .ofList [("absent", .boolean true)], .empty⟩ : Sources).compile
        Renderer.none = .ok new ∧
      old.state = .installed ∧ new.state = .absent ∧
      old.graph.changes new.graph ≠ [] := by
  have hinstalled : ((⟨"nginx", .empty, .empty⟩ : Sources).compile
      Renderer.none).toOption.map Compiled.state = some .installed := by decide +kernel
  have hremoved : ((⟨"nginx", .ofList [("absent", .boolean true)], .empty⟩ :
      Sources).compile Renderer.none).toOption.map Compiled.state = some .absent := by
    decide +kernel
  obtain ⟨old, hold, holdState⟩ := compiled_of_state hinstalled
  obtain ⟨new, hnew, hnewState⟩ := compiled_of_state hremoved
  have hne : old.state ≠ new.state := by
    rw [holdState, hnewState]
    decide
  have hchanges := (hasChanges_compile_eq_false_iff hold hnew).2 (.inr hne)
  exact ⟨old, new, hold, hnew, holdState, hnewState, hchanges⟩

end Compile
end DesiredState
