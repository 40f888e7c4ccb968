import DesiredState.Proofs.Assembly.Demand
import DesiredState.Proofs.Graph.Changes

/-!
# Coherence of the demands on a module

**Input.** A graph that a configuration has in a state.

**Idea.** Each kind of declaration has a demand of its own for each state, and
the package moreover one for each version. The demands agree because a version
that removes the package is refused in every state but the absent one, and
because no version is spelled `absent` unless it removes the package. A version
can be spelled `stopped`, however, which is the word for a service that is shut
down.

**Results.**
* `ensure_of_removable`: when a package, a file or a descriptor is demanded to be
  absent, and when the word `stopped` stands there.
* `toGraph_coherent`: the demands of a graph agree with its state and with each
  other.
* `isPresent_iff_of_toGraph`: what is present in which state.
-/

namespace DesiredState

section Words

/-- Only a version that removes the package puts the word `absent`. -/
theorem Ensure.text_ofVersion_eq_absent_iff (version : String) :
    (Ensure.ofVersion version).text = "absent" ↔ Ensure.ofVersion version = .absent := by
  unfold Ensure.ofVersion
  dsimp only
  split
  · simp [Ensure.text]
  · split
    · simp [Ensure.text]
    · rename_i hkept
      have hne : Text.trim version ≠ "absent" := by
        intro hword
        simp [hword] at hkept
      simp [Ensure.text, hne]

theorem Ensure.text_ofVersion_eq_stopped_iff (version : String) :
    (Ensure.ofVersion version).text = "stopped" ↔ Text.trim version = "stopped" := by
  unfold Ensure.ofVersion
  dsimp only
  split
  · rename_i hpresent
    have hne : Text.trim version ≠ "stopped" := by
      intro hword
      simp [hword] at hpresent
    simp [Ensure.text, hne]
  · split
    · rename_i hremoved
      have hne : Text.trim version ≠ "stopped" := by
        intro hword
        simp [hword] at hremoved
      simp [Ensure.text, hne]
    · simp [Ensure.text]

end Words

section Removal

variable {config : Config} {state : Lifecycle} {content : Option FileContent}
variable {decl : Declaration}

/-- What is demanded of a package, a file or a descriptor is a word. It is `absent`
in the absent state and in no other, and it is `stopped` when the version says so. -/
theorem Config.ensure_of_removable (hversion : config.versionConflict? state = none)
    (hmem : decl ∈ config.declarations state content)
    (hkind : decl.kind = .package ∨ decl.kind = .file ∨ decl.kind = .integration) :
    ∃ ensure, decl.ensure? = some ensure ∧ (ensure = "absent" ↔ state = .absent) ∧
      (ensure = "stopped" ↔ decl.kind = .package ∧ state ≠ .absent ∧
        Text.trim (config.text .version) = "stopped") := by
  have hdemands := config.demands_of_mem state content hmem
  rcases hkind with hkind | hkind | hkind
  · simp only [Declaration.Demands, hkind] at hdemands
    refine ⟨_, hdemands.1, ?_⟩
    rw [versionConflict?_eq_none_iff] at hversion
    cases state with
    | absent => simp [Lifecycle.packageEnsure, Ensure.text]
    | installed | disabled | disabledAtBoot =>
        have hkept := hversion (by simp)
        simp [Lifecycle.packageEnsure, Ensure.text_ofVersion_eq_absent_iff,
          Ensure.text_ofVersion_eq_stopped_iff, hkept, hkind]
  · simp only [Declaration.Demands, hkind] at hdemands
    rcases hdemands.1 with hensure | hensure
    · refine ⟨_, hensure, ?_⟩
      cases state <;> simp [Lifecycle.fileEnsure, Ensure.text, hkind]
    · refine ⟨_, hensure, ?_⟩
      cases state <;> simp [Lifecycle.directoryEnsure, Ensure.text, hkind]
  · simp only [Declaration.Demands, hkind] at hdemands
    refine ⟨_, hdemands.1, ?_⟩
    cases state <;> simp [Lifecycle.integrationEnsure, Ensure.text, hkind]

end Removal

namespace Graph

/-- The demands of a graph agree with its state and with each other. -/
structure Coherent (graph : Graph) : Prop where
  declared : ∀ kind ∈ [Kind.package, .service, .file], graph.ofKind kind ≠ []
  /-- Package, files and descriptor are removed together, in the absent state. -/
  removed_iff : ∀ decl ∈ graph.resources,
    decl.kind = .package ∨ decl.kind = .file ∨ decl.kind = .integration →
      ∃ ensure, decl.ensure? = some ensure ∧ (ensure = "absent" ↔ graph.state = .absent)
  stopped_of_absent : graph.state = .absent → ∀ service ∈ graph.ofKind .service,
    service.ensure? = some "stopped" ∧ service.enable? = some false
  disabled_of_absent : graph.state = .absent → ∀ decl ∈ graph.resources, ∀ value,
    decl.attributes.get? "enable" = some value → value = .boolean false
  enabled_iff : ∀ service ∈ graph.ofKind .service, ∃ enabled,
    service.enable? = some enabled ∧ (enabled = true ↔ service.ensure? = some "running")
  monitored_iff : ∀ service ∈ graph.ofKind .service, ∀ monitor ∈ graph.ofKind .monitor,
    ∃ enabled, monitor.enable? = some enabled ∧
      (enabled = true ↔ service.ensure? = some "running")
  allowed_iff : ∀ service ∈ graph.ofKind .service, ∀ firewall ∈ graph.ofKind .firewall,
    ∃ enabled, firewall.enable? = some enabled ∧
      (enabled = true ↔ service.ensure? ≠ some "stopped")
  not_stopped_of_installed : graph.state = .installed → ∀ service ∈ graph.ofKind .service,
    service.ensure? ≠ some "stopped"

end Graph

section Words

variable (state : Lifecycle)

theorem Lifecycle.serviceEnabled_iff :
    state.serviceEnabled = true ↔ state.serviceEnsure.map Ensure.text = some "running" := by
  cases state <;> simp [serviceEnabled, serviceEnsure, Ensure.text]

theorem Lifecycle.monitorEnabled_iff :
    state.monitorEnabled = true ↔ state.serviceEnsure.map Ensure.text = some "running" := by
  cases state <;> simp [monitorEnabled, serviceEnsure, Ensure.text]

theorem Lifecycle.firewallEnabled_iff :
    state.firewallEnabled = true ↔ state.serviceEnsure.map Ensure.text ≠ some "stopped" := by
  cases state <;> simp [firewallEnabled, serviceEnsure, Ensure.text]

end Words

namespace Config

variable {config : Config} {state : Lifecycle} {content : Option FileContent}
variable {decl : Declaration}

section Kinds

theorem demands_of_mem_ofKind {kind : Kind}
    (h : decl ∈ (config.assemble state content).ofKind kind) :
    decl.kind = kind ∧ decl.Demands state (config.text .version) := by
  rw [Graph.mem_ofKind_iff, resources_assemble] at h
  exact ⟨h.2, config.demands_of_mem state content h.1⟩

theorem service_of_mem (h : decl ∈ (config.assemble state content).ofKind .service) :
    decl.ensure? = state.serviceEnsure.map Ensure.text ∧
      decl.enable? = some state.serviceEnabled := by
  obtain ⟨hkind, hdemands⟩ := demands_of_mem_ofKind h
  simp only [Declaration.Demands, hkind] at hdemands
  refine ⟨hdemands.1, ?_⟩
  rw [Declaration.enable?, hdemands.2]
  rfl

theorem monitor_of_mem (h : decl ∈ (config.assemble state content).ofKind .monitor) :
    decl.enable? = some state.monitorEnabled := by
  obtain ⟨hkind, hdemands⟩ := demands_of_mem_ofKind h
  simp only [Declaration.Demands, hkind] at hdemands
  rw [Declaration.enable?, hdemands]
  rfl

theorem firewall_of_mem (h : decl ∈ (config.assemble state content).ofKind .firewall) :
    decl.enable? = some state.firewallEnabled := by
  obtain ⟨hkind, hdemands⟩ := demands_of_mem_ofKind h
  simp only [Declaration.Demands, hkind] at hdemands
  rw [Declaration.enable?, hdemands]
  rfl

/-- In the absent state nothing that can be enabled is. -/
theorem disabled_of_demands {version : String} {value : Attribute}
    (h : decl.Demands .absent version) (hvalue : decl.attributes.get? "enable" = some value) :
    value = .boolean false := by
  cases hkind : decl.kind with
  | package | file | integration =>
      simp [Declaration.Demands, hkind, hvalue] at h
  | service =>
      simp only [Declaration.Demands, hkind, hvalue, Option.some.injEq] at h
      exact h.2
  | monitor | firewall =>
      simp only [Declaration.Demands, hkind, hvalue, Option.some.injEq] at h
      exact h

end Kinds

section Coherence

theorem coherent_assemble (hversion : config.versionConflict? state = none) :
    (config.assemble state content).Coherent where
  declared _ hkind := config.ofKind_assemble_ne_nil state content hkind
  removed_iff := by
    intro decl hmem hkind
    rw [resources_assemble] at hmem
    obtain ⟨ensure, hensure, hremoved, _⟩ := ensure_of_removable hversion hmem hkind
    rw [state_assemble]
    exact ⟨ensure, hensure, hremoved⟩
  stopped_of_absent := by
    intro hstate service hservice
    rw [state_assemble] at hstate
    subst hstate
    exact service_of_mem hservice
  disabled_of_absent := by
    intro hstate decl hmem value hvalue
    rw [state_assemble] at hstate
    rw [resources_assemble] at hmem
    subst hstate
    exact disabled_of_demands (config.demands_of_mem _ content hmem) hvalue
  enabled_iff := by
    intro service hservice
    obtain ⟨hensure, henable⟩ := service_of_mem hservice
    rw [hensure]
    exact ⟨_, henable, state.serviceEnabled_iff⟩
  monitored_iff := by
    intro service hservice monitor hmonitor
    rw [(service_of_mem hservice).1]
    exact ⟨_, monitor_of_mem hmonitor, state.monitorEnabled_iff⟩
  allowed_iff := by
    intro service hservice firewall hfirewall
    rw [(service_of_mem hservice).1]
    exact ⟨_, firewall_of_mem hfirewall, state.firewallEnabled_iff⟩
  not_stopped_of_installed := by
    intro hstate service hservice
    rw [state_assemble] at hstate
    subst hstate
    rw [(service_of_mem hservice).1]
    simp [Lifecycle.serviceEnsure, Ensure.text]

/-- Whatever the options hold, the graph of a configuration in a state is of that
state, and its demands agree with the state and with each other. -/
theorem toGraph_coherent {facts : KeyMap RawValue} {renderer : Renderer} {graph : Graph}
    (h : config.toGraph facts renderer state = .ok graph) :
    graph.state = state ∧ graph.Coherent := by
  obtain ⟨hversion, content, _, rfl⟩ :=
    (config.toGraph_eq_ok_iff state facts renderer graph).mp h
  exact ⟨config.state_assemble state content, coherent_assemble hversion⟩

/-- A module with every part, whose version removes its package. -/
def dismantled : Sources :=
  { module := "nginx"
    params := .ofList [("firewall", .boolean true), ("monitor", .text "yes"),
      ("puppi", .boolean true), ("source_dir", .text "/srv/nginx"),
      ("version", .text " purged ")]
    facts := .empty }

theorem toGraph_dismantled_coherent :
    ∃ config graph, dismantled.resolve = .ok config ∧
      config.toGraph dismantled.facts Renderer.none .absent = .ok graph ∧
      graph.size = 7 ∧ graph.state = .absent ∧ graph.Coherent := by
  have hbuilds : dismantled.builds Renderer.none .absent
      (fun _ graph => graph.size = 7) = true := by decide +kernel
  obtain ⟨config, graph, hconfig, hgraph, hsize⟩ := Sources.exists_of_builds hbuilds
  have ⟨hstate, hcoherent⟩ := toGraph_coherent hgraph
  exact ⟨config, graph, hconfig, hgraph, by simpa using hsize, hstate, hcoherent⟩

end Coherence

section Presence

theorem isPresent_iff_of_ensure {ensure : String} (h : decl.ensure? = some ensure) :
    decl.isPresent = true ↔ ensure ≠ "absent" ∧ ensure ≠ "stopped" := by
  rw [Declaration.isPresent, h]
  dsimp only
  rw [Bool.and_eq_true, decide_eq_true_eq, decide_eq_true_eq]
  exact Iff.rfl

/-- A package, a file or a descriptor is present in every state but the absent
one, except for a package whose version is the word `stopped`. -/
theorem isPresent_iff_of_toGraph {facts : KeyMap RawValue} {renderer : Renderer}
    {graph : Graph} (h : config.toGraph facts renderer state = .ok graph)
    (hmem : decl ∈ graph.resources)
    (hkind : decl.kind = .package ∨ decl.kind = .file ∨ decl.kind = .integration) :
    decl.isPresent = true ↔
      state ≠ .absent ∧
        ¬ (decl.kind = .package ∧ Text.trim (config.text .version) = "stopped") := by
  obtain ⟨hversion, content, _, rfl⟩ :=
    (config.toGraph_eq_ok_iff state facts renderer graph).mp h
  rw [resources_assemble] at hmem
  obtain ⟨ensure, hensure, hremoved, hstopped⟩ := ensure_of_removable hversion hmem hkind
  rw [isPresent_iff_of_ensure hensure]
  constructor
  · rintro ⟨hnotRemoved, hnotStopped⟩
    have hstate : state ≠ .absent := fun hstate => hnotRemoved (hremoved.mpr hstate)
    refine ⟨hstate, ?_⟩
    rintro ⟨hpackage, hword⟩
    exact hnotStopped (hstopped.mpr ⟨hpackage, hstate, hword⟩)
  · rintro ⟨hstate, hword⟩
    refine ⟨fun h => hstate (hremoved.mp h), ?_⟩
    intro h
    obtain ⟨hpackage, _, htrim⟩ := hstopped.mp h
    exact hword ⟨hpackage, htrim⟩

/-- A module of a version. -/
def versioned (version : String) : Sources :=
  { module := "nginx", params := .ofList [("version", .text version)], facts := .empty }

theorem isPresent_version_number :
    ∃ config graph decl, (versioned "1.24.0").resolve = .ok config ∧
      config.toGraph .empty Renderer.none .disabled = .ok graph ∧
      decl ∈ graph.resources ∧ decl.kind = .package ∧ decl.isPresent = true := by
  have hbuilds : (versioned "1.24.0").builds Renderer.none .disabled (fun config graph =>
      (graph.get? ⟨.package, "nginx"⟩).isSome &&
        Text.trim (config.text .version) ≠ "stopped") = true := by
    decide +kernel
  obtain ⟨config, graph, hconfig, hgraph, htest⟩ := Sources.exists_of_builds hbuilds
  rw [Bool.and_eq_true, Option.isSome_iff_exists, decide_eq_true_eq] at htest
  obtain ⟨⟨decl, hget⟩, hversion⟩ := htest
  obtain ⟨hmem, href⟩ := (graph.get?_eq_some_iff _ _).mp hget
  have hkind : decl.kind = .package := congrArg Ref.kind href
  refine ⟨config, graph, decl, hconfig, hgraph, hmem, hkind, ?_⟩
  refine (isPresent_iff_of_toGraph hgraph hmem (.inl hkind)).mpr ⟨by decide, ?_⟩
  rintro ⟨_, hstopped⟩
  exact hversion hstopped

/-- The package of an installed module counts as missing when its version is the
word for a service that is shut down. -/
theorem isPresent_version_stopped :
    ∃ config graph decl, (versioned "stopped").resolve = .ok config ∧
      config.lifecycle = .installed ∧
      config.toGraph .empty Renderer.none .installed = .ok graph ∧
      decl ∈ graph.resources ∧ decl.kind = .package ∧ decl.isPresent = false := by
  have hbuilds : (versioned "stopped").builds Renderer.none .installed (fun config graph =>
      config.lifecycle = .installed &&
        (graph.get? ⟨.package, "nginx"⟩).any fun decl => !decl.isPresent) = true := by
    decide +kernel
  obtain ⟨config, graph, hconfig, hgraph, htest⟩ := Sources.exists_of_builds hbuilds
  rw [Bool.and_eq_true, decide_eq_true_eq, Option.any_eq_true] at htest
  obtain ⟨hstate, decl, hget, habsent⟩ := htest
  obtain ⟨hmem, href⟩ := (graph.get?_eq_some_iff _ _).mp hget
  exact ⟨config, graph, decl, hconfig, hstate, hgraph, hmem, congrArg Ref.kind href,
    by simpa using habsent⟩

end Presence

end Config
end DesiredState
