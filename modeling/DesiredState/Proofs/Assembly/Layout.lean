import DesiredState.Proofs.Assembly.Demand
import DesiredState.Proofs.Graph.Changes
import Mathlib.Logic.Relation

/-!
# The layout of a module's graph

**Input.** A graph that a configuration has in a state.

**Idea.** Every declaration is put behind those of the earlier slots, so the graph
never has one about its resource already. Only files notify, and all they
notify is the service, which does not notify in turn.

**Results.**
* `get?_pushed`: declarations of distinct resources never take each other's place.
* `edges_assemble`: the notifications of a module, one for each file.
* `toGraph_laidOut`: the layout of every graph that a configuration has.
-/

namespace DesiredState

namespace Graph

variable {graph : Graph}

section Pushes

theorem get?_eq_none_iff (ref : Ref) :
    graph.get? ref = none ↔ ref ∉ graph.resources.map Declaration.ref := by
  simp [Graph.get?]

/-- Among declarations of distinct resources none finds its place taken. -/
theorem get?_pushed (module : String) (state : Lifecycle) {pushed later : List Declaration}
    {decl : Declaration} (h : ((pushed ++ decl :: later).map Declaration.ref).Nodup) :
    (pushed.foldl Graph.push (Graph.new module state)).get? decl.ref = none := by
  rw [List.map_append, List.map_cons, List.nodup_append] at h
  obtain ⟨hpushed, _, hapart⟩ := h
  have hresources : (pushed.foldl Graph.push (Graph.new module state)).resources = pushed :=
    (Graph.new module state).resources_foldl_push pushed hpushed
  rw [get?_eq_none_iff, hresources]
  intro hmem
  exact hapart decl.ref hmem decl.ref List.mem_cons_self rfl

theorem map_ref_ofKind (kind : Kind) :
    (graph.ofKind kind).map Declaration.ref =
      (graph.resources.map Declaration.ref).filter fun ref => ref.kind = kind := by
  rw [List.filter_map]
  rfl

end Pushes

section Notifications

/-- A resource of the graph notifies another. -/
def Notifies (graph : Graph) (source target : Ref) : Prop :=
  ⟨source, target⟩ ∈ graph.edges

/-- Where no notification goes on from the end of another, no resource notifies
itself, not even through others. -/
theorem not_transGen_notifies
    (h : ∀ edge ∈ graph.edges, ∀ next ∈ graph.edges, edge.target ≠ next.source) (ref : Ref) :
    ¬ Relation.TransGen graph.Notifies ref ref := by
  intro hcycle
  obtain ⟨target, hleave, _⟩ := Relation.TransGen.head'_iff.mp hcycle
  obtain ⟨source, _, hreach⟩ := Relation.TransGen.tail'_iff.mp hcycle
  exact h ⟨source, ref⟩ hreach ⟨ref, target⟩ hleave rfl

/-- The edges of a graph in which the declarations of one kind notify one resource
and all others notify none. -/
theorem edges_of_notifies {kind : Kind} {target : Ref}
    (h : ∀ decl ∈ graph.resources,
      decl.notifies = if decl.kind = kind then some target else none) :
    graph.edges = (graph.ofKind kind).map fun decl => ⟨decl.ref, target⟩ := by
  rw [edges, ofKind, ← List.filterMap_eq_map, List.filterMap_filter]
  refine List.filterMap_congr ?_
  intro decl hmem
  rw [h decl hmem]
  by_cases hkind : decl.kind = kind <;> simp [hkind]

end Notifications

end Graph

namespace Config

variable (config : Config) (state : Lifecycle) (content : Option FileContent)

section Edges

/-- The resource that a declaration of a kind notifies. -/
def notified? (kind : Kind) : Option Ref :=
  if kind = .file ∧ config.switch .serviceAutorestart ≠ .off then some config.serviceRef
  else none

theorem notifies_fileDeclaration (id : String)
    (attributes : List (String × Option Attribute)) :
    (config.fileDeclaration id attributes).notifies = config.notified? .file := by
  by_cases h : config.switch .serviceAutorestart = .off <;>
    simp [fileDeclaration, notified?, h]

/-- Files notify the service unless its restart is switched off. Nothing else
notifies. -/
theorem notifies_of_mem {decl : Declaration} (h : decl ∈ config.declarations state content) :
    decl.notifies = config.notified? decl.kind := by
  rcases (config.mem_declarations_iff state content).mp h with
    rfl | rfl | rfl | hdir | hmonitor | hfirewall | hintegration
  · rfl
  · rfl
  · exact config.notifies_fileDeclaration _ _
  · obtain ⟨source, _, rfl⟩ := Option.map_eq_some_iff.mp hdir
    exact config.notifies_fileDeclaration _ _
  · rw [monitorDeclaration?] at hmonitor
    split at hmonitor <;> cases hmonitor
    rfl
  · rw [firewallDeclaration?] at hfirewall
    split at hfirewall <;> cases hfirewall
    rfl
  · rw [integrationDeclaration?] at hintegration
    split at hintegration <;> cases hintegration
    rfl

theorem edges_assemble :
    (config.assemble state content).edges =
      if config.switch .serviceAutorestart = .off then []
      else ((config.assemble state content).ofKind .file).map fun file =>
        ⟨file.ref, config.serviceRef⟩ := by
  have hnotifies : ∀ decl ∈ (config.assemble state content).resources,
      decl.notifies = config.notified? decl.kind := by
    intro decl hmem
    rw [resources_assemble] at hmem
    exact config.notifies_of_mem state content hmem
  split
  · rename_i hoff
    refine List.filterMap_eq_nil_iff.mpr ?_
    intro decl hmem
    simp [hnotifies decl hmem, notified?, hoff]
  · rename_i hon
    refine Graph.edges_of_notifies ?_
    intro decl hmem
    simp [hnotifies decl hmem, notified?, hon]

theorem services_assemble :
    ((config.assemble state content).ofKind .service).map Declaration.ref =
      [config.serviceRef] := by
  rw [Graph.map_ref_ofKind, resources_assemble, map_ref_declarations]
  simp [refs, serviceRef, List.filter_append, apply_ite (List.filter _)]

/-- The ends of a notification are a file and the service of the graph. -/
theorem ends_of_mem_edges {edge : Edge} (hedge : edge ∈ (config.assemble state content).edges) :
    (∃ file ∈ (config.assemble state content).ofKind .file, file.ref = edge.source) ∧
      ∃ service ∈ (config.assemble state content).ofKind .service,
        service.ref = edge.target := by
  rw [edges_assemble] at hedge
  split at hedge
  · cases hedge
  · obtain ⟨file, hfile, rfl⟩ := List.mem_map.mp hedge
    have htarget : config.serviceRef ∈
        ((config.assemble state content).ofKind .service).map Declaration.ref := by
      rw [services_assemble]
      exact List.mem_singleton_self _
    exact ⟨⟨file, hfile, rfl⟩, List.mem_map.mp htarget⟩

end Edges

section Layout

/-- The layout of a graph: its resources, none of which took the place of another,
the classes it includes, and its notifications. -/
structure LaidOut (graph : Graph) : Prop where
  refs_eq : graph.resources.map Declaration.ref = config.refs
  nodup_refs : config.refs.Nodup
  fresh : ∀ pushed decl later,
    config.declarations state content = pushed ++ decl :: later →
      (pushed.foldl Graph.push (Graph.new config.module state)).get? decl.ref = none
  includes_eq : graph.includes = (config.text? .myClass).toList
  services_eq : (graph.ofKind .service).map Declaration.ref = [config.serviceRef]
  edges_eq_nil_iff : graph.edges = [] ↔ config.switch .serviceAutorestart = .off
  edges_eq : config.switch .serviceAutorestart ≠ .off →
    graph.edges = (graph.ofKind .file).map fun file => ⟨file.ref, config.serviceRef⟩
  edges_closed : ∀ edge ∈ graph.edges,
    (∃ file ∈ graph.ofKind .file, file.ref = edge.source) ∧
      ∃ service ∈ graph.ofKind .service, service.ref = edge.target
  acyclic : ∀ ref, ¬ Relation.TransGen graph.Notifies ref ref

theorem laidOut_assemble : config.LaidOut state content (config.assemble state content) where
  refs_eq := by rw [resources_assemble, map_ref_declarations]
  nodup_refs := by
    rw [← config.map_ref_declarations state content]
    exact (config.ordered_declarations state content).nodup_refs
  fresh := by
    intro pushed decl later hsplit
    have hnodup := (config.ordered_declarations state content).nodup_refs
    rw [hsplit] at hnodup
    exact Graph.get?_pushed config.module state hnodup
  includes_eq := config.includes_assemble state content
  services_eq := config.services_assemble state content
  edges_eq_nil_iff := by
    rw [edges_assemble]
    split
    · rename_i hoff
      simp [hoff]
    · rename_i hon
      simp [hon, config.ofKind_assemble_ne_nil state content]
  edges_eq := by
    intro hon
    rw [edges_assemble, if_neg hon]
  edges_closed := by
    intro edge hedge
    exact config.ends_of_mem_edges state content hedge
  acyclic := by
    refine Graph.not_transGen_notifies ?_
    intro edge hedge next hnext heq
    -- What is notified is a service, and what notifies is a file.
    obtain ⟨_, service, hservice, htarget⟩ := config.ends_of_mem_edges state content hedge
    obtain ⟨⟨file, hfile, hsource⟩, _⟩ := config.ends_of_mem_edges state content hnext
    have hsame : service.kind = file.kind :=
      congrArg Ref.kind (htarget.trans (heq.trans hsource.symm))
    rw [((Graph.mem_ofKind_iff _ _ _).mp hservice).2, ((Graph.mem_ofKind_iff _ _ _).mp hfile).2]
      at hsame
    cases hsame

/-- Every graph that a configuration has is laid out by it. -/
theorem toGraph_laidOut {config : Config} {state : Lifecycle} {facts : KeyMap RawValue}
    {renderer : Renderer} {graph : Graph}
    (h : config.toGraph facts renderer state = .ok graph) :
    ∃ content, config.fileContent facts renderer = .ok content ∧
      graph = config.assemble state content ∧ config.LaidOut state content graph := by
  obtain ⟨_, content, hcontent, rfl⟩ :=
    (config.toGraph_eq_ok_iff state facts renderer graph).mp h
  exact ⟨content, hcontent, rfl, config.laidOut_assemble state content⟩

/-- A module with every part, whose package and service are named like others of
its resources. -/
def equipped : Sources :=
  { module := "web"
    params := .ofList [("firewall", .boolean true), ("monitor", .text "yes"),
      ("my_class", .text "site"), ("package", .text "web.conf"), ("puppi", .boolean true),
      ("service", .text "web_process"), ("source_dir", .text "/srv/web")]
    facts := .empty }

theorem toGraph_equipped_laidOut :
    ∃ config content graph, equipped.resolve = .ok config ∧
      config.toGraph equipped.facts Renderer.none .installed = .ok graph ∧
      graph.size = 7 ∧ graph.edges.length = 2 ∧ config.LaidOut .installed content graph := by
  have hbuilds : equipped.builds Renderer.none .installed
      (fun _ graph => graph.size = 7 ∧ graph.edges.length = 2) = true := by decide +kernel
  obtain ⟨config, graph, hconfig, hgraph, htest⟩ := Sources.exists_of_builds hbuilds
  obtain ⟨hsize, hedges⟩ := of_decide_eq_true htest
  obtain ⟨content, _, _, hlaid⟩ := toGraph_laidOut hgraph
  exact ⟨config, content, graph, hconfig, hgraph, hsize, hedges, hlaid⟩

end Layout

end Config
end DesiredState
