import DesiredState.Proofs.Assembly.Shape
import DesiredState.Proofs.KeyMap.Assignment

/-!
# What the declarations of a module demand

**Input.** A configuration, the state of its module, and the content of the
configuration file.

**Idea.** A list of attributes is looked up from its end. So what a declaration
says under `ensure` and `enable` is read off its list, and the kind of a
declaration tells which demand of the state stands there.

**Results.**
* `get?_ofAttributes_cons`, `get?_ofAttributes_append`: the look-up in a list of
  attributes.
* `mem_declarations_iff`: the seven declarations that a module can have.
* `demands_of_mem`: what each kind of declaration demands.
-/

namespace DesiredState

namespace Declaration

section Attributes

variable (ref : Ref) (key : String)

@[simp] theorem get?_ofAttributes_nil : (ofAttributes ref []).attributes.get? key = none :=
  rfl

@[simp] theorem get?_ofAttributes_append (front back : List (String × Option Attribute)) :
    (ofAttributes ref (front ++ back)).attributes.get? key =
      ((ofAttributes ref back).attributes.get? key).or
        ((ofAttributes ref front).attributes.get? key) := by
  simp only [ofAttributes, List.foldl_append]
  exact KeyMap.get?_foldl_insertSome _ back key

@[simp] theorem get?_ofAttributes_cons (name : String) (value : Option Attribute)
    (rest : List (String × Option Attribute)) :
    (ofAttributes ref ((name, value) :: rest)).attributes.get? key =
      ((ofAttributes ref rest).attributes.get? key).or (if key = name then value else none) := by
  have h := get?_ofAttributes_append ref key [(name, value)] rest
  rw [List.singleton_append] at h
  rw [h]
  congr 1
  simp only [ofAttributes, List.foldl_cons, List.foldl_nil]
  rw [KeyMap.get?_insertSome, KeyMap.get?_empty, Option.or_none]

end Attributes

section Demands

/-- What a declaration of each kind demands of its resource in a state. -/
def Demands (state : Lifecycle) (version : String) (decl : Declaration) : Prop :=
  match decl.kind with
  | .package =>
      decl.ensure? = some (state.packageEnsure version).text ∧
        decl.attributes.get? "enable" = none
  | .service =>
      decl.ensure? = state.serviceEnsure.map Ensure.text ∧
        decl.attributes.get? "enable" = some (.boolean state.serviceEnabled)
  | .file =>
      (decl.ensure? = some state.fileEnsure.text ∨
        decl.ensure? = some state.directoryEnsure.text) ∧
        decl.attributes.get? "enable" = none
  | .monitor => decl.attributes.get? "enable" = some (.boolean state.monitorEnabled)
  | .firewall => decl.attributes.get? "enable" = some (.boolean state.firewallEnabled)
  | .integration =>
      decl.ensure? = some state.integrationEnsure.text ∧
        decl.attributes.get? "enable" = none

end Demands

end Declaration

theorem Graph.mem_ofKind_iff (graph : Graph) (kind : Kind) (decl : Declaration) :
    decl ∈ graph.ofKind kind ↔ decl ∈ graph.resources ∧ decl.kind = kind := by
  simp [Graph.ofKind]

namespace Config

variable (config : Config) (state : Lifecycle) (content : Option FileContent)
variable {decl : Declaration}

section Files

/-- What tells whether a file is replaced is neither `ensure` nor `enable`. -/
theorem get?_fileDeclaration (id : String) (attributes : List (String × Option Attribute))
    {key : String} (hreplace : key ≠ "replace") (haudit : key ≠ "audit") :
    (config.fileDeclaration id attributes).attributes.get? key =
      (Declaration.ofAttributes ⟨.file, id⟩ attributes).attributes.get? key := by
  have happend := Declaration.get?_ofAttributes_append ⟨.file, id⟩ key attributes
    config.replaceAttributes
  refine happend.trans ?_
  rw [replaceAttributes]
  split <;> simp [hreplace, haudit]

theorem get?_contentAttributes (ref : Ref) {key : String} (hsource : key ≠ "source")
    (hcontent : key ≠ "content") :
    (Declaration.ofAttributes ref (contentAttributes content)).attributes.get? key = none := by
  rcases content with _ | (_ | _) <;> simp [contentAttributes, hsource, hcontent]

end Files

section Ensure

theorem ensure?_package :
    (config.packageDeclaration state).ensure? =
      some (state.packageEnsure (config.text .version)).text := by
  simp [packageDeclaration, Declaration.ensure?, ensureAttribute, Attribute.text?]

theorem ensure?_service :
    (config.serviceDeclaration state).ensure? = state.serviceEnsure.map Ensure.text := by
  cases h : state.serviceEnsure <;>
    simp [serviceDeclaration, Declaration.ensure?, ensureAttribute, Attribute.text?, h]

theorem ensure?_configFile :
    (config.configFileDeclaration state content).ensure? = some state.fileEnsure.text := by
  rw [Declaration.ensure?, configFileDeclaration,
    get?_fileDeclaration _ _ _ (by decide) (by decide),
    Declaration.get?_ofAttributes_append, get?_contentAttributes _ _ (by decide) (by decide)]
  simp [ensureAttribute, Attribute.text?]

theorem ensure?_configDir (h : config.configDirDeclaration? state = some decl) :
    decl.ensure? = some state.directoryEnsure.text := by
  obtain ⟨source, _, rfl⟩ := Option.map_eq_some_iff.mp h
  rw [Declaration.ensure?, get?_fileDeclaration _ _ _ (by decide) (by decide)]
  simp [ensureAttribute, Attribute.text?]

theorem ensure?_integration (h : config.integrationDeclaration? state = some decl) :
    decl.ensure? = some state.integrationEnsure.text := by
  rw [integrationDeclaration?] at h
  split at h
  · cases h
    simp [Declaration.ensure?, ensureAttribute, Attribute.text?]
  · cases h

end Ensure

section Enable

theorem enable_package : (config.packageDeclaration state).attributes.get? "enable" = none := by
  simp [packageDeclaration]

theorem enable_service :
    (config.serviceDeclaration state).attributes.get? "enable" =
      some (.boolean state.serviceEnabled) := by
  simp [serviceDeclaration]

theorem enable_configFile :
    (config.configFileDeclaration state content).attributes.get? "enable" = none := by
  rw [configFileDeclaration, get?_fileDeclaration _ _ _ (by decide) (by decide),
    Declaration.get?_ofAttributes_append, get?_contentAttributes _ _ (by decide) (by decide)]
  simp

theorem enable_configDir (h : config.configDirDeclaration? state = some decl) :
    decl.attributes.get? "enable" = none := by
  obtain ⟨source, _, rfl⟩ := Option.map_eq_some_iff.mp h
  rw [get?_fileDeclaration _ _ _ (by decide) (by decide)]
  simp

theorem enable_monitor (h : config.monitorDeclaration? state = some decl) :
    decl.attributes.get? "enable" = some (.boolean state.monitorEnabled) := by
  rw [monitorDeclaration?] at h
  split at h
  · cases h
    simp
  · cases h

theorem enable_firewall (h : config.firewallDeclaration? state = some decl) :
    decl.attributes.get? "enable" = some (.boolean state.firewallEnabled) := by
  rw [firewallDeclaration?] at h
  split at h
  · cases h
    simp
  · cases h

theorem enable_integration (h : config.integrationDeclaration? state = some decl) :
    decl.attributes.get? "enable" = none := by
  rw [integrationDeclaration?] at h
  split at h
  · cases h
    simp
  · cases h

end Enable

section Declared

/-- A module has three declarations always and four when they are asked for. -/
theorem mem_declarations_iff :
    decl ∈ config.declarations state content ↔
      decl = config.packageDeclaration state ∨ decl = config.serviceDeclaration state ∨
        decl = config.configFileDeclaration state content ∨
        config.configDirDeclaration? state = some decl ∨
        config.monitorDeclaration? state = some decl ∨
        config.firewallDeclaration? state = some decl ∨
        config.integrationDeclaration? state = some decl := by
  simp [declarations, integrationDeclarations]

/-- A declaration of a module demands what the state asks of its kind. -/
theorem demands_of_mem (h : decl ∈ config.declarations state content) :
    decl.Demands state (config.text .version) := by
  rcases (config.mem_declarations_iff state content).mp h with
    rfl | rfl | rfl | hdir | hmonitor | hfirewall | hintegration
  · exact ⟨config.ensure?_package state, config.enable_package state⟩
  · exact ⟨config.ensure?_service state, config.enable_service state⟩
  · exact ⟨.inl (config.ensure?_configFile state content), config.enable_configFile state content⟩
  · have hkind : decl.kind = .file :=
      congrArg Ref.kind (ref_of_refs (config.refs_configDir state) hdir)
    rw [Declaration.Demands, hkind]
    exact ⟨.inr (config.ensure?_configDir state hdir), config.enable_configDir state hdir⟩
  · have hkind : decl.kind = .monitor :=
      congrArg Ref.kind (ref_of_refs (config.refs_monitor state) hmonitor)
    rw [Declaration.Demands, hkind]
    exact config.enable_monitor state hmonitor
  · have hkind : decl.kind = .firewall :=
      congrArg Ref.kind (ref_of_refs (config.refs_firewall state) hfirewall)
    rw [Declaration.Demands, hkind]
    exact config.enable_firewall state hfirewall
  · have hkind : decl.kind = .integration :=
      congrArg Ref.kind (ref_of_refs (config.refs_integration state) hintegration)
    rw [Declaration.Demands, hkind]
    exact ⟨config.ensure?_integration state hintegration,
      config.enable_integration state hintegration⟩

/-- A module has a package, a service and a file in any case. -/
theorem ofKind_assemble_ne_nil {kind : Kind} (h : kind ∈ [Kind.package, .service, .file]) :
    (config.assemble state content).ofKind kind ≠ [] := by
  have hdeclared : ∃ decl ∈ config.declarations state content, decl.kind = kind := by
    simp only [List.mem_cons, List.not_mem_nil, or_false] at h
    rcases h with rfl | rfl | rfl
    · exact ⟨config.packageDeclaration state, by simp [mem_declarations_iff], rfl⟩
    · exact ⟨config.serviceDeclaration state, by simp [mem_declarations_iff], rfl⟩
    · exact ⟨config.configFileDeclaration state content, by simp [mem_declarations_iff], rfl⟩
  obtain ⟨decl, hmem, hkind⟩ := hdeclared
  have hofKind : decl ∈ (config.assemble state content).ofKind kind := by
    rw [Graph.mem_ofKind_iff, resources_assemble]
    exact ⟨hmem, hkind⟩
  exact List.ne_nil_of_mem hofKind

end Declared

end Config
end DesiredState
