import DesiredState.Proofs.Precedence

/-!
# Isolation of the names

**Input.** The sources of a module, in which one parameter or one fact is set to
another value, added or removed.

**Idea.** An option reads one parameter and at most three facts: the variable of
its module, the bare one, and the fact that its default copies. No name of an
option ends in an underscore and the name of an option, so that the name of a
fact tells for which option of which module it is read, whatever the module is
called.

**Results.**
* `moduleKey_inj`, `moduleKey_ne_name`: the names of the facts do not collide.
* `entry_of_held`: an entry depends on what the layers hold for its option.
* `keys_isolated`: one name reaches the entry of one option, and the copied fact
  those of the two options that copy it.
-/

namespace DesiredState
namespace Sources

section Defs

/-- The sources with another parameter under a name, or with none there. -/
def withParam (sources : Sources) (key : String) (value : Option RawValue) : Sources :=
  { sources with params := sources.params.assign key value }

/-- The sources with another fact under a name, or with none there. -/
def withFact (sources : Sources) (key : String) (value : Option RawValue) : Sources :=
  { sources with facts := sources.facts.assign key value }

/-- The value, the layer or the error of an option is not the same. -/
def Reaches (sources other : Sources) (option : OptionName) : Prop :=
  other.entry option ≠ sources.entry option

/-- A parameter reaches the option of its name, if there is one. -/
structure ParamIsolated (sources : Sources) (key : String) (value : Option RawValue) :
    Prop where
  own : ∀ option, sources.Reaches (sources.withParam key value) option → option.name = key
  unknown : OptionName.isKnown key = false →
    ∀ option, ¬ sources.Reaches (sources.withParam key value) option

/-- A fact belongs to an option of a module: as the variable of the module, as the
bare one, or as the address of the node, which two options copy. -/
def Belongs (module : String) (option : OptionName) (key : String) : Prop :=
  key = moduleKey module option.name ∨ key = option.name ∨
    key = "ipaddress" ∧ (option = .monitorTarget ∨ option = .firewallDst)

/-- A fact reaches the options that it belongs to: one only, unless it is the
address of the node, and none when it is the variable of another module. -/
structure FactIsolated (sources : Sources) (key : String) (value : Option RawValue) :
    Prop where
  own : ∀ option, sources.Reaches (sources.withFact key value) option →
    Belongs sources.module option key
  copied : key = "ipaddress" → ∀ option,
    sources.Reaches (sources.withFact key value) option →
      option = .monitorTarget ∨ option = .firewallDst
  unique : key ≠ "ipaddress" → ∀ option option',
    sources.Reaches (sources.withFact key value) option →
    sources.Reaches (sources.withFact key value) option' → option = option'
  foreign : ∀ (module : String) (option' : OptionName), module ≠ sources.module →
    key = moduleKey module option'.name →
      ∀ option, ¬ sources.Reaches (sources.withFact key value) option

end Defs

section Names

theorem not_suffix_name (option option' : OptionName) :
    ¬ ('_' :: option'.name.toList) <:+ option.name.toList := by
  have htable : ∀ option ∈ OptionName.all, ∀ option' ∈ OptionName.all,
      ¬ ('_' :: option'.name.toList) <:+ option.name.toList := by
    decide +kernel
  exact htable option (OptionName.mem_all option) option' (OptionName.mem_all option')

theorem toList_moduleKey (module option : String) :
    (moduleKey module option).toList = module.toList ++ '_' :: option.toList := by
  simp [moduleKey]

theorem moduleKey_ne_name (module : String) (option option' : OptionName) :
    moduleKey module option.name ≠ option'.name := by
  intro h
  refine not_suffix_name option' option ⟨module.toList, ?_⟩
  rw [← toList_moduleKey, h]

/-- Between two underscores that may end the module there is no text: what
stands behind the first one would be a name with a name at its end. -/
theorem boundary_eq_nil {option option' : OptionName} {between : List Char}
    (h : '_' :: option.name.toList = between ++ '_' :: option'.name.toList) :
    between = [] := by
  cases between with
  | nil => rfl
  | cons c rest =>
      rw [List.cons_append, List.cons.injEq] at h
      exact absurd ⟨rest, h.2.symm⟩ (not_suffix_name option option')

theorem toList_inj_of_boundary {module module' : String} {option option' : OptionName}
    {between : List Char} (hmodule : module'.toList = module.toList ++ between)
    (hrest : '_' :: option.name.toList = between ++ '_' :: option'.name.toList) :
    module = module' ∧ option = option' := by
  obtain rfl := boundary_eq_nil hrest
  rw [List.append_nil] at hmodule
  rw [List.nil_append, List.cons.injEq] at hrest
  exact ⟨String.toList_inj.mp hmodule.symm,
    OptionName.name_injective (String.toList_inj.mp hrest.2)⟩

/-- The name of a fact tells the module and the option. -/
theorem moduleKey_inj {module module' : String} {option option' : OptionName}
    (h : moduleKey module option.name = moduleKey module' option'.name) :
    module = module' ∧ option = option' := by
  have hchars := congrArg String.toList h
  rw [toList_moduleKey, toList_moduleKey] at hchars
  rcases List.append_eq_append_iff.mp hchars with
    ⟨between, hmodule, hrest⟩ | ⟨between, hmodule, hrest⟩
  · exact toList_inj_of_boundary hmodule hrest
  · obtain ⟨hmodule, hoption⟩ := toList_inj_of_boundary hmodule hrest
    exact ⟨hmodule.symm, hoption.symm⟩

variable {module : String} {option option' : OptionName} {key : String}

theorem Belongs.copies (h : Belongs module option "ipaddress") :
    option = .monitorTarget ∨ option = .firewallDst := by
  rcases h with hkey | hkey | ⟨_, hoption⟩
  · exact absurd hkey.symm (moduleKey_ne_copied _ _)
  · exact absurd hkey.symm (name_ne_copied option)
  · exact hoption

/-- Only the copied fact belongs to more than one option. -/
theorem Belongs.unique (h : Belongs module option key) (h' : Belongs module option' key)
    (hne : key ≠ "ipaddress") : option = option' := by
  rcases h with rfl | rfl | ⟨hcopied, _⟩
  · rcases h' with hkey | hkey | ⟨hcopied, _⟩
    · exact (moduleKey_inj hkey).2
    · exact absurd hkey (moduleKey_ne_name _ _ _)
    · exact absurd hcopied hne
  · rcases h' with hkey | hkey | ⟨hcopied, _⟩
    · exact absurd hkey.symm (moduleKey_ne_name _ _ _)
    · exact OptionName.name_injective hkey
    · exact absurd hcopied hne
  · exact absurd hcopied hne

theorem Belongs.module_eq {module' : String}
    (h : Belongs module option (moduleKey module' option'.name)) : module' = module := by
  rcases h with hkey | hkey | ⟨hcopied, _⟩
  · exact (moduleKey_inj hkey).1
  · exact absurd hkey (moduleKey_ne_name _ _ _)
  · exact absurd hcopied (moduleKey_ne_copied _ _)

end Names

section Footprint

variable {sources other : Sources} {option : OptionName}

/-- What the layers hold for an option decides its entry, also when the value is
rejected. -/
theorem entry_of_held (h : ∀ layer, other.held option layer = sources.held option layer) :
    other.entry option = sources.entry option := by
  have hlayer : (other.lookup option).layer = (sources.lookup option).layer := by
    refine (wins_iff other option _).mp ?_
    exact (sources.lookup_layer_wins option).of_agree fun upper _ => h upper
  have hraw : (other.lookup option).raw = (sources.lookup option).raw := by
    rw [lookup_raw, lookup_raw, hlayer, h]
  exact entry_of_lookup hlayer (congrArg option.kind.normalize hraw)

theorem copies_iff (option : OptionName) :
    (∃ name, option.spec.default = .fact name) ↔
      option = .monitorTarget ∨ option = .firewallDst := by
  cases option <;> simp [OptionName.spec]

/-- A parameter under another name is not read. -/
theorem entry_withParam {key : String} (value : Option RawValue) (h : option.name ≠ key) :
    (sources.withParam key value).entry option = sources.entry option := by
  refine entry_of_held fun layer => ?_
  cases layer with
  | passed => exact (KeyMap.get?_assign _ _ _ _).trans (if_neg h)
  | moduleScope | topScope | builtIn => rfl

/-- A fact that does not belong to an option is not read for it. -/
theorem entry_withFact {key : String} (value : Option RawValue)
    (h : ¬ Belongs sources.module option key) :
    (sources.withFact key value).entry option = sources.entry option := by
  rw [Belongs, not_or, not_or] at h
  obtain ⟨hmodule, hbare, hcopied⟩ := h
  refine entry_of_held fun layer => ?_
  cases layer with
  | passed => rfl
  | moduleScope => exact (KeyMap.get?_assign _ _ _ _).trans (if_neg (Ne.symm hmodule))
  | topScope => exact (KeyMap.get?_assign _ _ _ _).trans (if_neg (Ne.symm hbare))
  | builtIn =>
      -- Only a default that copies a fact looks at the facts.
      cases hdefault : option.spec.default with
      | unset | switch | text => simp [held, hdefault, OptionDefault.toRaw?, withFact]
      | fact name =>
          have hname : name ≠ key := by
            intro heq
            refine hcopied ⟨heq.symm.trans (copied_fact hdefault), ?_⟩
            exact (copies_iff option).mp ⟨name, hdefault⟩
          simp only [held, hdefault, OptionDefault.toRaw?, withFact]
          rw [KeyMap.get?_assign, if_neg hname]

end Footprint

section Isolation

variable (sources : Sources) (key : String) (value : Option RawValue)

theorem paramIsolated : sources.ParamIsolated key value := by
  have hown : ∀ option, sources.Reaches (sources.withParam key value) option →
      option.name = key := by
    intro option hreaches
    by_contra hne
    exact hreaches (entry_withParam value hne)
  refine ⟨hown, ?_⟩
  intro hunknown option hreaches
  rw [← hown option hreaches, OptionName.isKnown, OptionName.ofName?_name] at hunknown
  cases hunknown

theorem factIsolated : sources.FactIsolated key value := by
  have hown : ∀ option, sources.Reaches (sources.withFact key value) option →
      Belongs sources.module option key := by
    intro option hreaches
    by_contra hnot
    exact hreaches (entry_withFact value hnot)
  refine ⟨hown, ?_, ?_, ?_⟩
  · rintro rfl option hreaches
    exact (hown option hreaches).copies
  · intro hne option option' hreaches hreaches'
    exact (hown option hreaches).unique (hown option' hreaches') hne
  · rintro module option' hmodule rfl option hreaches
    exact hmodule (hown option hreaches).module_eq

/-- The name of a fact that holds an option for a module belongs to no other
module or option, is the bare name of no option and not that of the copied fact.
So a change of one parameter or one fact reaches the option that its name
belongs to and no other one. -/
theorem keys_isolated :
    (∀ (module module' : String) (option option' : OptionName),
      moduleKey module option.name = moduleKey module' option'.name →
        module = module' ∧ option = option') ∧
    (∀ (module : String) (option option' : OptionName),
      moduleKey module option.name ≠ option'.name ∧
        moduleKey module option.name ≠ "ipaddress") ∧
    (∀ (sources : Sources) (key : String) (value : Option RawValue),
      sources.ParamIsolated key value ∧ sources.FactIsolated key value) := by
  refine ⟨?_, ?_, ?_⟩
  · intro module module' option option' h
    exact moduleKey_inj h
  · intro module option option'
    exact ⟨moduleKey_ne_name module option option', moduleKey_ne_copied module option.name⟩
  · intro sources key value
    exact ⟨sources.paramIsolated key value, sources.factIsolated key value⟩

/-- A variable reaches its own module and no other one. -/
example :
    (⟨"nginx", .empty, .empty⟩ : Sources).Reaches
        (withFact ⟨"nginx", .empty, .empty⟩ "nginx_port" (some (.integer 42))) .port ∧
      ¬ (⟨"nginx", .empty, .empty⟩ : Sources).Reaches
        (withFact ⟨"nginx", .empty, .empty⟩ "apache_port" (some (.integer 42))) .port := by
  unfold Reaches
  decide +kernel

end Isolation

end Sources
end DesiredState
