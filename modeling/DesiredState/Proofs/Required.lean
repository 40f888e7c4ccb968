import DesiredState.Proofs.Assembly.Layout
import DesiredState.Proofs.Entries

/-!
# Options with a default text

**Input.** The sources of a module, from which a configuration is resolved.

**Idea.** What a layer supplies is not blank, and the text of a value that is not blank
is not blank either. So an option with a default text is set, unless it is left to its
default and that is blank. A default text is blank when all of its pieces are, and three
options have no other piece than the name of the module.

**Results.**
* `isBlankText_join`, `isBlankText_default_iff`: the default texts that are blank.
* `text?_eq_none_iff_nameless`: an option with a default text is unset only where that
  is a blank name.
* `text_required`: what the options with a default text hold, and which packages and
  services have a blank name.
* `text_of_blank_module`: a module without a name, whose package has none either.
-/

namespace DesiredState

section Defs

/-- The options that every module has a text for: the empty text stands for them where
they are unset. -/
def OptionName.required : List OptionName :=
  [.version, .package, .service, .process, .configFile, .configDir, .configFileMode,
    .configFileOwner, .configFileGroup, .protocol, .port]

/-- The options whose default is the name of the module. -/
def OptionName.named : List OptionName :=
  [.package, .service, .process]

/-- The option is left to the name of its module, which is blank. -/
structure Sources.Nameless (sources : Sources) (option : OptionName) : Prop where
  named : option ∈ OptionName.named
  blank : Text.isBlankText sources.module = true
  defaulted : sources.Wins option .builtIn

end Defs

section Defaults

/-- A default text is blank when all of its pieces are. -/
theorem isBlankText_join (module : String) (pieces : List DefaultPiece) :
    Text.isBlankText (OptionDefault.join module pieces) =
      pieces.all fun
        | .literal piece => Text.isBlankText piece
        | .module => Text.isBlankText module := by
  rw [Text.isBlankText, OptionDefault.join, String.toList_join, List.all_flatMap, List.all_map]
  congr 1
  funext piece
  cases piece <;> rfl

variable {option : OptionName} {pieces : List DefaultPiece}

theorem exists_default_of_required (h : option ∈ OptionName.required) :
    ∃ pieces, option.spec.default = .text pieces := by
  cases option <;> first | exact ⟨_, rfl⟩ | exact absurd h (by decide)

theorem kind_of_named (h : option ∈ OptionName.named) : option.kind = .text := by
  cases option <;> first | rfl | exact absurd h (by decide)

/-- A default text is the name of the module, or begins with a piece that is not blank. -/
theorem pieces_of_default (h : option.spec.default = .text pieces) :
    (option ∈ OptionName.named ∧ pieces = [.module]) ∨
      (option ∉ OptionName.named ∧
        ∃ piece rest, pieces = .literal piece :: rest ∧ Text.isBlankText piece = false) := by
  cases option <;> cases h <;>
    first
    | exact .inl ⟨by decide, rfl⟩
    | exact .inr ⟨by decide, _, _, rfl, by decide⟩

/-- The default texts that are blank are blank names of modules. -/
theorem isBlankText_default_iff (h : option.spec.default = .text pieces) (module : String) :
    Text.isBlankText (OptionDefault.join module pieces) = true ↔
      option ∈ OptionName.named ∧ Text.isBlankText module = true := by
  rw [isBlankText_join]
  rcases pieces_of_default h with ⟨hnamed, rfl⟩ | ⟨hother, piece, rest, rfl, hpiece⟩
  · simp [hnamed]
  · simp [hother, hpiece]

end Defaults

namespace Config

section Names

variable (config : Config) (state : Lifecycle) (content : Option FileContent)
variable {decl : Declaration}

theorem id_of_package (h : decl ∈ (config.assemble state content).ofKind .package) :
    decl.id = config.text .package := by
  have href : decl.ref ∈ ((config.assemble state content).ofKind .package).map Declaration.ref :=
    List.mem_map_of_mem h
  rw [Graph.map_ref_ofKind, resources_assemble, map_ref_declarations] at href
  have hid : decl.ref = ⟨.package, config.text .package⟩ := by
    simpa [refs, List.filter_append, apply_ite (List.filter _)] using href
  exact congrArg Ref.id hid

theorem id_of_service (h : decl ∈ (config.assemble state content).ofKind .service) :
    decl.id = config.text .service := by
  have href : decl.ref ∈ ((config.assemble state content).ofKind .service).map Declaration.ref :=
    List.mem_map_of_mem h
  rw [services_assemble, List.mem_singleton] at href
  exact congrArg Ref.id href

end Names

end Config

namespace Sources

section Values

variable {sources : Sources} {config : Config} {option : OptionName} {pieces : List DefaultPiece}

/-- The entry of an option with a default text holds a text. -/
theorem exists_text_of_entry {entry : Entry} (h : sources.entry option = .ok entry)
    (hdefault : option.spec.default = .text pieces) : ∃ value, entry.value = .text value := by
  have hnormal := isNormal_of_entry h
  cases hvalue : entry.value with
  | text value => exact ⟨value, rfl⟩
  | switch | mapping =>
      rw [hvalue] at hnormal
      rcases OptionName.kind_of_default_text hdefault with hkind | ⟨hkind, _⟩
      · rw [hkind] at hnormal
        exact hnormal.elim
      · rw [hkind] at hnormal
        exact hnormal.elim

/-- A text that is set is not blank. -/
theorem isBlankText_of_entry {entry : Entry} {word : String}
    (h : sources.entry option = .ok entry) (hvalue : entry.value = .text (some word)) :
    Text.isBlankText word = false := by
  have hnormal := isNormal_of_entry h
  have hplain := option.hasPlainChoices
  rw [hvalue] at hnormal
  cases hkind : option.kind with
  | text =>
      rw [hkind] at hnormal
      exact hnormal word rfl
  | choice allowed =>
      rw [hkind] at hnormal hplain
      exact (hplain word (hnormal word rfl)).2
  | switch | mapping =>
      rw [hkind] at hnormal
      exact hnormal.elim

/-- An option with a default text is unset only where it is left to a blank name. -/
theorem text?_eq_none_iff_nameless (h : sources.resolve = .ok config)
    (hdefault : option.spec.default = .text pieces) :
    config.text? option = none ↔ sources.Nameless option := by
  obtain ⟨entry, hentry⟩ := exists_entry h option
  obtain ⟨value, hvalue⟩ := exists_text_of_entry hentry hdefault
  obtain ⟨_, hwins, hnormal⟩ := (sources.entry_eq_ok_iff option entry).mp hentry
  have hheld : sources.held option .builtIn =
      some (.text (OptionDefault.join sources.module pieces)) := by
    rw [held, hdefault]
    rfl
  rw [text?_of_entry h hentry hvalue]
  constructor
  · rintro rfl
    have hlayer := layer_of_unset hentry hvalue
    rw [hlayer] at hwins hnormal
    rw [hheld, hvalue] at hnormal
    have hblank := (isBlankText_default_iff hdefault sources.module).mp (isBlank_of_unset hnormal)
    exact ⟨hblank.1, hblank.2, hwins⟩
  · rintro ⟨hnamed, hblank, hdefaulted⟩
    have hmissing := (isBlankText_default_iff hdefault sources.module).mpr ⟨hnamed, hblank⟩
    rw [hwins.unique hdefaulted, hheld, hvalue, kind_of_named hnamed, OptionKind.normalize,
      RawValue.toText, RawValue.isBlank, hmissing] at hnormal
    cases hnormal
    rfl

end Values

section Required

variable {sources : Sources} {config : Config}

/-- An option with a default text is unset where it is left to a blank name, and set to a
text that is not blank everywhere else. -/
theorem text_of_default (h : sources.resolve = .ok config) {option : OptionName}
    {pieces : List DefaultPiece} (hdefault : option.spec.default = .text pieces) :
    (sources.Nameless option ∧ config.text? option = none ∧ config.text option = "") ∨
      (¬ sources.Nameless option ∧ config.text? option = some (config.text option) ∧
        Text.isBlankText (config.text option) = false) := by
  have hunset := text?_eq_none_iff_nameless h hdefault
  cases htext : config.text? option with
  | none =>
      refine .inl ⟨hunset.mp htext, rfl, ?_⟩
      rw [Config.text, htext]
      rfl
  | some word =>
      have hword : config.text option = word := by
        rw [Config.text, htext]
        rfl
      rw [htext] at hunset
      refine .inr ⟨fun hnameless => ?_, by rw [hword], ?_⟩
      · cases hunset.mpr hnameless
      · obtain ⟨entry, hentry⟩ := exists_entry h option
        obtain ⟨value, hvalue⟩ := exists_text_of_entry hentry hdefault
        have hsame := (text?_of_entry h hentry hvalue).symm.trans htext
        rw [hword]
        exact isBlankText_of_entry hentry (hsame ▸ hvalue)

theorem isBlankText_text_iff (h : sources.resolve = .ok config) {option : OptionName}
    (hoption : option ∈ OptionName.required) :
    Text.isBlankText (config.text option) = true ↔ sources.Nameless option := by
  obtain ⟨pieces, hdefault⟩ := exists_default_of_required hoption
  rcases text_of_default h hdefault with ⟨hnameless, _, htext⟩ | ⟨hnamed, _, htext⟩
  · rw [htext]
    exact iff_of_true (by decide) hnameless
  · rw [htext]
    exact iff_of_false Bool.false_ne_true hnamed

/-- What every option with a default text holds. Only a package, a service and a process
can be without a text: those that are left to the name of a module that is blank. The
packages and services of a graph have a blank name in this case and in no other. -/
theorem text_required (h : sources.resolve = .ok config) :
    (∀ option pieces, option.spec.default = .text pieces →
      (sources.Nameless option ∧ config.text? option = none ∧ config.text option = "") ∨
      (¬ sources.Nameless option ∧ config.text? option = some (config.text option) ∧
        Text.isBlankText (config.text option) = false)) ∧
    (∀ option ∈ OptionName.required,
      Text.isBlankText (config.text option) = true ↔ sources.Nameless option) ∧
    (∀ facts renderer state graph, config.toGraph facts renderer state = .ok graph →
      (∀ decl ∈ graph.ofKind .package,
        Text.isBlankText decl.id = true ↔ sources.Nameless .package) ∧
      ∀ decl ∈ graph.ofKind .service,
        Text.isBlankText decl.id = true ↔ sources.Nameless .service) := by
  have hblank : ∀ option ∈ OptionName.required,
      (Text.isBlankText (config.text option) = true ↔ sources.Nameless option) :=
    fun _ => isBlankText_text_iff h
  refine ⟨fun _ _ => text_of_default h, hblank, ?_⟩
  intro facts renderer state graph hgraph
  obtain ⟨_, content, _, rfl⟩ := (config.toGraph_eq_ok_iff state facts renderer graph).mp hgraph
  constructor
  · intro decl hdecl
    rw [config.id_of_package state content hdecl]
    exact hblank .package (by decide)
  · intro decl hdecl
    rw [config.id_of_service state content hdecl]
    exact hblank .service (by decide)

/-- A module with a blank name, for which a package is named. -/
def unnamed : Sources :=
  { module := " ", params := .ofList [("package", .text "web")], facts := .empty }

/-- Its package and its port are set, and its service is not. -/
theorem text_unnamed :
    ∃ config, unnamed.resolve = .ok config ∧
      config.text? .package = some "web" ∧
      Text.isBlankText (config.text .port) = false ∧
      unnamed.Nameless .service ∧ Text.isBlankText (config.text .service) = true := by
  have hresolve : unnamed.resolve.toOption.any
      (fun config => config.text? .package = some "web") = true := by decide +kernel
  obtain ⟨config, hconfig, hpackage⟩ := Sources.exists_of_resolve hresolve
  obtain ⟨_, hblank, _⟩ := text_required hconfig
  have hservice : unnamed.Nameless .service :=
    ⟨by decide, by decide, (wins_iff _ _ _).mpr (by decide +kernel)⟩
  have hport : ¬ unnamed.Nameless .port := fun h => absurd h.named (by decide)
  refine ⟨config, hconfig, of_decide_eq_true hpackage, ?_, hservice, ?_⟩
  · rw [← Bool.not_eq_true, hblank .port (by decide)]
    exact hport
  · exact (hblank .service (by decide)).mpr hservice

/-- The package of a module without a name has no name either: no text is resolved for
it, and its declaration has an empty identifier. -/
theorem text_of_blank_module :
    ∃ config graph, (⟨"", .empty, .empty⟩ : Sources).resolve = .ok config ∧
      config.text? .package = none ∧
      config.toGraph .empty Renderer.none .installed = .ok graph ∧
      (graph.ofKind .package).map Declaration.id = [""] := by
  have hbuilds : (⟨"", .empty, .empty⟩ : Sources).builds Renderer.none .installed
      (fun config graph => config.text? .package = none &&
        (graph.ofKind .package).map Declaration.id = [""]) = true := by
    decide +kernel
  obtain ⟨config, graph, hconfig, hgraph, htest⟩ := Sources.exists_of_builds hbuilds
  rw [Bool.and_eq_true, decide_eq_true_eq, decide_eq_true_eq] at htest
  exact ⟨config, graph, hconfig, htest.1, hgraph, htest.2⟩

end Required
end Sources
end DesiredState
