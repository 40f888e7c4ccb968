import DesiredState.Config
import DesiredState.Proofs.Finding
import DesiredState.Proofs.KeyMap.Assignment

/-!
# Precedence of the layers

**Input.** The sources of a module: its name, the passed parameters, the facts.

**Rule.** Each layer holds a raw value for an option, or none. The first layer
that holds a value which is not blank wins; the default wins when no layer above
it does. The entry of an option is the normal form of what the winner holds.

**Results.**
* `lookup_layer_wins`, `Wins.unique`: every option has exactly one winner.
* `resolve_eq_ok_iff`: a configuration is one entry per option, in the order of
  the table.
* `entries_eq_error_iff`: there is none when an option has no entry, and the first
  such option tells why.
* `resolve_precedence`: the winner decides the entry alone, so that nothing
  below it matters.
-/

namespace DesiredState

/-- The place of a layer in the order of precedence. -/
def Layer.rank : Layer → Nat
  | .passed => 0
  | .moduleScope => 1
  | .topScope => 2
  | .builtIn => 3

theorem Layer.rank_injective {a b : Layer} (h : a.rank = b.rank) : a = b := by
  cases a <;> cases b <;> simp_all [Layer.rank]

namespace Sources

section Defs

/-- The raw value that a layer holds for an option. -/
def held (sources : Sources) (option : OptionName) : Layer → Option RawValue
  | .passed => sources.params.get? option.name
  | .moduleScope => sources.facts.get? (moduleKey sources.module option.name)
  | .topScope => sources.facts.get? option.name
  | .builtIn => option.spec.default.toRaw? sources.module sources.facts

/-- The layer holds a value that is not blank. -/
def Supplies (sources : Sources) (option : OptionName) (layer : Layer) : Prop :=
  ∃ raw, sources.held option layer = some raw ∧ raw.isBlank = false

/-- The first layer that holds a value which is not blank, or the default. -/
structure Wins (sources : Sources) (option : OptionName) (layer : Layer) :
    Prop where
  supplies : layer = .builtIn ∨ sources.Supplies option layer
  first : ∀ higher : Layer, higher.rank < layer.rank → ¬ sources.Supplies option higher

/-- The sources with another value for an option at one layer, or none. The
default of an option changes with the fact that it copies. -/
def replace (sources : Sources) (option : OptionName) (layer : Layer)
    (value : Option RawValue) : Sources :=
  match layer with
  | .passed => { sources with params := sources.params.assign option.name value }
  | .moduleScope =>
      { sources with
        facts := sources.facts.assign (moduleKey sources.module option.name) value }
  | .topScope => { sources with facts := sources.facts.assign option.name value }
  | .builtIn =>
      match option.spec.default with
      | .fact name => { sources with facts := sources.facts.assign name value }
      | _ => sources

/-- The sources with other values for an option at several layers. -/
def replaceAll (sources : Sources) (option : OptionName)
    (values : List (Layer × Option RawValue)) : Sources :=
  values.foldl (fun sources value => sources.replace option value.1 value.2) sources

end Defs

section Winner

theorem present?_eq_none_iff (values : KeyMap RawValue) (name : String) :
    present? values name = none ↔
      ¬ ∃ raw, values.get? name = some raw ∧ raw.isBlank = false := by
  rw [present?, Option.filter_eq_none_iff]
  simp

theorem present?_eq_some {values : KeyMap RawValue} {name : String}
    {raw : RawValue} (h : present? values name = some raw) :
    values.get? name = some raw ∧ raw.isBlank = false := by
  have ⟨hget, hblank⟩ := Option.filter_eq_some_iff.mp h
  exact ⟨hget, by simpa using hblank⟩

/-- The look-up finds the winner. -/
theorem lookup_layer_wins (sources : Sources) (option : OptionName) :
    sources.Wins option (sources.lookup option).layer := by
  unfold lookup
  split
  · rename_i raw hpassed
    refine ⟨.inr ⟨raw, present?_eq_some hpassed⟩, ?_⟩
    intro higher hlt
    exact absurd hlt (Nat.not_lt_zero _)
  · rename_i hpassed
    have hnotPassed : ¬ sources.Supplies option .passed :=
      (present?_eq_none_iff _ _).mp hpassed
    split
    · rename_i raw hmodule
      refine ⟨.inr ⟨raw, present?_eq_some hmodule⟩, ?_⟩
      intro higher hlt
      cases higher with
      | passed => exact hnotPassed
      | moduleScope | topScope | builtIn => simp [Layer.rank] at hlt
    · rename_i hmodule
      have hnotModule : ¬ sources.Supplies option .moduleScope :=
        (present?_eq_none_iff _ _).mp hmodule
      split
      · rename_i raw htop
        refine ⟨.inr ⟨raw, present?_eq_some htop⟩, ?_⟩
        intro higher hlt
        cases higher with
        | passed => exact hnotPassed
        | moduleScope => exact hnotModule
        | topScope | builtIn => simp [Layer.rank] at hlt
      · rename_i htop
        have hnotTop : ¬ sources.Supplies option .topScope :=
          (present?_eq_none_iff _ _).mp htop
        refine ⟨.inl rfl, ?_⟩
        intro higher hlt
        cases higher with
        | passed => exact hnotPassed
        | moduleScope => exact hnotModule
        | topScope => exact hnotTop
        | builtIn => simp at hlt

/-- The look-up takes what the winner holds. -/
theorem lookup_raw (sources : Sources) (option : OptionName) :
    (sources.lookup option).raw =
      sources.held option (sources.lookup option).layer := by
  unfold lookup
  split
  · rename_i raw h
    exact (present?_eq_some h).1.symm
  · split
    · rename_i raw h
      exact (present?_eq_some h).1.symm
    · split
      · rename_i raw h
        exact (present?_eq_some h).1.symm
      · rfl

/-- An option has one winner only. -/
theorem Wins.unique {sources : Sources} {option : OptionName} {a b : Layer}
    (ha : sources.Wins option a) (hb : sources.Wins option b) : a = b := by
  -- A winner that another one outranks holds nothing, and the default, which
  -- may hold nothing, outranks no layer.
  have hnot : ∀ {x y : Layer}, sources.Wins option x → sources.Wins option y →
      ¬ x.rank < y.rank := by
    intro x y hx hy hlt
    rcases hx.supplies with rfl | hsupplies
    · cases y <;> simp [Layer.rank] at hlt
    · exact hy.first x hlt hsupplies
  have hab := hnot ha hb
  have hba := hnot hb ha
  exact Layer.rank_injective (by omega)

theorem wins_iff (sources : Sources) (option : OptionName) (layer : Layer) :
    sources.Wins option layer ↔ (sources.lookup option).layer = layer := by
  constructor
  · intro h
    exact (sources.lookup_layer_wins option).unique h
  · intro h
    exact h ▸ sources.lookup_layer_wins option

end Winner

section Entries

theorem entry_eq_ok_iff (sources : Sources) (option : OptionName) (entry : Entry) :
    sources.entry option = .ok entry ↔
      entry.option = option ∧ sources.Wins option entry.layer ∧
        option.kind.normalize (sources.held option entry.layer) = .ok entry.value := by
  rw [wins_iff]
  unfold Sources.entry
  dsimp only
  rw [lookup_raw]
  split
  · rename_i value hvalue
    constructor
    · intro h
      cases h
      exact ⟨rfl, rfl, hvalue⟩
    · rintro ⟨rfl, hlayer, hnormal⟩
      rw [← hlayer, hvalue] at hnormal
      cases hnormal
      rw [hlayer]
  · rename_i rejection hrejection
    constructor
    · intro h
      cases h
    · rintro ⟨rfl, hlayer, hnormal⟩
      rw [← hlayer, hrejection] at hnormal
      cases hnormal

/-- Resolution goes through the options one by one. -/
theorem entries_eq_ok_iff (sources : Sources) (options : List OptionName)
    (entries : List Entry) :
    sources.entries options = .ok entries ↔
      List.Forall₂ (fun option entry => sources.entry option = .ok entry)
        options entries := by
  induction options generalizing entries with
  | nil => simp [Sources.entries, eq_comm]
  | cons option rest ih =>
      rw [Sources.entries, List.forall₂_cons_left_iff]
      split
      · rename_i invalid hinvalid
        simp [hinvalid]
      · rename_i entry hentry
        split
        · rename_i invalid hinvalid
          constructor
          · intro h
            cases h
          · rintro ⟨_, more, _, hmore, _⟩
            rw [← ih, hinvalid] at hmore
            cases hmore
        · rename_i more hmore
          constructor
          · intro h
            cases h
            exact ⟨entry, more, hentry, (ih more).mp hmore, rfl⟩
          · rintro ⟨entry', more', hentry', hmore', rfl⟩
            rw [← ih, hmore] at hmore'
            rw [hentry] at hentry'
            cases hmore'
            cases hentry'
            rfl

/-- A rejected value is blamed on the layer that won. -/
theorem entry_eq_error_iff {sources : Sources} {option : OptionName} (invalid : InvalidValue) :
    sources.entry option = .error invalid ↔
      invalid.option = option.name ∧ sources.Wins option invalid.layer ∧
        option.kind.normalize (sources.held option invalid.layer) =
          .error invalid.rejection := by
  rw [wins_iff]
  unfold entry
  dsimp only
  rw [lookup_raw]
  obtain ⟨name, layer, rejection⟩ := invalid
  dsimp only
  split
  · rename_i value hvalue
    constructor
    · intro h
      cases h
    · rintro ⟨_, rfl, hnormal⟩
      rw [hvalue] at hnormal
      cases hnormal
  · rename_i found hfound
    constructor
    · intro h
      cases h
      exact ⟨rfl, rfl, hfound⟩
    · rintro ⟨rfl, rfl, hnormal⟩
      rw [hfound] at hnormal
      cases hnormal
      rfl

/-- Resolution ends at the first option that has no entry. -/
theorem entries_eq_error_iff (sources : Sources) (options : List OptionName)
    (invalid : InvalidValue) :
    sources.entries options = .error invalid ↔
      ∃ earlier option later, options = earlier ++ option :: later ∧
        (∀ before ∈ earlier, ∃ entry, sources.entry before = .ok entry) ∧
        sources.entry option = .error invalid := by
  induction options with
  | nil => simp [entries]
  | cons option rest ih =>
      rw [exists_first_cons_iff, ← ih, entries]
      cases sources.entry option with
      | error found => simp
      | ok entry => cases sources.entries rest <;> simp

/-- A configuration is one entry per option, in the order of the table. -/
theorem resolve_eq_ok_iff (sources : Sources) (config : Config) :
    sources.resolve = .ok config ↔
      config.module = sources.module ∧
        List.Forall₂ (fun option entry => sources.entry option = .ok entry)
          OptionName.all config.entries := by
  rw [← entries_eq_ok_iff, resolve]
  split
  · rename_i entries hentries
    rw [hentries]
    constructor
    · intro h
      cases h
      exact ⟨rfl, rfl⟩
    · rintro ⟨hmodule, h⟩
      cases h
      rw [← hmodule]
  · rename_i invalid hinvalid
    simp [hinvalid]

theorem resolve_eq_error_iff {sources : Sources} (invalid : InvalidValue) :
    sources.resolve = .error invalid ↔ sources.entries OptionName.all = .error invalid := by
  unfold resolve
  cases sources.entries OptionName.all <;> simp

theorem options_of_forall₂ {sources : Sources} {options : List OptionName}
    {entries : List Entry}
    (h : List.Forall₂ (fun option entry => sources.entry option = .ok entry)
      options entries) :
    entries.map Entry.option = options := by
  induction h with
  | nil => rfl
  | cons hentry _ ih =>
      rw [List.map_cons, ih, ((sources.entry_eq_ok_iff _ _).mp hentry).1]

theorem entry_of_mem {sources : Sources} {options : List OptionName}
    {entries : List Entry}
    (h : List.Forall₂ (fun option entry => sources.entry option = .ok entry)
      options entries) {entry : Entry} (hmem : entry ∈ entries) :
    sources.entry entry.option = .ok entry := by
  induction h with
  | nil => cases hmem
  | @cons option head options entries hentry _ ih =>
      rcases List.mem_cons.mp hmem with rfl | hin
      · rw [((sources.entry_eq_ok_iff _ _).mp hentry).1]
        exact hentry
      · exact ih hin

theorem mem_of_entry {sources : Sources} {options : List OptionName}
    {entries : List Entry}
    (h : List.Forall₂ (fun option entry => sources.entry option = .ok entry)
      options entries) {entry : Entry} (hmem : entry.option ∈ options)
    (hentry : sources.entry entry.option = .ok entry) : entry ∈ entries := by
  induction h with
  | nil => cases hmem
  | @cons option head options entries hhead _ ih =>
      rcases List.mem_cons.mp hmem with heq | hin
      · rw [heq, hhead] at hentry
        cases hentry
        exact List.mem_cons_self
      · exact List.mem_cons_of_mem _ (ih hin)

/-- The entries of a configuration are those of the options. -/
theorem mem_entries_iff {sources : Sources} {config : Config}
    (h : sources.resolve = .ok config) (entry : Entry) :
    entry ∈ config.entries ↔ sources.entry entry.option = .ok entry := by
  have hall := ((sources.resolve_eq_ok_iff config).mp h).2
  constructor
  · exact entry_of_mem hall
  · exact mem_of_entry hall (OptionName.mem_all entry.option)

theorem mem_of_entry? {config : Config} {option : OptionName} {entry : Entry}
    (h : config.entry? option = some entry) :
    entry ∈ config.entries ∧ entry.option = option := by
  unfold Config.entry? at h
  exact ⟨List.mem_of_find?_eq_some h, by simpa using List.find?_some h⟩

/-- The entry of an option is the one that the configuration finds. -/
theorem entry?_eq_some_iff {sources : Sources} {config : Config}
    (h : sources.resolve = .ok config) (option : OptionName) (entry : Entry) :
    config.entry? option = some entry ↔ sources.entry option = .ok entry := by
  have hfound : ∀ {found : Entry}, config.entry? option = some found →
      sources.entry option = .ok found := by
    intro found hfound
    obtain ⟨hmem, hoption⟩ := mem_of_entry? hfound
    rw [← hoption]
    exact (mem_entries_iff h found).mp hmem
  refine ⟨hfound, ?_⟩
  intro hentry
  have hoption := ((sources.entry_eq_ok_iff _ _).mp hentry).1
  have hmem : entry ∈ config.entries := by
    rw [mem_entries_iff h, hoption]
    exact hentry
  have hsome : (config.entry? option).isSome = true :=
    List.find?_isSome.mpr ⟨entry, hmem, decide_eq_true hoption⟩
  obtain ⟨found, hother⟩ := Option.isSome_iff_exists.mp hsome
  have hsame := hfound hother
  rw [hentry] at hsame
  cases hsame
  exact hother

theorem exists_entry {sources : Sources} {config : Config}
    (h : sources.resolve = .ok config) (option : OptionName) :
    ∃ entry, sources.entry option = .ok entry := by
  have hmem : option ∈ config.entries.map Entry.option := by
    rw [options_of_forall₂ ((sources.resolve_eq_ok_iff config).mp h).2]
    exact OptionName.mem_all option
  obtain ⟨entry, hentry, rfl⟩ := List.mem_map.mp hmem
  exact ⟨entry, (mem_entries_iff h entry).mp hentry⟩

/-- The layer that a resolved configuration gives for an option is the one that won. -/
theorem layerOf_wins {sources : Sources} {config : Config}
    (h : sources.resolve = .ok config) (option : OptionName) :
    sources.Wins option (config.layerOf option) := by
  obtain ⟨entry, hentry⟩ := exists_entry h option
  have hlayer : config.layerOf option = entry.layer := by
    rw [Config.layerOf, Config.layer?, (entry?_eq_some_iff h option entry).mpr hentry]
    rfl
  rw [hlayer]
  exact ((sources.entry_eq_ok_iff _ _).mp hentry).2.1

end Entries

section Congruence

variable {sources other : Sources}

/-- An entry depends on the layer that is found and on the normal form of what it
holds. -/
theorem entry_of_lookup {option : OptionName}
    (hlayer : (other.lookup option).layer = (sources.lookup option).layer)
    (hraw : option.kind.normalize (other.lookup option).raw =
      option.kind.normalize (sources.lookup option).raw) :
    other.entry option = sources.entry option := by
  unfold entry
  dsimp only
  rw [hlayer, hraw]

theorem entries_of_entry (h : ∀ option, other.entry option = sources.entry option)
    (options : List OptionName) : other.entries options = sources.entries options := by
  induction options with
  | nil => rfl
  | cons option rest ih => rw [entries, entries, h option, ih]

/-- Modules of one name with the same entries, or the same errors, have the same
configuration. -/
theorem resolve_of_entry (hmodule : other.module = sources.module)
    (h : ∀ option, other.entry option = sources.entry option) :
    other.resolve = sources.resolve := by
  rw [resolve, resolve, entries_of_entry h, hmodule]

end Congruence

section Frame

/-- A layer wins as well where it and the layers above it hold the same. -/
theorem Wins.of_agree {sources other : Sources} {option : OptionName}
    {layer : Layer} (hwins : sources.Wins option layer)
    (hagree : ∀ upper : Layer, upper.rank ≤ layer.rank →
      other.held option upper = sources.held option upper) :
    other.Wins option layer := by
  constructor
  · rcases hwins.supplies with hdefault | ⟨raw, hraw, hblank⟩
    · exact .inl hdefault
    · exact .inr ⟨raw, (hagree layer (Nat.le_refl _)).trans hraw, hblank⟩
  · rintro higher hlt ⟨raw, hraw, hblank⟩
    have hsame := hagree higher (Nat.le_of_lt hlt)
    exact hwins.first higher hlt ⟨raw, hsame.symm.trans hraw, hblank⟩

/-- What is held below the winner does not matter. -/
theorem entry_of_agree {sources other : Sources} {option : OptionName}
    {entry : Entry} (hentry : sources.entry option = .ok entry)
    (hagree : ∀ upper : Layer, upper.rank ≤ entry.layer.rank →
      other.held option upper = sources.held option upper) :
    other.entry option = .ok entry := by
  have ⟨hoption, hwins, hnormal⟩ := (sources.entry_eq_ok_iff _ _).mp hentry
  rw [entry_eq_ok_iff, hagree entry.layer (Nat.le_refl _)]
  exact ⟨hoption, hwins.of_agree hagree, hnormal⟩

theorem moduleKey_ne (module option : String) : moduleKey module option ≠ option := by
  intro h
  have hlength := congrArg String.length h
  simp only [moduleKey, String.length_append] at hlength
  have hone : "_".length = 1 := rfl
  omega

/-- The only fact that is copied into defaults has the name of no option and no
underscore. -/
theorem copied_fact {option : OptionName} {name : String}
    (h : option.spec.default = .fact name) : name = "ipaddress" := by
  cases option <;> cases h <;> rfl

theorem moduleKey_ne_copied (module option : String) :
    moduleKey module option ≠ "ipaddress" := by
  intro h
  have hmem : '_' ∈ (moduleKey module option).toList := by
    simp [moduleKey]
  rw [h] at hmem
  exact absurd hmem (by decide)

theorem name_ne_copied (option : OptionName) : option.name ≠ "ipaddress" := by
  cases option <;> decide

/-- The layers above a replaced one hold what they held: the names under which
they look are different ones. -/
theorem held_replace_of_lt (sources : Sources) (option : OptionName)
    {layer upper : Layer} (hlt : upper.rank < layer.rank)
    (value : Option RawValue) :
    (sources.replace option layer value).held option upper =
      sources.held option upper := by
  cases layer with
  | passed => exact absurd hlt (Nat.not_lt_zero _)
  | moduleScope =>
      cases upper with
      | passed => rfl
      | moduleScope | topScope | builtIn => simp [Layer.rank] at hlt
  | topScope =>
      cases upper with
      | passed => rfl
      | moduleScope =>
          simp only [held, replace]
          rw [KeyMap.get?_assign, if_neg (moduleKey_ne _ _)]
      | topScope | builtIn => simp [Layer.rank] at hlt
  | builtIn =>
      simp only [replace]
      split
      · rename_i name hdefault
        rw [copied_fact hdefault]
        cases upper with
        | passed => rfl
        | moduleScope =>
            simp only [held]
            rw [KeyMap.get?_assign, if_neg (moduleKey_ne_copied _ _)]
        | topScope =>
            simp only [held]
            rw [KeyMap.get?_assign, if_neg (name_ne_copied _)]
        | builtIn => simp at hlt
      · rfl

theorem held_replaceAll_of_lt (sources : Sources) (option : OptionName)
    {upper : Layer} {values : List (Layer × Option RawValue)}
    (hlt : ∀ value ∈ values, upper.rank < value.1.rank) :
    (sources.replaceAll option values).held option upper =
      sources.held option upper := by
  induction values generalizing sources with
  | nil => rfl
  | cons value rest ih =>
      have hhead := hlt value List.mem_cons_self
      have htail : ∀ v ∈ rest, upper.rank < v.1.rank := by
        intro v hv
        exact hlt v (List.mem_cons_of_mem _ hv)
      rw [replaceAll, List.foldl_cons]
      exact (ih _ htail).trans (sources.held_replace_of_lt option hhead value.2)

end Frame

section Precedence

/-- A configuration has one entry per option, in the order of the table. The
layer of an entry is the first one that holds a value which is not blank, or the
default, and its value is the normal form of what that layer holds. No other
value at a lower layer changes the entry. -/
theorem resolve_precedence {sources : Sources} {config : Config}
    (h : sources.resolve = .ok config) :
    config.entries.map Entry.option = OptionName.all ∧
    (∀ entry ∈ config.entries,
      sources.Wins entry.option entry.layer ∧
      entry.option.kind.normalize (sources.held entry.option entry.layer) =
        .ok entry.value) ∧
    (∀ entry ∈ config.entries, ∀ other : Sources,
      (∀ upper : Layer, upper.rank ≤ entry.layer.rank →
        other.held entry.option upper = sources.held entry.option upper) →
      other.entry entry.option = .ok entry ∧
      ∀ changed, other.resolve = .ok changed → entry ∈ changed.entries) ∧
    (∀ entry ∈ config.entries, ∀ values : List (Layer × Option RawValue),
      (∀ value ∈ values, entry.layer.rank < value.1.rank) →
      (sources.replaceAll entry.option values).entry entry.option = .ok entry ∧
      ∀ changed, (sources.replaceAll entry.option values).resolve = .ok changed →
        entry ∈ changed.entries) := by
  have hframe : ∀ entry ∈ config.entries, ∀ other : Sources,
      (∀ upper : Layer, upper.rank ≤ entry.layer.rank →
        other.held entry.option upper = sources.held entry.option upper) →
      other.entry entry.option = .ok entry ∧
      ∀ changed, other.resolve = .ok changed → entry ∈ changed.entries := by
    intro entry hmem other hagree
    have hentry := (mem_entries_iff h entry).mp hmem
    have hother := entry_of_agree hentry hagree
    refine ⟨hother, ?_⟩
    intro changed hchanged
    exact (mem_entries_iff hchanged entry).mpr hother
  refine ⟨?_, ?_, hframe, ?_⟩
  · exact options_of_forall₂ ((sources.resolve_eq_ok_iff config).mp h).2
  · intro entry hmem
    have hentry := (mem_entries_iff h entry).mp hmem
    exact ((sources.entry_eq_ok_iff _ _).mp hentry).2
  · intro entry hmem values hbelow
    refine hframe entry hmem _ ?_
    intro upper hupper
    refine sources.held_replaceAll_of_lt entry.option ?_
    intro value hvalue
    exact Nat.lt_of_le_of_lt hupper (hbelow value hvalue)

/-- A module with a blank parameter, a fact of its own and an invalid fact for
one option. -/
def contested : Sources :=
  { module := "nginx"
    params := .ofList [("monitor", .text " ")]
    facts := .ofList [("nginx_monitor", .boolean true), ("monitor", .text "sometimes")] }

/-- The fact of the module wins, and no value at a lower layer takes that from
it. -/
theorem resolve_contested :
    ∃ config, contested.resolve = .ok config ∧
      config.entries.map Entry.option = OptionName.all ∧
      ⟨.monitor, .switch .on, .moduleScope⟩ ∈ config.entries ∧
      contested.Wins .monitor .moduleScope ∧
      ∀ values : List (Layer × Option RawValue),
        (∀ value ∈ values, Layer.moduleScope.rank < value.1.rank) →
        (contested.replaceAll .monitor values).entry .monitor =
          .ok ⟨.monitor, .switch .on, .moduleScope⟩ := by
  have hok : contested.resolve.isOk = true := by decide +kernel
  cases h : contested.resolve with
  | error invalid =>
      rw [h] at hok
      cases hok
  | ok config =>
      have hmem : ⟨.monitor, .switch .on, .moduleScope⟩ ∈ config.entries :=
        (mem_entries_iff h _).mpr (by decide)
      have ⟨hoptions, hwins, _, hframe⟩ := resolve_precedence h
      refine ⟨config, rfl, hoptions, hmem, (hwins _ hmem).1, ?_⟩
      intro values hbelow
      exact (hframe _ hmem values hbelow).1

end Precedence

end Sources
end DesiredState
