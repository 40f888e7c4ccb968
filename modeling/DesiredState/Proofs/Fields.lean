import DesiredState.Config.Fields
import DesiredState.Proofs.Required

/-!
# Fields and entries

**Input.** The sources of a module, from which a configuration is resolved, and the
record of its fields.

**Idea.** Each option has one entry, and the setting of that entry has the shape of the
option's kind. So a field that is read under the name of its option, with the shape of
that kind, finds the setting, and never falls back to what stands for a missing one. The
record says of every option in which shape it is read; the shapes agree with the kinds
and with the readers of the configuration.

**Results.**
* `get?_settings`: the settings under the names of the options.
* `field_fields`: a field is what the configuration is read as under its option.
* `shows_fieldOf`: that is the setting of the entry.
* `mem_keys_of_toMapping`: the names of a mapping that is read.
* `fields_faithful`: what the fields hold.
-/

namespace DesiredState

section Defs

/-- The shape in which a field holds its option. -/
inductive Shape where
  | switch
  | text
  | required
  | mapping
deriving DecidableEq

/-- The shape of the field of an option. -/
def OptionName.shape (option : OptionName) : Shape :=
  match option.kind with
  | .switch => .switch
  | .mapping => .mapping
  | _ => if option ∈ required then .required else .text

/-- The field that is read under a name with a shape. -/
def Field.at (settings : KeyMap Setting) (name : String) : Shape → Field
  | .switch => .switch (switchAt settings name)
  | .text => .text (textAt settings name)
  | .required => .required (requiredAt settings name)
  | .mapping => .mapping (mappingAt settings name)

/-- What a configuration is read as under an option, in a shape. -/
def Config.fieldOf (config : Config) (option : OptionName) : Shape → Field
  | .switch => .switch (config.switch option)
  | .text => .text (config.text? option)
  | .required => .required (config.text option)
  | .mapping => .mapping (config.mapping option)

/-- The field shows a setting of its own shape. A text that every module has shows an
unset one as the empty text. -/
inductive Field.Shows : Field → Setting → Prop
  | switch (value : Switch) : Shows (.switch value) (.switch value)
  | text (value : Option String) : Shows (.text value) (.text value)
  | required (value : Option String) : Shows (.required (value.getD "")) (.text value)
  | mapping (entries : KeyMap String) : Shows (.mapping entries) (.mapping entries)

/-- The field of an option shows the only entry of its name, which has the layer that won
for the option. -/
structure Sources.IsShown (sources : Sources) (config : Config) (option : OptionName)
    (entry : Entry) : Prop where
  mem : entry ∈ config.entries
  named : entry.option.name = option.name
  unique : ∀ other ∈ config.entries, other.option.name = option.name → other = entry
  shows : (config.fields.field option).Shows entry.value
  switched : config.fields.field option ≠ .switch .unset
  set : ∀ word, entry.value = .text (some word) → Text.isBlankText word = false
  read : config.fields.field option = config.fieldOf option option.shape
  wins : sources.Wins option entry.layer
  layer?_eq : config.layer? option = some entry.layer

end Defs

namespace RawValue

section Mappings

theorem names_of_scalarEntries {entries : List (String × RawValue)}
    {texts : List (String × String)} (h : scalarEntries entries = .ok texts) :
    texts.map Prod.fst = entries.map Prod.fst := by
  induction entries generalizing texts with
  | nil =>
      cases h
      rfl
  | cons entry rest ih =>
      rw [scalarEntries] at h
      split at h
      · cases h
      · split at h
        · cases h
        · rename_i more hmore
          cases h
          rw [List.map_cons, List.map_cons, ih hmore]

/-- A mapping that is read has the names of the raw one; nothing is read as the empty
mapping. -/
theorem mem_keys_of_toMapping {raw : Option RawValue} {texts : KeyMap String}
    (h : toMapping raw = .ok texts) (key : String) :
    key ∈ texts.keys ↔ ∃ entries, raw = some (.mapping entries) ∧ key ∈ entries.map Prod.fst := by
  cases raw with
  | none =>
      cases h
      simp [KeyMap.keys, KeyMap.empty]
  | some value =>
      cases value with
      | mapping entries =>
          rw [toMapping] at h
          split at h
          · cases h
          · rename_i words hwords
            cases h
            rw [KeyMap.mem_keys_ofList, names_of_scalarEntries hwords]
            simp
      | boolean | integer | float | text | list => cases h

end Mappings

end RawValue

namespace Sources

variable {sources : Sources} {config : Config} {option : OptionName} {entry : Entry}

section Reading

/-- The settings stand under the names of their options. -/
theorem get?_settings (h : sources.resolve = .ok config) (option : OptionName) :
    config.settings.get? option.name = (config.entry? option).map Entry.value := by
  obtain ⟨entry, hentry⟩ := exists_entry h option
  have hoption := ((sources.entry_eq_ok_iff _ _).mp hentry).1
  rw [(entry?_eq_some_iff h option entry).mpr hentry, Option.map_some]
  subst hoption
  have hfound := get?_ofList_entries some h ((mem_entries_iff h entry).mpr hentry)
  simpa [Config.settings, List.filterMap_eq_map'] using hfound

theorem at_settings (h : sources.resolve = .ok config) (option : OptionName) (shape : Shape) :
    Field.at config.settings option.name shape = config.fieldOf option shape := by
  have hget := get?_settings h option
  cases shape with
  | switch =>
      refine congrArg Field.switch ?_
      rw [Field.switchAt, Config.switch, hget]
      rcases config.entry? option with _ | ⟨_, _ | _ | _, _⟩ <;> rfl
  | text =>
      refine congrArg Field.text ?_
      rw [Field.textAt, Config.text?, hget]
      rcases config.entry? option with _ | ⟨_, _ | _ | _, _⟩ <;> rfl
  | required =>
      refine congrArg Field.required ?_
      rw [Field.requiredAt, Config.text, Field.textAt, Config.text?, hget]
      rcases config.entry? option with _ | ⟨_, _ | _ | _, _⟩ <;> rfl
  | mapping =>
      refine congrArg Field.mapping ?_
      rw [Field.mappingAt, Config.mapping, hget]
      rcases config.entry? option with _ | ⟨_, _ | _ | _, _⟩ <;> rfl

end Reading

end Sources

/-- Every field is read under the name of its option and with its shape. -/
theorem Config.field_fields_eq_at (config : Config) (option : OptionName) :
    config.fields.field option = Field.at config.settings option.name option.shape := by
  cases option <;> rfl

namespace Sources

variable {sources : Sources} {config : Config} {option : OptionName} {entry : Entry}

section Showing

/-- A field is what the configuration is read as under its option. -/
theorem field_fields (h : sources.resolve = .ok config) (option : OptionName) :
    config.fields.field option = config.fieldOf option option.shape := by
  rw [Config.field_fields_eq_at, at_settings h]

/-- What a configuration is read as under an option is the setting of its entry. -/
theorem shows_fieldOf (h : sources.resolve = .ok config)
    (hentry : sources.entry option = .ok entry) :
    (config.fieldOf option option.shape).Shows entry.value := by
  have hnormal := isNormal_of_entry hentry
  have hfound := (entry?_eq_some_iff h option entry).mpr hentry
  have htext : ∀ value, entry.value = .text value →
      (config.fieldOf option (if option ∈ OptionName.required then .required else .text)).Shows
        (.text value) := by
    intro value hvalue
    split
    · rw [Config.fieldOf, Config.text, text?_of_entry h hentry hvalue]
      exact .required value
    · rw [Config.fieldOf, text?_of_entry h hentry hvalue]
      exact .text value
  unfold OptionName.shape
  cases hkind : option.kind with
  | switch =>
      rw [hkind] at hnormal
      obtain ⟨_, value | _ | _, _⟩ := entry
      · rw [Config.fieldOf, Config.switch, hfound]
        exact .switch value
      · exact hnormal.elim
      · exact hnormal.elim
  | mapping =>
      rw [hkind] at hnormal
      obtain ⟨_, _ | _ | entries, _⟩ := entry
      · exact hnormal.elim
      · exact hnormal.elim
      · rw [Config.fieldOf, Config.mapping, hfound]
        exact .mapping entries
  | text | choice =>
      rw [hkind] at hnormal
      cases hvalue : entry.value with
      | text value => exact htext value hvalue
      | switch | mapping =>
          rw [hvalue] at hnormal
          exact hnormal.elim

/-- Every option is shown by its field. -/
theorem exists_isShown (h : sources.resolve = .ok config) (option : OptionName) :
    ∃ entry, sources.IsShown config option entry := by
  obtain ⟨entry, hentry⟩ := exists_entry h option
  obtain ⟨hoption, hwins, _⟩ := (sources.entry_eq_ok_iff _ _).mp hentry
  have hshows := shows_fieldOf h hentry
  rw [← field_fields h] at hshows
  refine ⟨entry, ?_, congrArg OptionName.name hoption, ?_, hshows, ?_, ?_, field_fields h option,
    hwins, ?_⟩
  · rw [mem_entries_iff h, hoption]
    exact hentry
  · intro other hother hname
    have hsame := (mem_entries_iff h other).mp hother
    rw [OptionName.name_injective hname, hentry] at hsame
    cases hsame
    rfl
  · intro hunset
    rw [hunset] at hshows
    cases hvalue : entry.value with
    | switch value =>
        rw [hvalue] at hshows
        cases hshows
        exact value_ne_unset_switch hentry hvalue
    | text | mapping =>
        rw [hvalue] at hshows
        cases hshows
  · intro word hword
    exact isBlankText_of_entry hentry hword
  · rw [Config.layer?, (entry?_eq_some_iff h option entry).mpr hentry]
    rfl

/-- The protocol of a module is one of the choices: it is set, since its default is. -/
theorem protocol_mem (h : sources.resolve = .ok config) :
    config.fields.protocol ∈ OptionName.protocols := by
  obtain ⟨entry, hentry⟩ := exists_entry h .protocol
  have hnormal := isNormal_of_entry hentry
  have hdefault : OptionName.protocol.spec.default = .text [.literal "tcp"] := rfl
  obtain ⟨value, hvalue⟩ := exists_text_of_entry hentry hdefault
  have hread : config.fields.protocol = config.text .protocol :=
    Field.required.inj (field_fields h .protocol)
  rcases text_of_default h hdefault with ⟨hnameless, _⟩ | ⟨_, htext, _⟩
  · exact absurd hnameless.named (by decide)
  · rw [text?_of_entry h hentry hvalue] at htext
    rw [hvalue] at hnormal
    rw [hread]
    exact hnormal _ htext

/-- The mapping of a module has the names of the raw one that won. -/
theorem mem_keys_options_iff (h : sources.resolve = .ok config) (key : String) :
    key ∈ config.fields.options.keys ↔
      ∃ entries, sources.held .options (config.layerOf .options) = some (.mapping entries) ∧
        key ∈ entries.map Prod.fst := by
  obtain ⟨entry, hentry⟩ := exists_entry h .options
  obtain ⟨_, hwins, hread⟩ := (sources.entry_eq_ok_iff _ _).mp hentry
  obtain ⟨texts, htexts, hvalue⟩ := Except.exists_of_map_eq_ok hread
  have hshows := shows_fieldOf h hentry
  rw [← field_fields h, ← hvalue] at hshows
  have hfield : config.fields.options = texts := by
    cases hshows
    rfl
  rw [hfield, (layerOf_wins h .options).unique hwins]
  exact RawValue.mem_keys_of_toMapping htexts key

/-- The fields of a configuration show its entries: each field has the setting of the only
entry of its name, in its own shape, so that no field is made up. A switch is on or off, a
text that is set is not blank, the protocol is one of the choices, and the mapping has the
names of the raw one. The layer of an option is the one that won for it. -/
theorem fields_faithful (h : sources.resolve = .ok config) :
    config.fields.module = sources.module ∧
      (∀ option, ∃ entry, sources.IsShown config option entry) ∧
      config.fields.protocol ∈ OptionName.protocols ∧
      (∀ key, key ∈ config.fields.options.keys ↔
        ∃ entries, sources.held .options (config.layerOf .options) = some (.mapping entries) ∧
          key ∈ entries.map Prod.fst) :=
  ⟨((sources.resolve_eq_ok_iff config).mp h).1, exists_isShown h, protocol_mem h,
    mem_keys_options_iff h⟩

/-- A module without a name, with settings of all shapes from several layers. -/
def nameless : Sources :=
  { module := ""
    params := .ofList [("protocol", .text "UDP"), ("package", .text " "),
      ("options", .mapping [("workers", .integer 4), ("user", .text "www")])]
    facts := .ofList [("_monitor", .text "yes"), ("options", .mapping [("user", .text "root")])] }

/-- Its package is empty, its protocol is lowered, and its mapping is the passed one. -/
theorem fields_nameless :
    ∃ config, nameless.resolve = .ok config ∧ config.fields.package = "" ∧
      config.fields.monitor = .on ∧
      (∃ entry, nameless.IsShown config .monitor entry ∧ entry.layer = .moduleScope) ∧
      config.fields.protocol ∈ OptionName.protocols ∧
      ∀ key, key ∈ config.fields.options.keys ↔ key ∈ ["workers", "user"] := by
  have htest : nameless.resolve.toOption.any (fun config =>
      config.fields.package = "" && config.fields.monitor = .on &&
        config.layer? .monitor = some .moduleScope &&
        config.layerOf .options = .passed) = true := by
    decide +kernel
  obtain ⟨config, hconfig, htest⟩ := Sources.exists_of_resolve htest
  simp only [Bool.and_eq_true, decide_eq_true_eq] at htest
  obtain ⟨⟨⟨hpackage, hmonitor⟩, hscope⟩, hpassed⟩ := htest
  obtain ⟨_, hshown, hprotocol, hkeys⟩ := fields_faithful hconfig
  obtain ⟨entry, hentry⟩ := hshown .monitor
  refine ⟨config, hconfig, hpackage, hmonitor, ⟨entry, hentry, ?_⟩, hprotocol, ?_⟩
  · exact Option.some.inj (hentry.layer?_eq.symm.trans hscope)
  · intro key
    rw [hkeys, hpassed]
    constructor
    · rintro ⟨entries, hheld, hmem⟩
      cases hheld
      exact hmem
    · intro hmem
      exact ⟨_, rfl, hmem⟩

end Showing

end Sources
end DesiredState
