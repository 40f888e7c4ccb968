import DesiredState.Proofs.Assembly.Shape
import DesiredState.Proofs.Entries
import DesiredState.Proofs.Pieces
import DesiredState.Report.Provenance

/-!
# Lines of an option table

**Input.** A node that resolves to a configuration, and a table of its options, each with
its value and the layer that the value comes from.

**Idea.** A row is closed by a line feed, so a table has one line for each option as long
as no row has a line feed of its own. The names of options and layers have none, and a
scalar is cut down to its first line. A mapping stands as it is: a line feed in one of its
keys or values breaks its row. Only one option holds a mapping, and where that option is
left out of the table its mapping is empty.

**Results.**
* `linesOfChars_append_lineFeed`: the lines before a line feed and those behind it.
* `length_lines_join_eq_iff`, `lines_join`: rows that are one line each.
* `lineFeed_not_mem_firstLine`: a first line is one line.
* `lineFeed_mem_cell_iff`: the settings whose cells have a line feed.
* `table_exact`: when a table has one line for each option, and which lines these are.
* `table_greeter`, `table_announcer`: a table of two rows, and one with a broken row.
-/

namespace DesiredState

namespace Text

section Lines

theorem dropFinalReturn_subset (cs : List Char) : dropFinalReturn cs ⊆ cs := by
  rw [dropFinalReturn]
  split
  · exact List.dropLast_subset cs
  · exact List.Subset.refl cs

theorem linesOfChars_eq {cs last : List Char} {pieces : List (List Char)}
    (h : cs.splitOn '\n' = pieces ++ [last]) :
    linesOfChars cs = pieces.map dropFinalReturn ++ if last = [] then [] else [last] := by
  rw [linesOfChars, piecesAtLineFeed_eq_splitOn, h]
  cases last <;> simp

/-- The lines before a line feed and those behind it. -/
theorem linesOfChars_append_lineFeed (cs ds : List Char) :
    linesOfChars (cs ++ '\n' :: ds) =
      (cs.splitOn '\n').map dropFinalReturn ++ linesOfChars ds := by
  have hds := List.dropLast_append_getLast (List.splitOn_ne_nil '\n' ds)
  rw [linesOfChars_eq hds.symm, linesOfChars_eq, List.map_append, List.append_assoc]
  rw [List.splitOn_append_cons_self, List.append_assoc, hds]

theorem lineFeed_not_mem_of_mem_lines {s line : String} (h : line ∈ lines s) :
    '\n' ∉ line.toList := by
  obtain ⟨cs, hmem, rfl⟩ := List.mem_map.mp h
  have hpieces := List.dropLast_append_getLast (List.splitOn_ne_nil '\n' s.toList)
  rw [linesOfChars_eq hpieces.symm, List.mem_append] at hmem
  rw [String.toList_ofList]
  rcases hmem with hended | hlast
  · obtain ⟨piece, hpiece, rfl⟩ := List.mem_map.mp hended
    intro hfeed
    exact not_mem_of_mem_splitOn (List.dropLast_subset _ hpiece)
      (dropFinalReturn_subset piece hfeed)
  · split at hlast
    · cases hlast
    · rw [List.mem_singleton.mp hlast]
      exact not_mem_of_mem_splitOn (List.getLast_mem _)

end Lines

section Rows

variable {rows : List String}

/-- The lines of rows that are closed by a line feed each. -/
theorem lines_join_eq (rows : List String) :
    lines (String.join (rows.map Console.line)) = rows.flatMap fun row =>
      ((row.toList.splitOn '\n').map dropFinalReturn).map String.ofList := by
  induction rows with
  | nil => rfl
  | cons row rest ih =>
      have hchars : (String.join ((row :: rest).map Console.line)).toList =
          row.toList ++ '\n' :: (String.join (rest.map Console.line)).toList := by
        simp [Console.line, String.join_cons]
      rw [lines, hchars, linesOfChars_append_lineFeed, List.map_append, List.flatMap_cons, ← ih]
      rfl

/-- There are as many lines as rows exactly when no row has a line feed. -/
theorem length_lines_join_eq_iff (rows : List String) :
    (lines (String.join (rows.map Console.line))).length = rows.length ↔
      ∀ row ∈ rows, '\n' ∉ row.toList := by
  have hlength : (lines (String.join (rows.map Console.line))).length =
      rows.length + (rows.map fun row => row.toList.count '\n').sum := by
    rw [lines_join_eq]
    induction rows with
    | nil => rfl
    | cons row rest ih =>
        simp only [List.flatMap_cons, List.length_append, List.length_map, ih,
          length_splitOn, List.length_cons, List.map_cons, List.sum_cons]
        omega
  have hsum : (rows.map fun row => row.toList.count '\n').sum = 0 ↔
      ∀ row ∈ rows, '\n' ∉ row.toList := by
    simp [List.sum_eq_zero_iff_forall_eq_nat, List.count_eq_zero]
  rw [hlength, ← hsum]
  omega

/-- Rows without line feeds, none of which ends in a carriage return, are the lines. -/
theorem lines_join (h : ∀ row ∈ rows, '\n' ∉ row.toList ∧ row.toList.getLast? ≠ some '\r') :
    lines (String.join (rows.map Console.line)) = rows := by
  rw [lines_join_eq]
  induction rows with
  | nil => rfl
  | cons row rest ih =>
      obtain ⟨⟨hfeed, hreturn⟩, hrest⟩ := List.forall_mem_cons.mp h
      rw [List.flatMap_cons, ih hrest, List.splitOn_eq_singleton hfeed, List.map_singleton,
        dropFinalReturn, if_neg hreturn]
      simp

end Rows

section Cells

/-- A text that is cut down to its first line is one line. -/
theorem lineFeed_not_mem_firstLine (s : String) : '\n' ∉ (firstLine s).toList := by
  have hlines : ∀ line ∈ lines s, '\n' ∉ line.toList := fun _ => lineFeed_not_mem_of_mem_lines
  unfold firstLine
  split
  · exact List.not_mem_nil
  · rename_i line hline
    exact hlines line (hline ▸ List.mem_cons_self)
  · rename_i line rest _ hline
    have hfirst := hlines line (hline ▸ List.mem_cons_self)
    have hnumber : '\n' ∉ Nat.toDigits 10 rest.length := by
      intro hdigit
      exact absurd (isDigit_of_mem_toDigits hdigit) (by decide)
    simp [hfirst, hnumber]

theorem mem_intercalate_iff {c : Char} {separator : String} (h : c ∉ separator.toList)
    (texts : List String) :
    c ∈ (String.intercalate separator texts).toList ↔ ∃ text ∈ texts, c ∈ text.toList := by
  rw [String.toList_intercalate]
  induction texts with
  | nil => simp
  | cons first rest ih =>
      cases rest with
      | nil => simp
      | cons second rest =>
          rw [List.map_cons, List.map_cons, List.intercalate_cons_cons, List.mem_append,
            List.mem_append, ← List.map_cons, ih]
          simp [h]

end Cells

end Text

section Defs

/-- A key or a value of the mapping has a line feed. -/
def KeyMap.HasLineFeed (entries : KeyMap String) : Prop :=
  ∃ entry ∈ entries.entries, '\n' ∈ entry.1.toList ∨ '\n' ∈ entry.2.toList

instance (entries : KeyMap String) : Decidable entries.HasLineFeed :=
  inferInstanceAs (Decidable (∃ entry ∈ entries.entries, _))

/-- The row of an option, without the line feed that closes it. -/
def Entry.rowText (palette : Console.Palette) (entry : Entry) : String :=
  "  " ++ Console.padRight 22 entry.option.name ++ " " ++
    Console.padRight 32 entry.value.cell ++ " " ++ entry.layer.tag palette

namespace Provenance

/-- The rows of a table. -/
def table (manner : Manner) (config : Config) : String :=
  String.join ((listed manner.quiet config).map (Entry.row manner.palette))

/-- What stands above a table. -/
def header (manner : Manner) (loaded : LoadedNode) (config : Config) : String :=
  manner.palette.title (loaded.name ++ " (" ++ loaded.file.module ++ ")") ++
    manner.palette.pair "state" config.lifecycle.name ++ manner.palette.heading "Options"

end Provenance

end Defs

section Settings

theorem lineFeed_mem_mappingText_iff (entries : KeyMap String) :
    '\n' ∈ (Attribute.mappingText entries).toList ↔ entries.HasLineFeed := by
  have hcomma : '\n' ∉ (", " : String).toList := by decide
  have hpieces := Text.mem_intercalate_iff hcomma
    (entries.entries.map fun entry => entry.1 ++ "=" ++ entry.2)
  simp only [Attribute.mappingText, String.toList_append, List.mem_append, hpieces]
  simp [KeyMap.HasLineFeed]

/-- Only a mapping has a cell with a line feed, and it has one if a key or a value does. -/
theorem lineFeed_mem_cell_iff (setting : Setting) :
    '\n' ∈ setting.cell.toList ↔ ∃ entries, setting = .mapping entries ∧ entries.HasLineFeed := by
  have hscalar := Text.lineFeed_not_mem_firstLine
  cases setting with
  | switch value => cases value <;> simp [Setting.cell, Setting.scalar?, hscalar]
  | text value => cases value <;> simp [Setting.cell, Setting.scalar?, hscalar]
  | mapping entries => simp [Setting.cell, lineFeed_mem_mappingText_iff]

end Settings

section Rows

theorem mem_padRight_iff {c : Char} (hc : c ≠ ' ') (width : Nat) (text : String) :
    c ∈ (Console.padRight width text).toList ↔ c ∈ text.toList := by
  have hblanks : ∀ n, c ∉ ("".pushn ' ' n).toList := by
    intro n
    induction n with
    | zero => exact List.not_mem_nil
    | succ n ih =>
        have hpush : "".pushn ' ' (n + 1) = ("".pushn ' ' n).push ' ' := rfl
        rw [hpush, String.toList_push, List.mem_append, List.mem_singleton]
        exact not_or.mpr ⟨ih, hc⟩
  rw [Console.padRight, String.toList_append, List.mem_append]
  exact or_iff_left (hblanks _)

theorem lineFeed_not_mem_tag (palette : Console.Palette) (layer : Layer) :
    '\n' ∉ (layer.tag palette).toList := by
  obtain ⟨hasColors⟩ := palette
  cases hasColors <;> cases layer <;> decide +kernel

theorem getLast?_tag (palette : Console.Palette) (layer : Layer) :
    ∃ c, (layer.tag palette).toList.getLast? = some c ∧ c ≠ '\r' := by
  obtain ⟨hasColors⟩ := palette
  cases hasColors <;> cases layer <;> exact ⟨_, rfl, by decide⟩

theorem lineFeed_not_mem_name (option : OptionName) : '\n' ∉ option.name.toList := by
  cases option <;> decide +kernel

/-- A row has a line feed of its own exactly when its cell does. -/
theorem lineFeed_mem_rowText_iff (palette : Console.Palette) (entry : Entry) :
    '\n' ∈ (entry.rowText palette).toList ↔ '\n' ∈ entry.value.cell.toList := by
  have hne : '\n' ≠ ' ' := by decide
  simp [Entry.rowText, mem_padRight_iff hne, lineFeed_not_mem_name, lineFeed_not_mem_tag]

theorem getLast?_rowText_ne (palette : Console.Palette) (entry : Entry) :
    (entry.rowText palette).toList.getLast? ≠ some '\r' := by
  obtain ⟨c, hlast, hne⟩ := getLast?_tag palette entry.layer
  rw [Entry.rowText, String.toList_append, List.getLast?_append, hlast]
  simpa using hne

end Rows

section Mapping

theorem OptionName.eq_options_of_kind {option : OptionName} (h : option.kind = .mapping) :
    option = .options := by
  cases option <;> first | rfl | cases h

variable {sources : Sources} {config : Config} {entry : Entry}

/-- The mapping among the settings is that of one option. -/
theorem value_eq_mapping_iff (h : sources.resolve = .ok config) (hmem : entry ∈ config.entries)
    (entries : KeyMap String) :
    entry.value = .mapping entries ↔
      entry.option = .options ∧ config.mapping .options = entries := by
  have hentry := (Sources.mem_entries_iff h entry).mp hmem
  have hnormal := Sources.isNormal_of_entry hentry
  have hfound := (Sources.entry?_eq_some_iff h entry.option entry).mpr hentry
  obtain ⟨option, value, layer⟩ := entry
  dsimp only at hnormal hfound ⊢
  constructor
  · rintro rfl
    have hoption : option = .options := by
      cases hkind : option.kind with
      | mapping => exact OptionName.eq_options_of_kind hkind
      | switch | text | choice =>
          rw [hkind] at hnormal
          exact hnormal.elim
    rw [hoption] at hfound
    exact ⟨hoption, by rw [Config.mapping, hfound]⟩
  · rintro ⟨rfl, rfl⟩
    cases value with
    | switch | text => exact hnormal.elim
    | mapping entries => rw [Config.mapping, hfound]

/-- The default of the mapping is empty. -/
theorem mapping_of_builtIn (h : sources.entry .options = .ok entry)
    (hlayer : entry.layer = .builtIn) : entry.value = .mapping .empty := by
  obtain ⟨_, _, hnormal⟩ := (sources.entry_eq_ok_iff _ _).mp h
  rw [hlayer] at hnormal
  exact (Except.ok.inj hnormal).symm

end Mapping

namespace Provenance

section Tables

variable {sources : Sources} {config : Config}

/-- A table lists an option with a broken cell exactly when the mapping has a line feed. -/
theorem exists_broken_iff (h : sources.resolve = .ok config) (quiet : Bool) :
    (∃ entry ∈ listed quiet config, '\n' ∈ entry.value.cell.toList) ↔
      (config.mapping .options).HasLineFeed := by
  constructor
  · rintro ⟨entry, hlisted, hcell⟩
    obtain ⟨entries, hvalue, hfeed⟩ := (lineFeed_mem_cell_iff entry.value).mp hcell
    have hmem := (List.mem_filter.mp hlisted).1
    rw [((value_eq_mapping_iff h hmem entries).mp hvalue).2]
    exact hfeed
  · intro hfeed
    obtain ⟨entry, hentry⟩ := Sources.exists_entry h .options
    have hoption := ((sources.entry_eq_ok_iff _ _).mp hentry).1
    have hmem := (Sources.mem_entries_iff h entry).mpr (hoption.symm ▸ hentry)
    have hvalue := (value_eq_mapping_iff h hmem _).mpr ⟨hoption, rfl⟩
    refine ⟨entry, List.mem_filter.mpr ⟨hmem, ?_⟩, ?_⟩
    · -- What a quiet table leaves out is empty, so it has no line feed.
      have hlayer : entry.layer ≠ .builtIn := by
        intro hlayer
        rw [mapping_of_builtIn hentry hlayer] at hvalue
        rw [← Setting.mapping.inj hvalue] at hfeed
        obtain ⟨_, hnone, _⟩ := hfeed
        cases hnone
      simp [hlayer]
    · exact (lineFeed_mem_cell_iff entry.value).mpr ⟨_, hvalue, hfeed⟩

theorem table_eq (manner : Manner) (config : Config) :
    table manner config = String.join
      (((listed manner.quiet config).map (Entry.rowText manner.palette)).map Console.line) := by
  rw [table, List.map_map]
  rfl

/-- The table of a mapping without line feeds has a line for each option that it lists, and
no other table has. -/
theorem length_lines_table_iff (h : sources.resolve = .ok config) (manner : Manner) :
    (Text.lines (table manner config)).length = (listed manner.quiet config).length ↔
      ¬ (config.mapping .options).HasLineFeed := by
  have hrows := Text.length_lines_join_eq_iff
    ((listed manner.quiet config).map (Entry.rowText manner.palette))
  rw [List.length_map] at hrows
  rw [table_eq, hrows, ← exists_broken_iff h manner.quiet]
  simp [lineFeed_mem_rowText_iff]

/-- These lines are the rows of the options. -/
theorem lines_table (h : sources.resolve = .ok config) (manner : Manner)
    (hclean : ¬ (config.mapping .options).HasLineFeed) :
    Text.lines (table manner config) =
      (listed manner.quiet config).map (Entry.rowText manner.palette) := by
  rw [table_eq]
  apply Text.lines_join
  intro row hrow
  obtain ⟨entry, hlisted, rfl⟩ := List.mem_map.mp hrow
  refine ⟨?_, getLast?_rowText_ne manner.palette entry⟩
  rw [lineFeed_mem_rowText_iff]
  intro hcell
  exact hclean ((exists_broken_iff h manner.quiet).mp ⟨entry, hlisted, hcell⟩)

/-- The cell of a setting is on one line unless the setting is a mapping that has a line feed
in a key or in a value. So the table of a node has one line for each option that it lists
exactly when the node's mapping has no line feed, and these lines are then the rows of the
options. -/
theorem table_exact (manner : Manner) (input : Path) (loaded : LoadedNode)
    (h : loaded.file.sources.config = .ok config) :
    (∀ setting : Setting, '\n' ∈ setting.cell.toList ↔
        ∃ entries, setting = .mapping entries ∧ entries.HasLineFeed) ∧
      resolveNode manner ⟨input, .text⟩ loaded =
        .after (loaded.file.sources.resolutionTrace.map .record)
          (.succeed [.print (header manner loaded config ++ table manner config ++
            unknownRemark manner.palette loaded.file.unknownParams)]) ∧
      ((Text.lines (table manner config)).length = (listed manner.quiet config).length ↔
        ¬ (config.mapping .options).HasLineFeed) ∧
      (¬ (config.mapping .options).HasLineFeed →
        Text.lines (table manner config) =
          (listed manner.quiet config).map (Entry.rowText manner.palette)) := by
  have hresolve : loaded.file.sources.resolve = .ok config := by
    rw [Sources.config] at h
    split at h
    · cases h
      assumption
    · cases h
  have hprinted : resolveNode manner ⟨input, .text⟩ loaded =
      .after (loaded.file.sources.resolutionTrace.map .record)
        (.succeed [.print (header manner loaded config ++ table manner config ++
          unknownRemark manner.palette loaded.file.unknownParams)]) := by
    rw [resolveNode, h]
    rfl
  exact ⟨lineFeed_mem_cell_iff, hprinted, length_lines_table_iff hresolve manner,
    lines_table hresolve manner⟩

/-- A terminal without colours, and tables without defaults. -/
def plainQuiet : Manner :=
  { palette := ⟨false⟩, quiet := true, verbosity := 0 }

/-- A node with a content of two lines, and a mapping of one line. -/
def greeter : LoadedNode :=
  { path := ⟨"greeter.toml"⟩
    file :=
      { module := "nginx"
        node := none
        templates := none
        facts := .empty
        params := .ofList [("content", .text "one\ntwo"),
          ("options", .mapping [("user", .text "www")])] } }

/-- Its table has two lines, the rows of these two options. -/
theorem table_greeter :
    ∃ config, greeter.file.sources.config = .ok config ∧
      ¬ (config.mapping .options).HasLineFeed ∧
      (Text.lines (table plainQuiet config)).length = 2 ∧
      Text.lines (table plainQuiet config) =
        (listed true config).map (Entry.rowText ⟨false⟩) := by
  have htest : greeter.file.sources.resolve.toOption.any (fun config =>
      ¬ (config.mapping .options).HasLineFeed ∧ (listed true config).length = 2) = true := by
    decide +kernel
  obtain ⟨config, hresolve, htest⟩ := Sources.exists_of_resolve htest
  obtain ⟨hclean, hlisted⟩ := of_decide_eq_true htest
  have hconfig : greeter.file.sources.config = .ok config := by
    rw [Sources.config, hresolve]
  obtain ⟨_, _, hlength, hlines⟩ := table_exact plainQuiet ⟨"greeter.toml"⟩ greeter hconfig
  exact ⟨config, hconfig, hclean, (hlength.mpr hclean).trans hlisted, hlines hclean⟩

/-- A node with a mapping that has a value of two lines. -/
def announcer : LoadedNode :=
  { path := ⟨"announcer.toml"⟩
    file :=
      { module := "nginx"
        node := none
        templates := none
        facts := .empty
        params := .ofList [("options", .mapping [("motd", .text "one\ntwo")])] } }

/-- Its table lists this one option on two lines, as the cell has a line feed. -/
theorem table_announcer :
    '\n' ∈ (Setting.mapping (.ofList [("motd", "one\ntwo")])).cell.toList ∧
      ∃ config, announcer.file.sources.config = .ok config ∧
        (listed true config).length = 1 ∧
        (Text.lines (table plainQuiet config)).length = 2 := by
  have htest : announcer.file.sources.resolve.toOption.any (fun config =>
      (listed true config).length = 1 ∧
        (Text.lines (table plainQuiet config)).length = 2) = true := by
    decide +kernel
  obtain ⟨config, hresolve, htest⟩ := Sources.exists_of_resolve htest
  have hconfig : announcer.file.sources.config = .ok config := by
    rw [Sources.config, hresolve]
  exact ⟨by decide +kernel, config, hconfig, of_decide_eq_true htest⟩

end Tables

end Provenance

end DesiredState
