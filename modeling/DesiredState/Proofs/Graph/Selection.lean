import DesiredState.Proofs.Graph.Targeting

/-!
# What a target selects

**Input.** A graph and the text of a target.

**Rule.** A text without a dot chooses the resources of the kind that it names. What
stands before the first dot may name a kind, and then the rest is searched for in the
identifiers of that kind; if it names none, the whole text is searched for in all
identifiers. A word names a kind between blanks, in any case of its ASCII letters and
with or without a plural `s`.

**Results.**
* `Kind.ofWord?_eq_some_iff`: the words for a kind.
* `Target.covers_ofText_iff`: a target covers the resources that its text chooses.
* `Graph.edges_filter_ref`: a filter by resources keeps the notifications by what it
  keeps.
* `Graph.filterByTarget_exact`: what a graph is cut down to.
-/

namespace DesiredState

section Defs

/-- Between blanks, the word is the name of the kind or its plural, whatever the case of
its ASCII letters. -/
def Kind.IsNamedBy (kind : Kind) (word : String) : Prop :=
  ∃ before core after : List Char, word.toList = before ++ core ++ after ∧
    before.all Text.isBlank = true ∧ after.all Text.isBlank = true ∧
    (core.map Char.toLower = kind.name.toList ∨
      core.map Char.toLower = kind.name.toList ++ ['s'])

/-- The text of a target chooses a resource. -/
inductive Target.Chooses (text : String) (ref : Ref) : Prop
  | kind (undotted : '.' ∉ text.toList) (named : ref.kind.IsNamedBy text)
  | kindWithPart (word part : List Char) (split : text.toList = word ++ '.' :: part)
      (first : '.' ∉ word) (named : ref.kind.IsNamedBy (String.ofList word))
      (occurs : part.IsInfix ref.id.toList)
  | part (word rest : List Char) (split : text.toList = word ++ '.' :: rest)
      (first : '.' ∉ word) (unnamed : ∀ kind : Kind, ¬ kind.IsNamedBy (String.ofList word))
      (occurs : text.toList.IsInfix ref.id.toList)

end Defs

namespace Text

section Trimming

/-- What is trimmed away is blank. -/
theorem exists_trimChars (cs : List Char) :
    ∃ before after, cs = before ++ trimChars cs ++ after ∧
      before.all isBlank = true ∧ after.all isBlank = true := by
  have hfront := List.takeWhile_append_dropWhile (p := isBlank) (l := cs)
  have hback := List.takeWhile_append_dropWhile (p := isBlank)
    (l := (cs.dropWhile isBlank).reverse)
  refine ⟨cs.takeWhile isBlank, ((cs.dropWhile isBlank).reverse.takeWhile isBlank).reverse,
    ?_, List.all_takeWhile, ?_⟩
  · rw [trimChars, List.append_assoc, ← List.reverse_append, hback, List.reverse_reverse, hfront]
  · rw [List.all_reverse]
    exact List.all_takeWhile

/-- Characters between blanks are trimmed free, if none of them is blank. -/
theorem trimChars_between {before core after : List Char} (hbefore : before.all isBlank = true)
    (hafter : after.all isBlank = true) (hcore : ∀ c ∈ core, isBlank c = false) :
    trimChars (before ++ core ++ after) = core := by
  have hfront : (before ++ core ++ after).dropWhile isBlank =
      (core ++ after).dropWhile isBlank := by
    rw [List.append_assoc]
    exact List.dropWhile_append_of_pos (List.all_eq_true.mp hbefore)
  have hback : (after.reverse ++ core.reverse).dropWhile isBlank =
      core.reverse.dropWhile isBlank := by
    refine List.dropWhile_append_of_pos ?_
    intro c hc
    exact List.all_eq_true.mp hafter c (List.mem_reverse.mp hc)
  have hkeep : ∀ {cs : List Char}, (∀ c ∈ cs, isBlank c = false) →
      cs.dropWhile isBlank = cs := by
    intro cs hcs
    cases cs with
    | nil => rfl
    | cons c rest => exact List.dropWhile_cons_of_neg (by simp [hcs c List.mem_cons_self])
  rw [trimChars, hfront]
  cases core with
  | nil =>
      rw [List.nil_append, (dropWhile_eq_nil_iff_all isBlank after).mpr hafter]
      rfl
  | cons c rest =>
      rw [List.cons_append, List.dropWhile_cons_of_neg (by simp [hcore c List.mem_cons_self]),
        ← List.cons_append, List.reverse_append, hback, hkeep, List.reverse_reverse]
      intro d hd
      exact hcore d (List.mem_reverse.mp hd)

/-- A blank character has no case. -/
theorem toLower_of_isBlank {c : Char} (h : isBlank c = true) : c.toLower = c := by
  refine dif_neg ?_
  rintro ⟨hlow, hhigh⟩
  have hlow' : 65 ≤ c.toNat := UInt32.le_iff_toNat_le.mp hlow
  have hhigh' : c.toNat ≤ 90 := UInt32.le_iff_toNat_le.mp hhigh
  simp only [isBlank, blankRanges, List.any_cons, List.any_nil, Bool.or_false,
    Bool.or_eq_true, Bool.and_eq_true, decide_eq_true_eq] at h
  omega

theorem isBlank_of_toLower {cs name : List Char} (h : cs.map Char.toLower = name)
    (hname : ∀ c ∈ name, isBlank c = false) : ∀ c ∈ cs, isBlank c = false := by
  intro c hc
  by_contra hblank
  rw [Bool.not_eq_false] at hblank
  have hmem : c.toLower ∈ name := h ▸ List.mem_map_of_mem hc
  rw [toLower_of_isBlank hblank] at hmem
  rw [hname c hmem] at hblank
  exact Bool.false_ne_true hblank

end Trimming

section Searching

theorem contains_iff_isInfix (whole part : String) :
    contains whole part = true ↔ part.toList.IsInfix whole.toList := by
  rw [contains, occursIn_iff]
  constructor
  · rintro ⟨before, after, h⟩
    exact ⟨before, after, h.symm⟩
  · rintro ⟨before, after, h⟩
    exact ⟨before, after, h.symm⟩

theorem cutChars_eq_none_iff (separator : Char) (cs : List Char) :
    cutChars separator cs = none ↔ separator ∉ cs := by
  induction cs with
  | nil => simp [cutChars]
  | cons c rest ih =>
      by_cases heq : c = separator
      · simp [cutChars, heq]
      · simp [cutChars, heq, Ne.symm heq, ih]

end Searching

end Text

namespace Kind

section Words

variable (kind : Kind)

theorem ofName?_eq_some_iff (name : String) : ofName? name = some kind ↔ kind.name = name := by
  constructor
  · intro h
    simpa using List.find?_some h
  · rintro rfl
    exact ofName?_name kind

/-- No name of a kind ends in an `s`, so that a plural is told from a name. -/
theorem getLast?_name : kind.name.toList.getLast? ≠ some 's' := by
  cases kind <;> decide

theorem isBlank_of_mem_plural : ∀ c ∈ kind.name.toList ++ ['s'], Text.isBlank c = false := by
  have hall : (kind.name.toList ++ ['s']).all (fun c => !Text.isBlank c) = true := by
    cases kind <;> decide
  intro c hc
  exact (Bool.not_eq_true' _).mp (List.all_eq_true.mp hall c hc)

theorem dot_not_mem_name : '.' ∉ kind.name.toList := by
  cases kind <;> decide

theorem dropPlural_eq_name_iff (cs : List Char) :
    dropPlural cs = kind.name.toList ↔
      cs = kind.name.toList ∨ cs = kind.name.toList ++ ['s'] := by
  unfold dropPlural
  split
  · rename_i hlast
    obtain ⟨front, rfl⟩ := List.getLast?_eq_some_iff.mp hlast
    rw [List.dropLast_concat]
    constructor
    · rintro rfl
      exact .inr rfl
    · rintro (hname | hplural)
      · exact absurd (hname ▸ hlast) kind.getLast?_name
      · exact List.append_cancel_right hplural
  · rename_i hlast
    constructor
    · exact .inl
    · rintro (hname | rfl)
      · exact hname
      · exact absurd (by simp) hlast

theorem ofWord?_eq_some_iff (word : String) :
    ofWord? word = some kind ↔ kind.IsNamedBy word := by
  have hlower : (Text.trim word).toLower.toList =
      (Text.trimChars word.toList).map Char.toLower := by
    change ((Text.trim word).map Char.toLower).toList = _
    rw [Text.trim, String.toList_map, String.toList_ofList]
  rw [ofWord?, ofName?_eq_some_iff, ← String.toList_inj, String.toList_ofList, eq_comm,
    dropPlural_eq_name_iff, hlower]
  constructor
  · intro h
    obtain ⟨before, after, hsplit, hbefore, hafter⟩ := Text.exists_trimChars word.toList
    exact ⟨before, _, after, hsplit, hbefore, hafter, h⟩
  · rintro ⟨before, core, after, hsplit, hbefore, hafter, hcore⟩
    have hblank : ∀ c ∈ core, Text.isBlank c = false := by
      rcases hcore with hname | hplural
      · refine Text.isBlank_of_toLower hname ?_
        intro c hc
        exact kind.isBlank_of_mem_plural c (List.mem_append_left _ hc)
      · exact Text.isBlank_of_toLower hplural kind.isBlank_of_mem_plural
    rw [hsplit, Text.trimChars_between hbefore hafter hblank]
    exact hcore

theorem isNamedBy_name : kind.IsNamedBy kind.name := by
  refine ⟨[], kind.name.toList, [], by simp, rfl, rfl, .inl ?_⟩
  cases kind <;> decide

variable {kind} {other : Kind} {word : String}

theorem IsNamedBy.unique (h : kind.IsNamedBy word) (hother : other.IsNamedBy word) :
    other = kind := by
  rw [← ofWord?_eq_some_iff] at h hother
  exact Option.some.inj (hother.symm.trans h)

end Words

end Kind

namespace Target

section Choice

variable (text : String) (ref : Ref)

/-- A target covers the resources that its text chooses. -/
theorem covers_ofText_iff : (ofText text).covers ref = true ↔ Chooses text ref := by
  unfold ofText Text.cut?
  cases hcut : Text.cutChars '.' text.toList with
  | none =>
      have hundotted := (Text.cutChars_eq_none_iff '.' text.toList).mp hcut
      simp only [Option.map_none, covers, decide_eq_true_eq, Kind.ofWord?_eq_some_iff]
      constructor
      · exact .kind hundotted
      · rintro (⟨_, hnamed⟩ | ⟨_, _, hsplit, _⟩ | ⟨_, _, hsplit, _⟩)
        · exact hnamed
        · exact absurd (by simp [hsplit]) hundotted
        · exact absurd (by simp [hsplit]) hundotted
  | some cut =>
      obtain ⟨word, part⟩ := cut
      obtain ⟨hsplit, hfirst⟩ := (Text.cutChars_eq_some_iff _ _ _ _).mp hcut
      have hdot : '.' ∈ text.toList := by simp [hsplit]
      -- The first dot is in one place only.
      have hsame : ∀ {word' part' : List Char}, text.toList = word' ++ '.' :: part' →
          '.' ∉ word' → word' = word ∧ part' = part := by
        intro word' part' hsplit' hfirst'
        have hcut' := (Text.cutChars_eq_some_iff _ _ _ _).mpr ⟨hsplit', hfirst'⟩
        exact Prod.mk.inj (Option.some.inj (hcut'.symm.trans hcut))
      simp only [Option.map_some]
      cases hword : Kind.ofWord? (String.ofList word) with
      | none =>
          have hunnamed : ∀ kind : Kind, ¬ kind.IsNamedBy (String.ofList word) := by
            intro kind hnamed
            rw [← Kind.ofWord?_eq_some_iff, hword] at hnamed
            cases hnamed
          simp only [covers, Text.contains_iff_isInfix]
          constructor
          · exact .part word part hsplit hfirst hunnamed
          · rintro (⟨hundotted, _⟩ | ⟨_, _, hsplit', hfirst', hnamed, _⟩ | ⟨_, _, _, _, _, hocc⟩)
            · exact absurd hdot hundotted
            · obtain ⟨rfl, _⟩ := hsame hsplit' hfirst'
              exact absurd hnamed (hunnamed _)
            · exact hocc
      | some kind =>
          have hnamed := (Kind.ofWord?_eq_some_iff kind _).mp hword
          simp only [covers, Bool.and_eq_true, decide_eq_true_eq,
            Text.contains_iff_isInfix, String.toList_ofList]
          constructor
          · rintro ⟨rfl, hocc⟩
            exact .kindWithPart word part hsplit hfirst hnamed hocc
          · rintro (⟨hundotted, _⟩ | ⟨_, _, hsplit', hfirst', hnamed', hocc⟩ |
              ⟨_, _, hsplit', hfirst', hunnamed, _⟩)
            · exact absurd hdot hundotted
            · obtain ⟨rfl, rfl⟩ := hsame hsplit' hfirst'
              exact ⟨hnamed'.unique hnamed, hocc⟩
            · obtain ⟨rfl, rfl⟩ := hsame hsplit' hfirst'
              exact absurd hnamed (hunnamed kind)

instance : Decidable (Chooses text ref) :=
  decidable_of_iff _ (covers_ofText_iff text ref)

/-- The name of a kind and an identifier, with a dot between them, choose the resource, and
no resource of another kind. -/
theorem chooses_of_name_and_id (other : Ref) :
    Chooses (ref.kind.name ++ "." ++ ref.id) ref ∧
      (Chooses (ref.kind.name ++ "." ++ ref.id) other → other.kind = ref.kind) := by
  have hsplit : (ref.kind.name ++ "." ++ ref.id).toList =
      ref.kind.name.toList ++ '.' :: ref.id.toList := by
    simp
  have hnamed : ref.kind.IsNamedBy (String.ofList ref.kind.name.toList) := by
    rw [String.ofList_toList]
    exact ref.kind.isNamedBy_name
  constructor
  · exact .kindWithPart _ _ hsplit ref.kind.dot_not_mem_name hnamed (List.infix_refl _)
  · intro hother
    rw [← covers_ofText_iff] at hother
    have hcut := (Text.cutChars_eq_some_iff '.' _ _ _).mpr ⟨hsplit, ref.kind.dot_not_mem_name⟩
    have htarget : ofText (ref.kind.name ++ "." ++ ref.id) =
        .ofKindWithPart ref.kind (String.ofList ref.id.toList) := by
      rw [ofText, Text.cut?, hcut]
      simp only [Option.map_some, (Kind.ofWord?_eq_some_iff ref.kind _).mpr hnamed]
    rw [htarget, covers, Bool.and_eq_true, decide_eq_true_eq] at hother
    exact hother.1.symm

end Choice

end Target

namespace Graph

section Selection

variable (graph : Graph)

/-- A filter by resources keeps the notifications by those that it keeps. -/
theorem edges_filter_ref (keep : Ref → Bool) :
    (graph.filter fun decl => keep decl.ref).edges =
      graph.edges.filter fun edge => keep edge.source := by
  rw [edges, edges, filter, List.filterMap_filter, List.filter_filterMap]
  refine List.filterMap_congr ?_
  intro decl _
  cases decl.notifies <;> cases hkeep : keep decl.ref <;> simp [Option.filter, hkeep]

theorem exists_of_mem_edges {edge : Edge} (h : edge ∈ graph.edges) :
    ∃ decl ∈ graph.resources, decl.ref = edge.source := by
  obtain ⟨decl, hmem, hedge⟩ := List.mem_filterMap.mp h
  obtain ⟨target, _, rfl⟩ := Option.map_eq_some_iff.mp hedge
  exact ⟨decl, hmem, rfl⟩

theorem filterByTarget_eq_chooses (text : String) :
    graph.filterByTarget (some text) =
      graph.filter fun decl => decide (Target.Chooses text decl.ref) := by
  rw [filterByTarget_eq]
  congr 1
  funext decl
  rw [Bool.eq_iff_iff, decide_eq_true_iff]
  exact Target.covers_ofText_iff text decl.ref

theorem edges_filterByTarget (text : String) :
    (graph.filterByTarget (some text)).edges =
      graph.edges.filter fun edge =>
        edge.source ∈ (graph.filterByTarget (some text)).resources.map Declaration.ref := by
  rw [filterByTarget_eq_chooses, edges_filter_ref graph fun ref => decide (Target.Chooses text ref)]
  refine List.filter_congr ?_
  intro edge hedge
  obtain ⟨decl, hmem, hsource⟩ := graph.exists_of_mem_edges hedge
  rw [decide_eq_decide, ← hsource, List.mem_map]
  constructor
  · intro hchosen
    exact ⟨decl, List.mem_filter.mpr ⟨hmem, decide_eq_true hchosen⟩, rfl⟩
  · rintro ⟨kept, hkept, href⟩
    rw [← href]
    exact of_decide_eq_true (List.mem_filter.mp hkept).2

theorem filter_comm (keep other : Declaration → Bool) :
    (graph.filter keep).filter other = (graph.filter other).filter keep := by
  simp only [filter, List.filter_filter, Bool.and_comm]

/-- A target cuts a graph down to the declarations of the resources that its text chooses,
in their order, and to the notifications by these. All else stays. The name of a kind and
the identifier of a declaration keep it and nothing of another kind, and it does not matter
which of two targets comes first. -/
theorem filterByTarget_exact :
    (∀ text, (graph.filterByTarget (some text)).resources =
        graph.resources.filter (fun decl => Target.Chooses text decl.ref) ∧
      (graph.filterByTarget (some text)).module = graph.module ∧
      (graph.filterByTarget (some text)).state = graph.state ∧
      (graph.filterByTarget (some text)).includes = graph.includes ∧
      (graph.filterByTarget (some text)).edges = graph.edges.filter fun edge =>
        edge.source ∈ (graph.filterByTarget (some text)).resources.map Declaration.ref) ∧
    (∀ decl ∈ graph.resources,
      decl ∈ (graph.filterByTarget (some (decl.kind.name ++ "." ++ decl.id))).resources ∧
      ∀ kept ∈ (graph.filterByTarget (some (decl.kind.name ++ "." ++ decl.id))).resources,
        kept.kind = decl.kind) ∧
    (∀ target other, (graph.filterByTarget target).filterByTarget other =
      (graph.filterByTarget other).filterByTarget target) := by
  refine ⟨?_, ?_, ?_⟩
  · intro text
    refine ⟨?_, rfl, rfl, rfl, graph.edges_filterByTarget text⟩
    rw [filterByTarget_eq_chooses]
    rfl
  · intro decl hmem
    have hchosen := Target.chooses_of_name_and_id decl.ref
    rw [filterByTarget_eq_chooses]
    constructor
    · exact List.mem_filter.mpr ⟨hmem, decide_eq_true (hchosen decl.ref).1⟩
    · intro kept hkept
      exact (hchosen kept.ref).2 (of_decide_eq_true (List.mem_filter.mp hkept).2)
  · intro target other
    cases target with
    | none => rfl
    | some text =>
        cases other with
        | none => rfl
        | some text' => exact graph.filter_comm _ _

/-- A graph with a file whose identifier has dots in it and begins like a kind. -/
def dotted : Graph :=
  ((new "web" .installed).push ⟨.service, "web", .empty, none⟩).push
    ⟨.file, "service.d/web.conf", .empty, some ⟨.service, "web"⟩⟩

/-- The name of its kind and its identifier choose that file only, with its notification. -/
theorem filterByTarget_dotted :
    (⟨.file, "service.d/web.conf", .empty, some ⟨.service, "web"⟩⟩ : Declaration) ∈
        dotted.resources ∧
      (∀ kept ∈ (dotted.filterByTarget (some "file.service.d/web.conf")).resources,
        kept.kind = .file) ∧
      (dotted.filterByTarget (some "file.service.d/web.conf")).edges =
        dotted.edges.filter fun edge => edge.source ∈
          (dotted.filterByTarget (some "file.service.d/web.conf")).resources.map
            Declaration.ref := by
  have hmem : (⟨.file, "service.d/web.conf", .empty, some ⟨.service, "web"⟩⟩ : Declaration) ∈
      dotted.resources := by
    decide
  obtain ⟨hexact, hnamed, _⟩ := dotted.filterByTarget_exact
  exact ⟨hmem, (hnamed _ hmem).2, (hexact _).2.2.2.2⟩

/-- A plural between blanks names a kind, a word for another kind does not choose the file,
and a word for no kind belongs to the identifier. -/
example :
    Target.Chooses " Files .d/" ⟨.file, "service.d/web.conf"⟩ ∧
      ¬ Target.Chooses "service.d" ⟨.file, "service.d/web.conf"⟩ ∧
      Target.Chooses "web.conf" ⟨.file, "service.d/web.conf"⟩ := by
  decide +kernel

end Selection

end Graph
end DesiredState
