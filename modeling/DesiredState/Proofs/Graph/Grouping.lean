import DesiredState.Proofs.Graph.Changes
import DesiredState.Report.Plan
import Mathlib.Data.List.Induction

/-!
# Changes by the kinds of their resources

**Input.** The changes between two graphs, which a plan shows in sections, one for each
kind of resource.

**Idea.** The group of a kind is the list of changes cut down to that kind. A list in
the order of the kinds is made up of such groups, and a stable sort leaves each of them
as it was; so the groups, one after another, are the sorted list. Taken one by one, each
change goes behind the others of its kind, and the first of its kind opens a group
between those of the kinds before and after it: this keeps the groups those of the
changes so far.

**Results.**
* `flatMap_filter_of_sorted`: a sorted list is made up of its groups.
* `filter_mergeSort_kindLe`: a stable sort leaves the changes of a kind as they were.
* `file_groupsOf`: one more change among the groups, and `foldl_file`: all of them.
* `groupByKind_exact`: the groups of the changes between two graphs, and how many
  entries the sections of a plan have.
-/

namespace DesiredState

section Defs

/-- The place of a kind among the kinds. -/
def Kind.rank (kind : Kind) : Nat :=
  Kind.all.idxOf kind

namespace Change

/-- The kind of a change's resource does not come after that of another one. -/
def kindLe (a b : Change) : Bool :=
  a.ref.kind.rank ≤ b.ref.kind.rank

/-- The changes of the resources of one kind. -/
def ofKind (changes : List Change) (kind : Kind) : List Change :=
  changes.filter fun change => change.ref.kind = kind

/-- The groups of some kinds that have changes. -/
def groupsOf (kinds : List Kind) (changes : List Change) : List (Kind × List Change) :=
  kinds.filterMap fun kind =>
    match ofKind changes kind with
    | [] => none
    | group => some (kind, group)

/-- Put a change behind the others of its kind; the first one of a kind opens a group in
the place of that kind. -/
def file (change : Change) : List (Kind × List Change) → List (Kind × List Change)
  | [] => [(change.ref.kind, [change])]
  | (kind, group) :: rest =>
      if change.ref.kind = kind then (kind, group ++ [change]) :: rest
      else if change.ref.kind.rank < kind.rank then
        (change.ref.kind, [change]) :: (kind, group) :: rest
      else (kind, group) :: file change rest

end Change

/-- How many changes of a kind are counted. -/
def ChangeSummary.number (summary : ChangeSummary) : ChangeKind → Nat
  | .added => summary.additions
  | .removed => summary.removals
  | .modified => summary.modifications

/-- The sections of a plan: the title of each, and its entries. -/
def Plan.sections (palette : Console.Palette) (quiet : Bool) (changes : List Change) :
    List (String × List String) :=
  (Change.groupByKind changes).map fun group =>
    (group.1.title, group.2.map (Change.text palette quiet))

end Defs

theorem Kind.pairwise_all : Kind.all.Pairwise fun a b => a.rank < b.rank := by
  decide

namespace Change

variable {changes : List Change} {kinds : List Kind} {kind : Kind} {change : Change}

section Groups

theorem groupByKind_eq_groupsOf (changes : List Change) :
    groupByKind changes = groupsOf Kind.all changes :=
  rfl

theorem groupsOf_cons_of_nil (h : ofKind changes kind = []) :
    groupsOf (kind :: kinds) changes = groupsOf kinds changes := by
  rw [groupsOf, List.filterMap_cons, h]
  rfl

theorem groupsOf_cons_of_ne_nil (h : ofKind changes kind ≠ []) :
    groupsOf (kind :: kinds) changes =
      (kind, ofKind changes kind) :: groupsOf kinds changes := by
  obtain ⟨first, rest, hgroup⟩ := List.exists_cons_of_ne_nil h
  rw [groupsOf, List.filterMap_cons, hgroup]
  rfl

theorem mem_groupsOf_iff (kinds : List Kind) (changes : List Change)
    (group : Kind × List Change) :
    group ∈ groupsOf kinds changes ↔
      group.1 ∈ kinds ∧ group.2 ≠ [] ∧ group.2 = ofKind changes group.1 := by
  obtain ⟨kind, items⟩ := group
  rw [groupsOf, List.mem_filterMap]
  constructor
  · rintro ⟨found, hmem, h⟩
    split at h
    · cases h
    · rename_i hne
      cases h
      exact ⟨hmem, hne, rfl⟩
  · rintro ⟨hmem, hne, hgroup⟩
    dsimp only at hgroup
    subst hgroup
    refine ⟨kind, hmem, ?_⟩
    split
    · rename_i hnil
      exact absurd hnil hne
    · rfl

/-- The groups, one after another, are the changes of one kind after those of another. -/
theorem flatMap_groupsOf (kinds : List Kind) (changes : List Change) :
    (groupsOf kinds changes).flatMap Prod.snd = kinds.flatMap (ofKind changes) := by
  induction kinds with
  | nil => rfl
  | cons kind rest ih =>
      rw [List.flatMap_cons, ← ih]
      by_cases h : ofKind changes kind = []
      · rw [groupsOf_cons_of_nil h, h, List.nil_append]
      · rw [groupsOf_cons_of_ne_nil h, List.flatMap_cons]

theorem sublist_map_fst_groupsOf (kinds : List Kind) (changes : List Change) :
    ((groupsOf kinds changes).map Prod.fst).Sublist kinds := by
  induction kinds with
  | nil => exact List.Sublist.slnil
  | cons kind rest ih =>
      by_cases h : ofKind changes kind = []
      · rw [groupsOf_cons_of_nil h]
        exact ih.cons kind
      · rw [groupsOf_cons_of_ne_nil h]
        exact ih.cons_cons kind

end Groups

section Sorting

theorem kindLe_iff (a b : Change) : kindLe a b = true ↔ a.ref.kind.rank ≤ b.ref.kind.rank :=
  decide_eq_true_iff

theorem kindLe_trans (a b c : Change) (hab : kindLe a b = true) (hbc : kindLe b c = true) :
    kindLe a c = true := by
  rw [kindLe_iff] at *
  omega

theorem kindLe_total (a b : Change) : (kindLe a b || kindLe b a) = true := by
  rw [Bool.or_eq_true, kindLe_iff, kindLe_iff]
  omega

/-- A list falls into what satisfies a condition and what does not, if the former comes
first. -/
theorem filter_append_filter_not {keep : Change → Bool}
    (h : changes.Pairwise fun a b => keep b = true → keep a = true) :
    changes.filter keep ++ changes.filter (fun change => !keep change) = changes := by
  induction changes with
  | nil => rfl
  | cons first rest ih =>
      obtain ⟨hfirst, hrest⟩ := List.pairwise_cons.mp h
      cases hkeep : keep first with
      | true => simp [hkeep, ih hrest]
      | false =>
          have hnone : ∀ change ∈ rest, keep change = false := by
            intro change hmem
            rw [Bool.eq_false_iff]
            intro hyes
            rw [hfirst change hmem hyes] at hkeep
            cases hkeep
          have hdropped : rest.filter keep = [] := by
            rw [List.filter_eq_nil_iff]
            simpa using hnone
          have hkept : rest.filter (fun change => !keep change) = rest := by
            rw [List.filter_eq_self]
            simpa using hnone
          simp [hkeep, hdropped, hkept]

/-- A list in the order of some kinds is made up of its groups. -/
theorem flatMap_filter_of_sorted (hkinds : kinds.Pairwise fun a b => a.rank < b.rank)
    (hsorted : changes.Pairwise fun a b => kindLe a b = true)
    (hmem : ∀ change ∈ changes, change.ref.kind ∈ kinds) :
    kinds.flatMap (ofKind changes) = changes := by
  induction kinds generalizing changes with
  | nil =>
      rw [List.eq_nil_iff_forall_not_mem.mpr fun change h => List.not_mem_nil (hmem change h)]
      rfl
  | cons kind rest ih =>
      obtain ⟨hfirst, hrest⟩ := List.pairwise_cons.mp hkinds
      have hne : kind ∉ rest := by
        intro h
        exact absurd (hfirst kind h) (Nat.lt_irrefl _)
      -- Whatever is not of the first kind is left to the others.
      have hothers : rest.flatMap (ofKind changes) =
          changes.filter fun change => !decide (change.ref.kind = kind) := by
        rw [← ih hrest (hsorted.filter fun change => !decide (change.ref.kind = kind)) ?_]
        · refine List.flatMap_congr ?_
          intro other hother
          rw [ofKind, ofKind, List.filter_filter]
          refine List.filter_congr ?_
          intro change _
          by_cases heq : change.ref.kind = other
          · have hdiff : change.ref.kind ≠ kind := by
              rintro rfl
              exact hne (heq ▸ hother)
            simp [heq, heq ▸ hdiff]
          · simp [heq]
        · intro change hchange
          obtain ⟨hall, hdiff⟩ := List.mem_filter.mp hchange
          rcases List.mem_cons.mp (hmem change hall) with heq | hother
          · simp [heq] at hdiff
          · exact hother
      rw [List.flatMap_cons, hothers]
      refine filter_append_filter_not (hsorted.imp_of_mem ?_)
      intro a b ha _ hle hb
      rw [kindLe_iff, of_decide_eq_true hb] at hle
      rcases List.mem_cons.mp (hmem a ha) with heq | hother
      · exact decide_eq_true heq
      · exact absurd (hfirst _ hother) (by omega)

/-- A stable sort by the order of kinds leaves the changes of a kind as they were. -/
theorem filter_mergeSort_kindLe (changes : List Change) (kind : Kind) :
    ofKind (changes.mergeSort kindLe) kind = ofKind changes kind := by
  have halike : (ofKind changes kind).Pairwise fun a b => kindLe a b = true := by
    refine List.pairwise_filter.mpr (List.pairwise_of_forall ?_)
    intro a b ha hb
    have hsame := (of_decide_eq_true ha).trans (of_decide_eq_true hb).symm
    exact (kindLe_iff a b).mpr (Nat.le_of_eq (congrArg Kind.rank hsame))
  have hsublist : (ofKind changes kind).Sublist (changes.mergeSort kindLe) :=
    List.sublist_mergeSort kindLe_trans kindLe_total halike List.filter_sublist
  have hkept := hsublist.filter fun change => decide (change.ref.kind = kind)
  rw [ofKind, List.filter_filter] at hkept
  simp only [Bool.and_self] at hkept
  refine (hkept.eq_of_length ?_).symm
  exact ((List.mergeSort_perm changes kindLe).filter _).length_eq.symm

/-- The groups, one after another, are the sorted changes. -/
theorem flatMap_groupByKind (changes : List Change) :
    (groupByKind changes).flatMap Prod.snd = changes.mergeSort kindLe := by
  rw [groupByKind_eq_groupsOf, flatMap_groupsOf]
  have hsorted : Kind.all.flatMap (ofKind (changes.mergeSort kindLe)) =
      changes.mergeSort kindLe :=
    flatMap_filter_of_sorted Kind.pairwise_all
      (List.pairwise_mergeSort kindLe_trans kindLe_total changes)
      fun change _ => change.ref.kind.mem_all
  rw [← hsorted]
  exact List.flatMap_congr fun kind _ => (filter_mergeSort_kindLe changes kind).symm

end Sorting

section Filing

theorem ofKind_append_singleton (changes : List Change) (change : Change) (kind : Kind) :
    ofKind (changes ++ [change]) kind =
      if change.ref.kind = kind then ofKind changes kind ++ [change]
      else ofKind changes kind := by
  rw [ofKind, List.filter_append, List.filter_singleton]
  split <;> simp_all [ofKind]

theorem groupsOf_append_of_not_mem (h : change.ref.kind ∉ kinds) :
    groupsOf kinds (changes ++ [change]) = groupsOf kinds changes := by
  refine List.filterMap_congr ?_
  intro kind hkind
  have hne : change.ref.kind ≠ kind := by
    rintro rfl
    exact h hkind
  rw [ofKind_append_singleton, if_neg hne]

/-- The first change of a kind before all others opens a group at the front. -/
theorem file_of_lt {groups : List (Kind × List Change)}
    (h : ∀ group ∈ groups, change.ref.kind.rank < group.1.rank) :
    file change groups = (change.ref.kind, [change]) :: groups := by
  cases groups with
  | nil => rfl
  | cons group rest =>
      obtain ⟨kind, items⟩ := group
      have hlt : change.ref.kind.rank < kind.rank := h _ List.mem_cons_self
      have hne : change.ref.kind ≠ kind := by
        rintro rfl
        exact absurd hlt (Nat.lt_irrefl _)
      rw [file, if_neg hne, if_pos hlt]

/-- One more change among the groups. -/
theorem file_groupsOf (hkinds : kinds.Pairwise fun a b => a.rank < b.rank)
    (hmem : change.ref.kind ∈ kinds) :
    file change (groupsOf kinds changes) = groupsOf kinds (changes ++ [change]) := by
  induction kinds with
  | nil => cases hmem
  | cons kind rest ih =>
      obtain ⟨hfirst, hrest⟩ := List.pairwise_cons.mp hkinds
      by_cases heq : change.ref.kind = kind
      · subst heq
        have hother : change.ref.kind ∉ rest := fun h => absurd (hfirst _ h) (Nat.lt_irrefl _)
        have hgroup : ofKind (changes ++ [change]) change.ref.kind =
            ofKind changes change.ref.kind ++ [change] := by
          rw [ofKind_append_singleton, if_pos rfl]
        have hne : ofKind (changes ++ [change]) change.ref.kind ≠ [] := by simp [hgroup]
        rw [groupsOf_cons_of_ne_nil hne, groupsOf_append_of_not_mem hother, hgroup]
        by_cases hnil : ofKind changes change.ref.kind = []
        · rw [groupsOf_cons_of_nil hnil, hnil, List.nil_append]
          refine file_of_lt ?_
          intro group hgroup
          exact hfirst _ ((mem_groupsOf_iff _ _ _).mp hgroup).1
        · rw [groupsOf_cons_of_ne_nil hnil, file, if_pos rfl]
      · have hlater : change.ref.kind ∈ rest := (List.mem_cons.mp hmem).resolve_left heq
        have hsame : ofKind (changes ++ [change]) kind = ofKind changes kind := by
          rw [ofKind_append_singleton, if_neg heq]
        by_cases hnil : ofKind changes kind = []
        · rw [groupsOf_cons_of_nil hnil, groupsOf_cons_of_nil (hsame.trans hnil)]
          exact ih hrest hlater
        · rw [groupsOf_cons_of_ne_nil hnil, groupsOf_cons_of_ne_nil (hsame ▸ hnil), hsame, file,
            if_neg heq, if_neg (Nat.lt_asymm (hfirst _ hlater)), ih hrest hlater]

/-- Put one by one where they belong, the changes make up the groups. -/
theorem foldl_file (changes : List Change) :
    changes.foldl (fun groups change => file change groups) [] = groupByKind changes := by
  induction changes using List.reverseRecOn with
  | nil => rfl
  | append_singleton changes change ih =>
      rw [List.foldl_append, ih, List.foldl_cons, List.foldl_nil, groupByKind_eq_groupsOf,
        file_groupsOf Kind.pairwise_all change.ref.kind.mem_all]
      rfl

/-- A package is put before two services that keep their order. -/
example :
    (groupByKind [⟨⟨.service, "web"⟩, .added, [], none⟩, ⟨⟨.package, "web"⟩, .removed, [], none⟩,
      ⟨⟨.service, "cache"⟩, .removed, [], none⟩]).map
        (fun group => (group.1, group.2.map fun change => change.ref.id)) =
      [(.package, ["web"]), (.service, ["web", "cache"])] := by
  decide

end Filing

end Change

section Plans

theorem ChangeSummary.number_of (changes : List Change) (includes : IncludeChanges)
    (kind : ChangeKind) :
    (of changes includes).number kind = changes.countP fun change => change.kind = kind := by
  cases kind <;> rfl

/-- A plan that is not empty prints its sections before its includes and its count. -/
theorem Plan.changesText_eq_sections (palette : Console.Palette) (quiet : Bool)
    (before after : Graph) :
    changesText palette quiet before after =
      if (ChangeSummary.of (before.changes after) (.between before after)).hasChanges then
        String.join ((sections palette quiet (before.changes after)).map fun part =>
            palette.heading part.1 ++ String.join part.2) ++
          (IncludeChanges.between before after).text palette ++
          countText palette (.of (before.changes after) (.between before after))
            (.between before after)
      else Console.line "" ++ palette.success "No changes" := by
  rw [sections, List.map_map]
  rfl

/-- The entries of the sections, one after another, are those of the sorted changes. -/
theorem Plan.flatMap_sections (palette : Console.Palette) (quiet : Bool)
    (changes : List Change) :
    (sections palette quiet changes).flatMap Prod.snd =
      (changes.mergeSort Change.kindLe).map (Change.text palette quiet) := by
  rw [← Change.flatMap_groupByKind, List.map_flatMap, sections, List.flatMap_map]

end Plans

/-- The changes between two graphs are grouped by putting one after another where it
belongs. The groups, one after another, are the stable sort of the changes by kind; the
kinds come in their order, and a group is not empty and holds the changes of its kind in
their order, so that every change is there once. A plan prints these groups as its
sections, and so has as many entries as it announces. -/
theorem Graph.groupByKind_exact (before after : Graph) :
    let changes := before.changes after
    let groups := Change.groupByKind changes
    let entries := groups.flatMap Prod.snd
    let counts := ChangeSummary.of changes (.between before after)
    groups = changes.foldl (fun groups change => change.file groups) [] ∧
    entries = changes.mergeSort Change.kindLe ∧
    (groups.map Prod.fst).Pairwise (fun a b => a.rank < b.rank) ∧
    (∀ kind group, (kind, group) ∈ groups ↔
      group ≠ [] ∧ group = changes.filter fun change => change.ref.kind = kind) ∧
    (∀ change, entries.count change = if change ∈ changes then 1 else 0) ∧
    (∀ kind, entries.countP (fun change => change.kind = kind) = counts.number kind) ∧
    ∀ palette quiet,
      (Plan.sections palette quiet changes).flatMap Prod.snd =
        entries.map (Change.text palette quiet) ∧
      ((Plan.sections palette quiet changes).flatMap Prod.snd).length =
        counts.additions + counts.modifications + counts.removals ∧
      Plan.changesText palette quiet before after =
        if counts.hasChanges then
          String.join ((Plan.sections palette quiet changes).map fun part =>
              palette.heading part.1 ++ String.join part.2) ++
            (IncludeChanges.between before after).text palette ++
            Plan.countText palette counts (.between before after)
        else Console.line "" ++ palette.success "No changes" := by
  intro changes groups entries counts
  have hentries : entries = changes.mergeSort Change.kindLe := Change.flatMap_groupByKind changes
  have hperm : entries.Perm changes := hentries ▸ List.mergeSort_perm changes Change.kindLe
  have honce : changes.Nodup := List.Nodup.of_map _ (before.nodup_refs_changes after)
  refine ⟨(Change.foldl_file changes).symm, hentries, ?_, ?_, ?_, ?_, ?_⟩
  · exact Kind.pairwise_all.sublist (Change.sublist_map_fst_groupsOf Kind.all changes)
  · intro kind group
    rw [show groups = Change.groupsOf Kind.all changes from rfl, Change.mem_groupsOf_iff]
    exact ⟨fun h => h.2, fun h => ⟨kind.mem_all, h⟩⟩
  · intro change
    rw [hperm.count_eq]
    split
    · rename_i hmem
      exact List.count_eq_one_of_mem honce hmem
    · rename_i hmem
      exact List.count_eq_zero_of_not_mem hmem
  · intro kind
    rw [hperm.countP_eq, ChangeSummary.number_of]
  · intro palette quiet
    have hsections := (Plan.flatMap_sections palette quiet changes).trans
      (congrArg (List.map (Change.text palette quiet)) hentries.symm)
    have hcount : counts.additions + counts.removals + counts.modifications = changes.length :=
      ChangeSummary.count_kinds changes _
    refine ⟨hsections, ?_, Plan.changesText_eq_sections palette quiet before after⟩
    rw [hsections, List.length_map, hperm.length_eq]
    omega

end DesiredState
