import DesiredState.Proofs.Graph.Changes
import Mathlib.Data.Finset.Card

/-!
# Changes in the other direction

**Input.** Two graphs, compared in either direction.

**Idea.** The changes are listed along the later graph, and then along what only the
earlier one declares; so the two directions list them in different orders. Yet each
resource has one change at most, which is read off its two declarations, and the
inverse of that change is read off them the other way round.

**Results.**
* `between?_swap`: the change from one declaration to another, and back.
* `perm_changes_inverse`: the changes back are the inverse ones.
* `additions_changes`: what is added are the resources of the later graph alone.
* `size_add_additions`: additions and removals make up for the difference in size.
* `changes_reversed`: both directions and their summaries.
-/

namespace DesiredState

section Defs

/-- What became of a declaration, seen from the later graph. -/
def ChangeKind.inverse : ChangeKind → ChangeKind
  | .added => .removed
  | .removed => .added
  | .modified => .modified

/-- The attribute is changed back. -/
def AttributeChange.inverse (change : AttributeChange) : AttributeChange :=
  { key := change.key, before := change.after, after := change.before }

/-- The change back, of the same resource. -/
def Change.inverse (change : Change) : Change :=
  { ref := change.ref
    kind := change.kind.inverse
    attributes := change.attributes.map AttributeChange.inverse
    notify := change.notify.map Prod.swap }

/-- The classes that are included and left out again. -/
def IncludeChanges.inverse (includes : IncludeChanges) : IncludeChanges :=
  { added := includes.removed, removed := includes.added }

/-- The numbers of the changes back. -/
def ChangeSummary.inverse (summary : ChangeSummary) : ChangeSummary :=
  { additions := summary.removals
    removals := summary.additions
    modifications := summary.modifications
    includesAdded := summary.includesRemoved
    includesRemoved := summary.includesAdded }

end Defs

theorem KeyMap.unionKeys_comm {α : Type} (m n : KeyMap α) : n.unionKeys m = m.unionKeys n := by
  refine congrArg KeyMap.keys (KeyMap.ext_get? ?_)
  intro key
  have hmem : ∀ {p q : KeyMap α}, (KeyMap.ofList ((p.keys ++ q.keys).map fun key =>
      (key, ()))).get? key = some () ↔ p.get? key ≠ none ∨ q.get? key ≠ none := by
    intro p q
    rw [← KeyMap.mem_unionKeys, KeyMap.unionKeys, KeyMap.mem_keys_iff, Option.ne_none_iff_exists']
    constructor
    · intro h
      exact ⟨(), h⟩
    · rintro ⟨_, h⟩
      exact h
  apply Option.ext
  rintro ⟨⟩
  rw [hmem, hmem, or_comm]

namespace Change

section Inverse

theorem inverse_involutive : Function.Involutive Change.inverse := by
  rintro ⟨ref, kind, attributes, notify⟩
  have hkind : kind.inverse.inverse = kind := by cases kind <;> rfl
  have hattributes : (attributes.map AttributeChange.inverse).map AttributeChange.inverse =
      attributes := by
    rw [List.map_map]
    exact List.map_id _
  have hnotify : (notify.map Prod.swap).map Prod.swap = notify := by
    rw [Option.map_map, Prod.swap_swap_eq, Option.map_id_fun]
    rfl
  simp only [inverse, hkind, hattributes, hnotify]

theorem attributeChanges_swap (before after : KeyMap Attribute) :
    attributeChanges after before =
      (attributeChanges before after).map AttributeChange.inverse := by
  rw [attributeChanges, attributeChanges, KeyMap.unionKeys_comm, List.map_filterMap]
  refine List.filterMap_congr ?_
  intro key _
  by_cases hsame : before.get? key = after.get? key
  · rw [if_pos hsame, if_pos hsame.symm]
    rfl
  · rw [if_neg hsame, if_neg (Ne.symm hsame)]
    rfl

theorem ofPair_swap (ref : Ref) (kind : ChangeKind) (before after : Option Declaration) :
    ofPair ref kind.inverse after before = (ofPair ref kind before after).inverse := by
  unfold ofPair inverse
  dsimp only
  rw [attributeChanges_swap (attributesOf before)]
  congr 1
  by_cases hsame : before.bind Declaration.notifies = after.bind Declaration.notifies
  · rw [if_pos hsame, if_pos hsame.symm]
    rfl
  · rw [if_neg hsame, if_neg (Ne.symm hsame)]
    rfl

/-- The change back from one declaration of a resource to another is the inverse one. -/
theorem between?_swap {before after : Option Declaration}
    (hsame : ∀ old new, before = some old → after = some new → old.ref = new.ref) :
    between? after before = (between? before after).map Change.inverse := by
  cases before with
  | none =>
      cases after with
      | none => rfl
      | some new => exact congrArg some (ofPair_swap new.ref .added none (some new))
  | some old =>
      cases after with
      | none => exact congrArg some (ofPair_swap old.ref .removed (some old) none)
      | some new =>
          by_cases heq : old = new
          · simp [between?, heq]
          · rw [between?, between?, if_neg heq, if_neg (Ne.symm heq), ← hsame old new rfl rfl]
            exact congrArg some (ofPair_swap old.ref .modified (some old) (some new))

end Inverse

end Change

namespace Graph

variable (before after : Graph)

section Reversal

theorem mem_changes_swap_iff (change : Change) :
    change ∈ after.changes before ↔ change.inverse ∈ before.changes after := by
  have hsame : ∀ old new, before.get? change.ref = some old → after.get? change.ref = some new →
      old.ref = new.ref := by
    intro old new hold hnew
    exact (before.ref_of_get? hold).trans (after.ref_of_get? hnew).symm
  rw [mem_changes_iff, mem_changes_iff, Change.between?_swap hsame, Option.map_eq_some_iff]
  constructor
  · rintro ⟨forth, hforth, rfl⟩
    rw [Change.inverse_involutive]
    exact hforth
  · intro hforth
    exact ⟨_, hforth, Change.inverse_involutive change⟩

/-- The changes back are the inverse ones, in another order. -/
theorem perm_changes_inverse :
    (after.changes before).Perm ((before.changes after).map Change.inverse) := by
  have hforth : ((before.changes after).map Change.inverse).Nodup :=
    List.Nodup.map Change.inverse_involutive.injective
      (List.Nodup.of_map _ (before.nodup_refs_changes after))
  refine (List.perm_ext_iff_of_nodup (List.Nodup.of_map _ (after.nodup_refs_changes before))
    hforth).mpr ?_
  intro change
  rw [mem_changes_swap_iff, List.mem_map_of_involutive Change.inverse_involutive]

end Reversal

section Balance

/-- The resources that a graph declares. -/
def refs (graph : Graph) : Finset Ref :=
  (graph.resources.map Declaration.ref).toFinset

theorem card_refs (graph : Graph) : graph.refs.card = graph.size := by
  rw [refs, List.toFinset_card_of_nodup graph.resources_nodup, List.length_map]
  rfl

theorem mem_refs_iff (graph : Graph) (ref : Ref) : ref ∈ graph.refs ↔ graph.get? ref ≠ none := by
  rw [refs, List.mem_toFinset, Option.ne_none_iff_exists']
  constructor
  · intro hmem
    obtain ⟨decl, hdecl, rfl⟩ := List.mem_map.mp hmem
    exact ⟨decl, graph.get?_ref hdecl⟩
  · rintro ⟨decl, hdecl⟩
    obtain ⟨hmem, rfl⟩ := (graph.get?_eq_some_iff ref decl).mp hdecl
    exact List.mem_map_of_mem hmem

/-- A resource is added when the later graph declares it and the earlier one does not. -/
theorem exists_addition_iff (ref : Ref) :
    (∃ change ∈ before.changes after, change.kind = .added ∧ change.ref = ref) ↔
      ref ∈ after.refs \ before.refs := by
  rw [Finset.mem_sdiff, mem_refs_iff, mem_refs_iff, not_not]
  constructor
  · rintro ⟨change, hmem, hkind, rfl⟩
    rcases Change.between?_cases ((before.mem_changes_iff after change).mp hmem) with
      ⟨new, hbefore, hafter, rfl⟩ | ⟨old, _, _, rfl⟩ | ⟨old, new, _, _, _, rfl⟩
    · rw [hafter]
      exact ⟨Option.some_ne_none new, hbefore⟩
    · cases hkind
    · cases hkind
  · rintro ⟨hafter, hbefore⟩
    obtain ⟨new, hnew⟩ := Option.ne_none_iff_exists'.mp hafter
    refine ⟨Change.ofPair ref .added none (some new), ?_, rfl, rfl⟩
    have hchange : Change.between? (before.get? ref) (after.get? ref) =
        some (Change.ofPair ref .added none (some new)) := by
      rw [hbefore, hnew, ← after.ref_of_get? hnew]
      rfl
    exact (before.mem_changes_iff after _).mpr hchange

/-- There are as many additions as resources of the later graph alone. -/
theorem additions_changes (includes : IncludeChanges) :
    (ChangeSummary.of (before.changes after) includes).additions =
      (after.refs \ before.refs).card := by
  have hnodup : (((before.changes after).filter fun change => change.kind = .added).map
      Change.ref).Nodup :=
    (before.nodup_refs_changes after).sublist (List.filter_sublist.map _)
  have hrefs : (((before.changes after).filter fun change => change.kind = .added).map
      Change.ref).toFinset = after.refs \ before.refs := by
    ext ref
    rw [← exists_addition_iff, List.mem_toFinset, List.mem_map]
    simp [and_assoc]
  rw [← hrefs, List.toFinset_card_of_nodup hnodup, List.length_map, ← List.countP_eq_length_filter]
  rfl

theorem summary_inverse :
    ChangeSummary.of (after.changes before) (.between after before) =
      (ChangeSummary.of (before.changes after) (.between before after)).inverse := by
  have hperm := before.perm_changes_inverse after
  have hcount : ∀ kind : ChangeKind,
      (after.changes before).countP (fun change => change.kind = kind) =
        (before.changes after).countP fun change => change.kind = kind.inverse := by
    intro kind
    rw [hperm.countP_eq, List.countP_map]
    refine List.countP_congr ?_
    intro change _
    obtain ⟨_, found, _, _⟩ := change
    cases found <;> cases kind <;> simp [Change.inverse, ChangeKind.inverse]
  simp only [ChangeSummary.of, ChangeSummary.inverse, hcount]
  rfl

/-- Additions and removals make up for the difference in size. -/
theorem size_add_additions :
    before.size + (ChangeSummary.of (before.changes after) (.between before after)).additions =
      after.size + (ChangeSummary.of (before.changes after) (.between before after)).removals := by
  have hback := congrArg ChangeSummary.additions (before.summary_inverse after)
  have hremovals : (ChangeSummary.of (before.changes after) (.between before after)).removals =
      (before.refs \ after.refs).card :=
    hback.symm.trans (after.additions_changes before _)
  have hunion : (before.refs \ after.refs).card + after.refs.card =
      (after.refs \ before.refs).card + before.refs.card := by
    rw [Finset.card_sdiff_add_card, Finset.card_sdiff_add_card, Finset.union_comm]
  rw [hremovals, additions_changes, ← card_refs, ← card_refs]
  omega

end Balance

section Summary

/-- The changes back between two graphs are the inverse ones, in another order, and so
are those of the includes. Their numbers are exchanged, additions and removals make up
for the difference in size, and all changes are counted. -/
theorem changes_reversed :
    (after.changes before).Perm ((before.changes after).map Change.inverse) ∧
    IncludeChanges.between after before = (IncludeChanges.between before after).inverse ∧
    ChangeSummary.of (after.changes before) (.between after before) =
      (ChangeSummary.of (before.changes after) (.between before after)).inverse ∧
    before.size + (ChangeSummary.of (before.changes after) (.between before after)).additions =
      after.size + (ChangeSummary.of (before.changes after) (.between before after)).removals ∧
    (ChangeSummary.of (before.changes after) (.between before after)).total =
      (before.changes after).length + ((IncludeChanges.between before after).added.length +
        (IncludeChanges.between before after).removed.length) := by
  refine ⟨before.perm_changes_inverse after, rfl, before.summary_inverse after,
    before.size_add_additions after, ?_⟩
  have hcount := ChangeSummary.count_kinds (before.changes after) (.between before after)
  rw [ChangeSummary.total, hcount, Nat.add_assoc]
  rfl

end Summary

end Graph
end DesiredState
