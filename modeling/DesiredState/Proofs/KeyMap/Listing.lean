import DesiredState.Proofs.KeyMap.Assignment

/-!
# Maps and their entries

**Results.**
* `get?_ofList_eq_some_iff`: the map of a list in which no name comes twice holds
  the entries of the list.
* `ofList_entries`: a map is that of its entries.
-/

namespace DesiredState
namespace KeyMap

universe u

variable {α : Type u}

theorem get?_foldl_insert_eq_some_iff (m : KeyMap α) {es : List (String × α)}
    (h : (es.map Prod.fst).Nodup) (key : String) (value : α) :
    (es.foldl (fun m entry => m.insert entry.1 entry.2) m).get? key = some value ↔
      (key, value) ∈ es ∨ (key ∉ es.map Prod.fst ∧ m.get? key = some value) := by
  induction es generalizing m with
  | nil => simp
  | cons e rest ih =>
      obtain ⟨name, first⟩ := e
      rw [List.map_cons, List.nodup_cons] at h
      rw [List.foldl_cons, ih _ h.2, get?_insert]
      by_cases hkey : key = name
      · subst hkey
        have hrest : (key, value) ∉ rest := fun hmem =>
          h.1 (List.mem_map.mpr ⟨(key, value), hmem, rfl⟩)
        simp [hrest, h.1, eq_comm]
      · simp [hkey]

/-- Where no name comes twice, the map of a list holds what the list lists. -/
theorem get?_ofList_eq_some_iff {es : List (String × α)} (h : (es.map Prod.fst).Nodup)
    (key : String) (value : α) : (ofList es).get? key = some value ↔ (key, value) ∈ es := by
  rw [ofList, get?_foldl_insert_eq_some_iff empty h]
  simp

theorem nodup_keys (m : KeyMap α) : m.keys.Nodup := by
  refine List.pairwise_map.mpr (m.sorted.imp ?_)
  intro a b hlt heq
  rw [heq] at hlt
  exact String.lt_irrefl _ hlt

/-- A map is that of its entries. -/
theorem ofList_entries (m : KeyMap α) : ofList m.entries = m := by
  apply ext_get?
  intro key
  apply Option.ext
  intro value
  rw [get?_ofList_eq_some_iff m.nodup_keys, get?_eq_some_iff]

end KeyMap
end DesiredState
