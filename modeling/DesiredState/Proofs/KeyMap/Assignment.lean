import DesiredState.Graph.Change
import Mathlib.Data.List.Nodup

/-!
# Assignments to maps

**Operation.** An assignment sets the value under a name, or deletes it when
there is none to set.

**Results.**
* `get?_assign`: an assignment is seen under its own name and nowhere else.
* `get?_foldl_insertSome`: of the inserted values the last one counts.
* `mem_unionKeys`: the names of two maps are those under which one of them has
  a value.
-/

namespace DesiredState
namespace KeyMap

universe u

variable {α : Type u}

section Defs

/-- The map without a name. -/
def erase (m : KeyMap α) (key : String) : KeyMap α :=
  m.filter fun other _ => other ≠ key

/-- The map with a value under a name, or without the name. -/
def assign (m : KeyMap α) (key : String) (value : Option α) : KeyMap α :=
  match value with
  | none => m.erase key
  | some value => m.insert key value

end Defs

section Lookup

theorem get?_erase (m : KeyMap α) (key other : String) :
    (m.erase key).get? other = if other = key then none else m.get? other := by
  rw [erase, get?_filter]
  by_cases h : other = key
  · cases m.get? other <;> simp [h]
  · cases m.get? other <;> simp [h]

/-- An assignment is seen under its own name and nowhere else. -/
theorem get?_assign (m : KeyMap α) (key other : String) (value : Option α) :
    (m.assign key value).get? other =
      if other = key then value else m.get? other := by
  cases value with
  | none => exact get?_erase m key other
  | some value => exact get?_insert m key other value

/-- Of the values that are inserted under a name the last one counts, and the
older one where there is none. -/
theorem get?_foldl_insertSome (m : KeyMap α) (es : List (String × Option α)) (key : String) :
    (es.foldl (fun m entry => m.insertSome entry.1 entry.2) m).get? key =
      ((es.foldl (fun m entry => m.insertSome entry.1 entry.2) empty).get? key).or
        (m.get? key) := by
  induction es generalizing m with
  | nil => rfl
  | cons e rest ih =>
      rw [List.foldl_cons, List.foldl_cons, ih, ih (empty.insertSome e.1 e.2),
        Option.or_assoc, get?_insertSome, get?_insertSome, get?_empty]
      by_cases h : key = e.1
      · simp [h]
      · simp [h]

end Lookup

section Names

/-- The names of a map are those under which it has a value. -/
theorem mem_keys_iff (m : KeyMap α) (key : String) :
    key ∈ m.keys ↔ m.get? key ≠ none := by
  rw [keys, List.mem_map, Option.ne_none_iff_exists']
  constructor
  · rintro ⟨⟨name, value⟩, hmem, rfl⟩
    exact ⟨value, (get?_eq_some_iff m name value).mpr hmem⟩
  · rintro ⟨value, hvalue⟩
    exact ⟨(key, value), (get?_eq_some_iff m key value).mp hvalue, rfl⟩

theorem mem_keys_insert (m : KeyMap α) (name : String) (value : α)
    (key : String) :
    key ∈ (m.insert name value).keys ↔ key = name ∨ key ∈ m.keys := by
  rw [mem_keys_iff, mem_keys_iff, get?_insert]
  by_cases h : key = name
  · simp [h]
  · simp [h]

theorem mem_keys_foldl_insert (m : KeyMap α) (es : List (String × α))
    (key : String) :
    key ∈ (es.foldl (fun m entry => m.insert entry.1 entry.2) m).keys ↔
      key ∈ m.keys ∨ key ∈ es.map Prod.fst := by
  induction es generalizing m with
  | nil => simp
  | cons e rest ih =>
      rw [List.foldl_cons, ih, mem_keys_insert, List.map_cons, List.mem_cons]
      tauto

/-- The names of the map of a list are those of the list. -/
theorem mem_keys_ofList (es : List (String × α)) (key : String) :
    key ∈ (ofList es).keys ↔ key ∈ es.map Prod.fst := by
  rw [ofList, mem_keys_foldl_insert]
  simp [keys, empty]

theorem mem_unionKeys {α β : Type} (m : KeyMap α) (n : KeyMap β) (key : String) :
    key ∈ m.unionKeys n ↔ m.get? key ≠ none ∨ n.get? key ≠ none := by
  rw [unionKeys, mem_keys_ofList, List.map_map, ← mem_keys_iff, ← mem_keys_iff,
    ← List.mem_append]
  simp

end Names

end KeyMap
end DesiredState
