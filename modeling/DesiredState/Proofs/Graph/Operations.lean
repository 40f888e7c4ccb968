import DesiredState.Graph.Basic

/-!
# What operations do to a graph

**Results.**
* `resources_foldl_push`: declarations of new resources are put at the end.
* `foldl_push_other`, `addInclude_other`: what an operation leaves alone.
* `includes_addInclude`: a new class is put at the end.
-/

namespace DesiredState
namespace Graph

theorem put_of_not_mem {decl : Declaration} {ds : List Declaration}
    (h : decl.ref ∉ ds.map Declaration.ref) : put decl ds = ds ++ [decl] := by
  induction ds with
  | nil => rfl
  | cons d rest ih =>
      rw [List.map_cons, List.mem_cons, not_or] at h
      rw [put, if_neg (Ne.symm h.1), ih h.2, List.cons_append]

/-- Declarations of other resources than those in the graph are put at its end. -/
theorem resources_foldl_push (graph : Graph) (ds : List Declaration)
    (h : ((graph.resources ++ ds).map Declaration.ref).Nodup) :
    (ds.foldl push graph).resources = graph.resources ++ ds := by
  induction ds generalizing graph with
  | nil => simp
  | cons d rest ih =>
      have hnew : d.ref ∉ graph.resources.map Declaration.ref := by
        rw [List.map_append, List.nodup_append] at h
        intro hmem
        exact h.2.2 d.ref hmem d.ref (by simp) rfl
      have hpush : (graph.push d).resources = graph.resources ++ [d] :=
        put_of_not_mem hnew
      have hsplit : graph.resources ++ d :: rest = (graph.push d).resources ++ rest := by
        rw [hpush, List.append_assoc, List.singleton_append]
      rw [hsplit] at h ⊢
      exact ih (graph.push d) h

theorem foldl_push_other (graph : Graph) (ds : List Declaration) :
    (ds.foldl push graph).module = graph.module ∧
      (ds.foldl push graph).state = graph.state ∧
      (ds.foldl push graph).includes = graph.includes := by
  induction ds generalizing graph with
  | nil => exact ⟨rfl, rfl, rfl⟩
  | cons d rest ih => exact ih (graph.push d)

theorem addInclude_other (graph : Graph) (name : String) :
    (graph.addInclude name).module = graph.module ∧
      (graph.addInclude name).state = graph.state ∧
      (graph.addInclude name).resources = graph.resources := by
  unfold addInclude
  split <;> exact ⟨rfl, rfl, rfl⟩

theorem includes_addInclude {graph : Graph} {name : String}
    (h : name ∉ graph.includes) :
    (graph.addInclude name).includes = graph.includes ++ [name] := by
  rw [addInclude, dif_neg h]

end Graph
end DesiredState
