import DesiredState.Assembly

/-!
# Compilation

**Input.** The sources of a module and a renderer; for a batch, a list of nodes,
each with its own renderer, and a number of workers.

**Algorithm.** The options are resolved, the switches among them decide the
state, and the graph is assembled in that state. The nodes of a batch are compiled
one after another, unless there are several of them and several workers: then a pool
of workers is started, which gives the results in the order of the nodes. A pool that
cannot be started is the one thing that fails a batch as a whole.
-/

namespace DesiredState

/-- A compiled module. -/
structure Compiled where
  config : Config
  state : Lifecycle
  graph : Graph
deriving DecidableEq

namespace Sources

/-- The resolved configuration. -/
def config (sources : Sources) : Except Fault Config :=
  match sources.resolve with
  | .ok config => .ok config
  | .error cause => .error (.invalid cause)

/-- Compile a module. -/
def compile (sources : Sources) (renderer : Renderer) : Except Fault Compiled :=
  match sources.config with
  | .error fault => .error fault
  | .ok config =>
      match config.toGraph sources.facts renderer config.lifecycle with
      | .error fault => .error fault
      | .ok graph => .ok ⟨config, config.lifecycle, graph⟩

end Sources

/-- A node to compile: its name in reports, and what its module is compiled
from. -/
structure Node where
  name : String
  sources : Sources
deriving Inhabited

/-- A node together with the renderer of its templates. -/
structure Job where
  node : Node
  renderer : Renderer

/-- A pool of workers that cannot be started. -/
structure PoolFailure where
  reason : String
deriving DecidableEq, Repr

/-- The failure in words. -/
def PoolFailure.message (failure : PoolFailure) : String :=
  "Failed to create thread pool: " ++ failure.reason

namespace Job

/-- Compile the node. -/
def run (job : Job) : Except Fault Compiled :=
  job.node.sources.compile job.renderer

/-- Compile a batch with a number of workers. `poolFailure?` tells why a pool of so
many workers cannot be started, if it cannot. -/
def runAll (poolFailure? : Nat → Option String) (workers : Nat) (jobs : List Job) :
    Except PoolFailure (List (Except Fault Compiled)) :=
  if workers ≤ 1 ∨ jobs.length ≤ 1 then .ok (jobs.map run)
  else
    match poolFailure? workers with
    | some reason => .error ⟨reason⟩
    | none => .ok (jobs.map run)

section Lemmas

variable {poolFailure? : Nat → Option String} {workers : Nat} {jobs : List Job}

/-- A batch fails as a whole exactly when it needs a pool that cannot be started. -/
theorem runAll_eq_error_iff (cause : PoolFailure) :
    runAll poolFailure? workers jobs = .error cause ↔
      1 < workers ∧ 1 < jobs.length ∧ poolFailure? workers = some cause.reason := by
  obtain ⟨reason⟩ := cause
  unfold runAll
  split
  · rename_i hsequential
    simp only [reduceCtorEq, false_iff]
    omega
  · rename_i hparallel
    rw [not_or, Nat.not_le, Nat.not_le] at hparallel
    cases poolFailure? workers <;> simp [hparallel]

/-- A batch that does not fail has the results of its nodes, one by one. -/
theorem eq_map_of_runAll {results : List (Except Fault Compiled)}
    (h : runAll poolFailure? workers jobs = .ok results) : results = jobs.map run := by
  unfold runAll at h
  split at h
  · cases h
    rfl
  · split at h <;> cases h
    rfl

end Lemmas

end Job
end DesiredState
