import DesiredState.Report.Batch
import Mathlib.Data.List.Find
import Mathlib.Data.List.Forall2

/-!
# Independence of the nodes of a batch

**Input.** A host, a request to compile node files, and the nodes that are loaded.

**Idea.** The results come in the order of the nodes, so that every node is paired with
its own result. That result depends on the node, on the target and on the files at which
the node's template is looked for, and on nothing else; so a batch of that node alone has
it, too. The nodes share one thing, the pool of workers, which a single node does not
need. Where the pool cannot be started, there are no results.

**Results.**
* `LoadedNode.run_job_congr`: the files that the result of a node depends on.
* `Batch.reports_eq_error_iff`: when a batch has no reports.
* `Batch.eq_map_of_reports`: each node of a batch is reported on by itself.
* `Disk.loadInputs_path`: a node that is loaded in a batch is loaded alone.
* `Batch.endsWith_run`: the ways in which a command ends.
* `Batch.run_independent`: what a command reports on its nodes, how many failures it
  shows in either form, and when it fails.
* `Batch.run_unreported`: it fails without a node to fail, too.
-/

namespace DesiredState

open Console (Emission Outcome)

section Rendering

variable {config : Config} {facts : KeyMap RawValue} {renderer renderer' : Renderer}

/-- Two renderers agree on the template of a configuration. -/
def Config.RendersAlike (config : Config) (facts : KeyMap RawValue)
    (renderer renderer' : Renderer) : Prop :=
  ∀ template, config.renderedTemplate? = some template →
    renderer' template (config.templateVariables facts) =
      renderer template (config.templateVariables facts)

theorem Config.fileContent_congr (h : config.RendersAlike facts renderer renderer') :
    config.fileContent facts renderer' = config.fileContent facts renderer := by
  unfold fileContent
  cases config.contentConflict? with
  | some conflict => rfl
  | none =>
      cases hsource : config.text? .source with
      | some pointer => rfl
      | none =>
          cases htemplate : config.text? .template with
          | none => rfl
          | some template =>
              have hrendered : config.renderedTemplate? = some template :=
                (renderedTemplate?_of_source_none hsource).trans htemplate
              dsimp only
              rw [h template hrendered]

/-- A module is compiled alike with renderers that agree on its template. -/
theorem Sources.compile_congr {sources : Sources}
    (h : ∀ config, sources.config = .ok config →
      config.RendersAlike sources.facts renderer renderer') :
    sources.compile renderer' = sources.compile renderer := by
  unfold compile
  cases hconfig : sources.config with
  | error fault => rfl
  | ok config =>
      dsimp only
      rw [Config.toGraph, Config.toGraph, Config.fileContent_congr (h config hconfig)]

/-- A template is rendered alike where the files at which it is looked for are the
same. -/
theorem SearchPath.renderer_congr {disk disk' : Disk} {search : SearchPath} {template : String}
    (h : ∀ path ∈ search.candidates ⟨template⟩, disk'.lookup? path = disk.lookup? path) :
    search.renderer disk' template = search.renderer disk template := by
  have hfile : ∀ path ∈ search.candidates ⟨template⟩, disk'.isFile path = disk.isFile path := by
    intro path hpath
    rw [Disk.isFile, Disk.isFile, h path hpath]
  have hlocated : search.locate? disk' ⟨template⟩ = search.locate? disk ⟨template⟩ :=
    List.find?_congr hfile
  funext vars
  unfold renderer
  rw [hlocated]
  cases hfound : search.locate? disk ⟨template⟩ with
  | none => rfl
  | some path =>
      dsimp only
      rw [Disk.readText?, Disk.readText?, h path (List.mem_of_find?_eq_some hfound)]

end Rendering

section Defs

/-- Another host leads a node to the same templates. -/
structure Host.SharesTemplates (host other : Host) (templates : Option Path)
    (loaded : LoadedNode) : Prop where
  home_eq : other.home = host.home
  lookup?_eq : ∀ path ∈ loaded.templateCandidates host templates,
    other.disk.lookup? path = host.disk.lookup? path

/-- The result that a report gives for a node is that of its compilation, and any
batch of the node alone, on any host that leads it to the same templates, has the
same report. -/
structure NodeReport.IsOf (host : Host) (request : CompileRequest) (loaded : LoadedNode)
    (report : NodeReport) : Prop where
  node_eq : report.node = loaded.name
  module_eq : report.module = loaded.file.module
  result_eq : report.result =
    (loaded.job host request.templates).run.map fun compiled =>
      (compiled.state, compiled.graph.filterByTarget request.target)
  alone : ∀ other : Host, host.SharesTemplates other request.templates loaded →
    ∀ inputs format jobs,
      Batch.reports other ⟨inputs, format, request.target, jobs, request.templates⟩ [loaded] =
        .ok [report]

/-- The emission is a complaint. -/
def Console.Emission.isComplaint : Emission → Bool
  | .complain _ => true
  | _ => false

namespace Batch

/-- The report on a node by itself. -/
def report (host : Host) (request : CompileRequest) (loaded : LoadedNode) : NodeReport :=
  .ofResult request.target loaded (loaded.job host request.templates).run

/-- How many nodes do not compile. -/
def faults (host : Host) (request : CompileRequest) (nodes : List LoadedNode) : Nat :=
  nodes.countP fun loaded => !(loaded.job host request.templates).run.isOk

/-- Some reports show a number of failures in either form, and each has a graph or an
error as JSON. -/
structure ShowsFailures (manner : Manner) (reports : List NodeReport) (count : Nat) : Prop where
  text : (emissions manner .text reports).countP Emission.isComplaint = count
  json : (reports.map NodeReport.toJson).countP
    (fun json => (json.field? "error").isSome) = count
  exclusive : ∀ report ∈ reports,
    (report.toJson.field? "graph").isSome = !(report.toJson.field? "error").isSome

/-- Several nodes are to be compiled by several workers, and these cannot be started. -/
@[mk_iff]
structure LacksPool (host : Host) (request : CompileRequest) (nodes : List LoadedNode)
    (cause : PoolFailure) : Prop where
  one_lt_workers : 1 < workers host request
  one_lt_length : 1 < nodes.length
  poolFailure?_eq : host.poolFailure? (workers host request) = some cause.reason

/-- The ways in which a command ends whose node files are loaded. First come the records
that it leaves in the log. -/
inductive EndsWith (host : Host) (manner : Manner) (request : CompileRequest)
    (nodes : List LoadedNode) : Outcome CommandFailure → Prop
  /-- There is no node to report on. -/
  | empty (records : List Log.Record) (hempty : nodes = []) :
      EndsWith host manner request nodes
        (.after (records.map .record) (.fail [] .noInputs))
  /-- There is no report, since the workers cannot be started. -/
  | unstarted (records : List Log.Record) {cause : PoolFailure}
      (hpool : LacksPool host request nodes cause) :
      EndsWith host manner request nodes
        (.after (records.map .record) (.fail [] (.noPool cause)))
  /-- The reports are shown, and all nodes compile. -/
  | compiled (records : List Log.Record) {shown : List NodeReport} (hsome : nodes ≠ [])
      (hshown : reports host request nodes = .ok shown) (hnone : faults host request nodes = 0) :
      EndsWith host manner request nodes
        (.after (records.map .record) (.succeed (emissions manner request.format shown)))
  /-- The reports are shown, and some nodes do not compile. -/
  | failed (records : List Log.Record) {shown : List NodeReport}
      (hshown : reports host request nodes = .ok shown) (hfaults : 0 < faults host request nodes) :
      EndsWith host manner request nodes
        (.after (records.map .record)
          (.fail (emissions manner request.format shown)
            (.nodesFailed (faults host request nodes) nodes.length)))

end Batch

end Defs

section Nodes

variable {host other : Host} {templates : Option Path} {loaded : LoadedNode}

theorem Host.SharesTemplates.refl (host : Host) (templates : Option Path)
    (loaded : LoadedNode) : host.SharesTemplates host templates loaded :=
  ⟨rfl, fun _ _ => rfl⟩

theorem LoadedNode.searchPath_eq (h : other.home = host.home) :
    loaded.searchPath other templates = loaded.searchPath host templates := by
  rw [searchPath, searchPath, h]

/-- The result of a node depends on the files at which its template is looked for,
and on no other. -/
theorem LoadedNode.run_job_congr (h : host.SharesTemplates other templates loaded) :
    (loaded.job other templates).run = (loaded.job host templates).run := by
  unfold Job.run job
  rw [searchPath_eq h.home_eq]
  refine Sources.compile_congr ?_
  intro config hconfig template htemplate
  refine congrFun (SearchPath.renderer_congr ?_) _
  intro path hpath
  refine h.lookup?_eq path ?_
  have hsources : loaded.file.sources.config = .ok config := hconfig
  rw [templateCandidates, hsources]
  simpa [htemplate] using hpath

namespace NodeReport

theorem isComplaint_emission (manner : Manner) (report : NodeReport) :
    (report.emission manner).isComplaint = report.hasFailed := by
  unfold emission hasFailed
  cases report.result <;> rfl

theorem isSome_field?_error (report : NodeReport) :
    (report.toJson.field? "error").isSome = report.hasFailed := by
  unfold toJson hasFailed Json.field?
  cases report.result with
  | error fault => rfl
  | ok compiled =>
      obtain ⟨state, graph⟩ := compiled
      unfold graphFields
      dsimp only
      split <;> rfl

theorem isSome_field?_graph (report : NodeReport) :
    (report.toJson.field? "graph").isSome = !report.hasFailed := by
  unfold toJson hasFailed Json.field?
  cases report.result with
  | error fault => rfl
  | ok compiled =>
      obtain ⟨state, graph⟩ := compiled
      unfold graphFields
      dsimp only
      split <;> rfl

theorem hasFailed_ofResult (target : Option String) (loaded : LoadedNode)
    (result : Except Fault Compiled) :
    (ofResult target loaded result).hasFailed = !result.isOk := by
  cases result <;> rfl

end NodeReport

end Nodes

namespace Batch

variable {host : Host} {manner : Manner} {request : CompileRequest} {nodes : List LoadedNode}

section Reports

variable {shown : List NodeReport}

/-- A batch has no reports exactly when its workers cannot be started. -/
theorem reports_eq_error_iff (cause : PoolFailure) :
    reports host request nodes = .error cause ↔ LacksPool host request nodes cause := by
  have hlength : (nodes.map (LoadedNode.job host request.templates)).length = nodes.length :=
    List.length_map _
  rw [lacksPool_iff, ← hlength, ← Job.runAll_eq_error_iff, reports]
  cases Job.runAll host.poolFailure? (workers host request)
      (nodes.map (LoadedNode.job host request.templates)) <;>
    simp [Except.map]

theorem not_lacksPool_of_reports (h : reports host request nodes = .ok shown) :
    ¬ ∃ cause, LacksPool host request nodes cause := by
  rintro ⟨cause, hpool⟩
  rw [(reports_eq_error_iff cause).mpr hpool] at h
  cases h

/-- Each node of a batch is reported on by itself, whatever the number of workers. -/
theorem eq_map_of_reports (h : reports host request nodes = .ok shown) :
    shown = nodes.map (report host request) := by
  unfold reports at h
  dsimp only at h
  cases hrun : Job.runAll host.poolFailure? (workers host request)
      (nodes.map (LoadedNode.job host request.templates)) with
  | error cause =>
      rw [hrun] at h
      cases h
  | ok results =>
      rw [hrun, Job.eq_map_of_runAll hrun] at h
      cases h
      dsimp only
      rw [List.map_map, ← List.map_prod_left_eq_zip, List.map_map]
      rfl

/-- A single node needs no pool of workers. -/
theorem reports_singleton (host : Host) (request : CompileRequest) (loaded : LoadedNode) :
    reports host request [loaded] = .ok [report host request loaded] := by
  cases hreports : reports host request [loaded] with
  | error cause =>
      have hpool := (reports_eq_error_iff cause).mp hreports
      exact absurd hpool.one_lt_length (Nat.lt_irrefl 1)
  | ok shown => rw [eq_map_of_reports hreports, List.map_singleton]

theorem isOf_report (host : Host) (request : CompileRequest) (loaded : LoadedNode) :
    (report host request loaded).IsOf host request loaded where
  node_eq := rfl
  module_eq := rfl
  result_eq := rfl
  alone := by
    intro other hshares inputs format jobs
    rw [reports_singleton, report, report, LoadedNode.run_job_congr hshares]

theorem forall₂_isOf (h : reports host request nodes = .ok shown) :
    List.Forall₂ (NodeReport.IsOf host request) nodes shown := by
  rw [eq_map_of_reports h, List.forall₂_map_right_iff]
  exact List.forall₂_same.mpr fun loaded _ => isOf_report host request loaded

theorem failed_of_reports (h : reports host request nodes = .ok shown) :
    failed shown = faults host request nodes := by
  rw [failed, eq_map_of_reports h, List.countP_map, faults]
  congr 1
  funext loaded
  exact NodeReport.hasFailed_ofResult _ _ _

/-- Both forms of some reports show as many failures as there are. -/
theorem showsFailures_failed (manner : Manner) (reports : List NodeReport) :
    ShowsFailures manner reports (failed reports) where
  text := by
    rw [emissions, List.countP_append, List.countP_map, failed]
    have hcomplaint : Emission.isComplaint ∘ NodeReport.emission manner =
        NodeReport.hasFailed := by
      funext report
      exact report.isComplaint_emission manner
    rw [hcomplaint]
    rfl
  json := by
    rw [List.countP_map, failed]
    congr 1
    funext report
    exact report.isSome_field?_error
  exclusive := by
    intro report _
    rw [report.isSome_field?_graph, report.isSome_field?_error]

end Reports

end Batch

section Loading

variable {disk : Disk} {path : Path} {loaded : LoadedNode} {nodes : List LoadedNode}

theorem LoadedNode.path_of_load (h : load disk path = .ok loaded) :
    loaded.path = path ∧ (disk.readText? path).isSome := by
  unfold load at h
  dsimp only at h
  split at h
  · cases h
  · rename_i text htext
    split at h
    · cases h
    · cases h
      exact ⟨rfl, by rw [htext]; rfl⟩

namespace Disk

theorem isFile_of_readText? (h : (disk.readText? path).isSome) :
    disk.isDirectory path = false ∧ disk.isFile path = true := by
  unfold readText? at h
  split at h
  · rename_i bytes hfile
    rw [isDirectory, isFile, hfile]
    exact ⟨rfl, rfl⟩
  · cases h

theorem load_of_mem_loadAll {paths : List Path} (h : disk.loadAll paths = .ok nodes)
    (hmem : loaded ∈ nodes) : LoadedNode.load disk loaded.path = .ok loaded := by
  induction paths generalizing nodes with
  | nil =>
      cases h
      cases hmem
  | cons path rest ih =>
      rw [loadAll] at h
      split at h
      · cases h
      · rename_i first hfirst
        split at h
        · cases h
        · rename_i more hmore
          cases h
          rcases List.mem_cons.mp hmem with rfl | hmem
          · rw [(LoadedNode.path_of_load hfirst).1]
            exact hfirst
          · exact ih hmore hmem

theorem nodeFilesAt_of_load (h : LoadedNode.load disk path = .ok loaded) :
    disk.nodeFilesAt path = .ok [path] := by
  obtain ⟨hdirectory, hfile⟩ := isFile_of_readText? (LoadedNode.path_of_load h).2
  rw [nodeFilesAt, hdirectory, hfile]
  rfl

/-- A node that is loaded in a batch is loaded alone. -/
theorem loadInputs_path {paths : List Path} (h : disk.loadInputs paths = .ok nodes)
    (hmem : loaded ∈ nodes) : disk.loadInputs [loaded.path] = .ok [loaded] := by
  unfold loadInputs at h
  split at h
  · cases h
  · have hload := load_of_mem_loadAll h hmem
    simp only [loadInputs, collect, nodeFilesAt_of_load hload, List.append_nil, loadAll, hload]

end Disk

end Loading

namespace Batch

variable {host : Host} {manner : Manner} {request : CompileRequest} {nodes : List LoadedNode}

section Run

variable {outcome : Outcome CommandFailure}

/-- A command that has reports shows them, and fails if there is a failure among them. -/
theorem EndsWith.of_reports {shown : List NodeReport} (manner : Manner)
    (records : List Log.Record) (hsome : nodes ≠ [])
    (h : reports host request nodes = .ok shown) :
    EndsWith host manner request nodes
      (.after (records.map .record) (conclude manner request.format shown)) := by
  have hlength : shown.length = nodes.length := by rw [eq_map_of_reports h, List.length_map]
  rw [conclude, failed_of_reports h, hlength]
  split
  · rename_i hnone
    exact .compiled records hsome h hnone
  · rename_i hfaults
    exact .failed records h (Nat.pos_of_ne_zero hfaults)

/-- A command whose node files are loaded ends in one of four ways. -/
theorem endsWith_run (manner : Manner) (h : host.disk.loadInputs request.inputs = .ok nodes) :
    EndsWith host manner request nodes (run host manner request) := by
  unfold run
  rw [h]
  cases nodes with
  | nil => exact .empty _ rfl
  | cons first rest =>
      dsimp only
      rw [compileNodes, Outcome.after_after, ← List.map_append]
      cases hreports : reports host request (first :: rest) with
      | error cause => exact .unstarted _ ((reports_eq_error_iff cause).mp hreports)
      | ok shown =>
          dsimp only
          rw [Outcome.after_after, ← List.map_append]
          exact .of_reports manner _ (List.cons_ne_nil first rest) hreports

/-- A command fails without nodes, without its workers, and when a node does not compile. -/
theorem EndsWith.isSome_failure_iff (h : EndsWith host manner request nodes outcome) :
    outcome.failure.isSome ↔
      nodes = [] ∨ (∃ cause, LacksPool host request nodes cause) ∨
        0 < faults host request nodes := by
  cases h with
  | empty _ hempty => exact iff_of_true rfl (.inl hempty)
  | unstarted _ hpool => exact iff_of_true rfl (.inr (.inl ⟨_, hpool⟩))
  | compiled _ hsome hshown hnone =>
      refine iff_of_false Bool.false_ne_true ?_
      simp [hsome, not_lacksPool_of_reports hshown, hnone]
  | failed _ _ hfaults => exact iff_of_true rfl (.inr (.inr hfaults))

/-- A batch has reports unless its workers cannot be started. It reports on its nodes one
by one, in their order, as on each of them alone, and in either form it shows as many
failures as there are nodes that do not compile. A command whose node files are loaded
ends with these reports, or with none for want of nodes or of workers. It fails in the
latter case, and if a node does not compile. -/
theorem run_independent (host : Host) (manner : Manner) (request : CompileRequest)
    (nodes : List LoadedNode) :
    (∀ cause, reports host request nodes = .error cause ↔
      LacksPool host request nodes cause) ∧
    (∀ shown, reports host request nodes = .ok shown →
      List.Forall₂ (NodeReport.IsOf host request) nodes shown ∧
      ShowsFailures manner shown (faults host request nodes)) ∧
    (host.disk.loadInputs request.inputs = .ok nodes →
      (∀ loaded ∈ nodes, host.disk.loadInputs [loaded.path] = .ok [loaded]) ∧
      EndsWith host manner request nodes (run host manner request) ∧
      ((run host manner request).failure.isSome ↔
        nodes = [] ∨ (∃ cause, LacksPool host request nodes cause) ∨
          0 < faults host request nodes)) := by
  refine ⟨reports_eq_error_iff, ?_, ?_⟩
  · intro shown hshown
    refine ⟨forall₂_isOf hshown, ?_⟩
    rw [← failed_of_reports hshown]
    exact showsFailures_failed manner shown
  · intro h
    have hends := endsWith_run manner h
    exact ⟨fun loaded hmem => Disk.loadInputs_path h hmem, hends, hends.isSome_failure_iff⟩

/-- A computer on which a node that compiles and one that does not lie side by side,
beside a directory without nodes. It cannot start more than 64 workers. -/
def sideBySide : Host :=
  { disk :=
      { root := .directory [("a.json", .file "{}".toUTF8),
          ("b.toml", .file "params = {port = []}".toUTF8), ("empty", .directory [])]
        cwd := [] }
    home := none
    processors := 4
    poolFailure? := fun workers =>
      if 64 < workers then some "Resource temporarily unavailable (os error 11)" else none }

/-- Results are shown without colours. -/
def plainly : Manner :=
  { palette := ⟨false⟩
    quiet := false
    verbosity := 0 }

/-- Compile what some paths stand for, and print what comes of it as JSON. -/
def compileAll (inputs : List Path) (jobs : Option Nat) : CompileRequest :=
  { inputs := inputs
    format := .json
    target := none
    jobs := jobs
    templates := none }

/-- The two nodes in one request. -/
def compileBoth : CompileRequest :=
  compileAll [⟨"a.json"⟩, ⟨"b.toml"⟩] none

/-- Of two nodes one does not compile; both are reported on as each of them alone. -/
theorem run_sideBySide :
    ∃ first second one other,
      sideBySide.disk.loadInputs compileBoth.inputs = .ok [first, second] ∧
      sideBySide.disk.loadInputs [first.path] = .ok [first] ∧
      reports sideBySide compileBoth [first, second] = .ok [one, other] ∧
      reports sideBySide (compileAll [first.path] none) [first] = .ok [one] ∧
      reports sideBySide (compileAll [second.path] (some 65)) [second] = .ok [other] ∧
      (run sideBySide plainly compileBoth).failure = some (.nodesFailed 1 2) := by
  have htest : (sideBySide.disk.loadInputs compileBoth.inputs).toOption.any (fun nodes =>
      nodes.length = 2 ∧ faults sideBySide compileBoth nodes = 1) = true := by
    decide +kernel
  have hpool : ∀ nodes cause, ¬ LacksPool sideBySide compileBoth nodes cause := by
    rintro nodes cause ⟨_, _, hreason⟩
    cases hreason
  cases hload : sideBySide.disk.loadInputs compileBoth.inputs with
  | error cause =>
      rw [hload] at htest
      cases htest
  | ok nodes =>
      rw [hload] at htest
      obtain ⟨hlength, hfaults⟩ := of_decide_eq_true htest
      obtain ⟨first, second, rfl⟩ := List.length_eq_two.mp hlength
      obtain ⟨herror, hok, hrun⟩ :=
        run_independent sideBySide plainly compileBoth [first, second]
      obtain ⟨halone, hends, _⟩ := hrun hload
      cases hshown : reports sideBySide compileBoth [first, second] with
      | error cause => exact absurd ((herror cause).mp hshown) (hpool _ cause)
      | ok shown =>
          obtain ⟨one, _, hfirst, hrest, rfl⟩ :=
            List.forall₂_cons_left_iff.mp (hok shown hshown).1
          obtain ⟨other, _, hsecond, hnil, rfl⟩ := List.forall₂_cons_left_iff.mp hrest
          rw [List.forall₂_nil_left_iff.mp hnil] at hshown
          refine ⟨first, second, one, other, rfl, halone first List.mem_cons_self, hshown,
            hfirst.alone sideBySide (.refl sideBySide none first) _ _ _,
            hsecond.alone sideBySide (.refl sideBySide none second) _ _ _, ?_⟩
          generalize run sideBySide plainly compileBoth = outcome at hends
          cases hends with
          | empty _ hempty => cases hempty
          | unstarted _ hlacks => exact absurd hlacks (hpool _ _)
          | compiled _ _ _ hnone =>
              rw [hfaults] at hnone
              cases hnone
          | failed =>
              rw [hfaults]
              rfl

/-- A command fails, though no node does, when it finds no nodes and when it cannot start
its workers. -/
theorem run_unreported :
    (sideBySide.disk.loadInputs [⟨"empty"⟩] = .ok [] ∧
      faults sideBySide (compileAll [⟨"empty"⟩] none) [] = 0 ∧
      (run sideBySide plainly (compileAll [⟨"empty"⟩] none)).failure = some .noInputs) ∧
    ∃ nodes, sideBySide.disk.loadInputs [⟨"a.json"⟩, ⟨"a.json"⟩] = .ok nodes ∧
      faults sideBySide (compileAll [⟨"a.json"⟩, ⟨"a.json"⟩] (some 65)) nodes = 0 ∧
      (run sideBySide plainly (compileAll [⟨"a.json"⟩, ⟨"a.json"⟩] (some 65))).failure =
        some (.noPool ⟨"Resource temporarily unavailable (os error 11)"⟩) := by
  constructor
  · refine ⟨?_, rfl, by decide +kernel⟩
    have hwalk : sideBySide.disk.nodeFilesAt ⟨"empty"⟩ = .ok [] := by decide +kernel
    rw [Disk.loadInputs, Disk.collect, hwalk]
    rfl
  · have htest : (sideBySide.disk.loadInputs [⟨"a.json"⟩, ⟨"a.json"⟩]).toOption.any
        (fun nodes => faults sideBySide (compileAll [⟨"a.json"⟩, ⟨"a.json"⟩] (some 65)) nodes = 0) =
          true := by
      decide +kernel
    cases hload : sideBySide.disk.loadInputs [⟨"a.json"⟩, ⟨"a.json"⟩] with
    | error cause =>
        rw [hload] at htest
        cases htest
    | ok nodes =>
        rw [hload] at htest
        exact ⟨nodes, rfl, of_decide_eq_true htest, by decide +kernel⟩

end Run

end Batch
end DesiredState
