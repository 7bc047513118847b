import SmartCollections.Proofs.Accounts
import SmartCollections.Proofs.Convergence
import SmartCollections.Proofs.Forecast
import SmartCollections.Proofs.Mirror

/-!
# Passes over files

As long as the disk does what it is asked to, a pass over a file store reports on every collection
and tells of no failure. It leaves the collections as they should be; if they are so already, it
leaves the disk alone, and so does a dry run.
-/

namespace SmartCollections.Pass

open FileStore

variable {pass : Pass} {catalog : List Item} {results : List (Except PassError Report)}

/-- Every result is a report that tells of no failure. -/
def Smooth (results : List (Except PassError Report)) : Prop :=
  ∀ told ∈ results, ∃ report, told = .ok report ∧ report.failures = []

theorem Smooth.isClean_iff (smooth : Smooth results) (pass : Pass) :
    (pass.summarize results).isClean = true ↔ pass.rules.diagnostics = [] := by
  have calm : results.filter troubled = [] := by
    refine List.filter_eq_nil_iff.2 fun told mem => ?_
    obtain ⟨report, rfl, none⟩ := smooth told mem
    simp [troubled, Report.isFailed, none]
  have made : ∀ n ∈ (results.filterMap Except.toOption).map (·.failures.length), n = 0 := by
    intro n mem
    obtain ⟨report, listed, rfl⟩ := List.mem_map.1 mem
    obtain ⟨_, same, none⟩ := smooth _ (mem_reports_iff.1 listed)
    simp [Except.ok.inj same, none]
  rw [Summary.isClean_iff, summarize_eq]
  simp [calm, List.sum_eq_zero_iff_forall_eq_nat.2 made]

theorem Smooth.subject (smooth : Smooth results) : ∀ told ∈ results, (subject? told).isSome := by
  intro told mem
  obtain ⟨report, rfl, _⟩ := smooth told mem
  rfl

theorem alone_smooth (real : pass.options.dryRun = false) (catalog : List Item)
    {memory : MemoryStore} (free : memory.refusals = []) (name : String) :
    ∃ report, (Flight.alone (pass.task catalog) memory name).1 = .ok report ∧
      report.failures = [] := by
  have permits : ∀ name item, (name, some item) ∉ memory.refusals := by simp [free]
  have answers : (name, none) ∉ memory.refusals := by simp [free]
  have foretold := reconcile_foretold permits answers (pass.rules.rulesFor name) catalog
    (memory.collections.get? name) pass.options real
  rw [Flight.alone, task_cell, if_neg answers]
  exact ⟨_, rfl, congrArg Report.failures foretold⟩

variable {δ : Type} {disk : Disk (StateM δ)} {path : String} {fit : δ → Prop}

/-- The catalog may come from the disk that the store is on. -/
theorem run_lift (pass : Pass) (store : Store (StateT FileStore (StateM δ)))
    {fetch : StateM δ (Except HostError (List Item))} {d : δ}
    (fetched : fetch.run d = (.ok catalog, d)) (turns : List Nat) (s : FileStore) :
    ((pass.run (StateT.lift fetch) store turns).run s).run d =
      ((pass.run (pure (.ok catalog)) store turns).run s).run d := by
  have lifted : ((StateT.lift fetch : StateT FileStore (StateM δ) _).run s).run d =
      (((fetch.run d).1, s), (fetch.run d).2) := rfl
  rw [fetched] at lifted
  simp only [Pass.run, run_bind_both, lifted]
  rfl

theorem run_file (real : pass.options.dryRun = false) (catalog : List Item) (turns : List Nat)
    (grants : Grants disk path fit) {c : Collections} {d : δ} (isFit : fit d)
    (agrees : Agrees disk path ⟨path, c⟩ d) :
    ∃ results after left,
      ((pass.run (pure (.ok catalog)) (store disk) turns).run ⟨path, c⟩).run d =
        ((pass.events catalog results, after), left) ∧
      Smooth results ∧ (∀ name, after.collections.get? name = pass.goal catalog c name) ∧
      fit left ∧ Agrees disk path after left := by
  let flight := Flight.start pass.options.concurrency (pass.tasks catalog)
  let ran := ((flight.run (store disk) turns).run ⟨path, c⟩).run d
  obtain ⟨settled, mirrored⟩ := pass.flight_mirrored catalog turns grants isFit agrees
  refine ⟨ran.1.1, ran.1.2, ran.2, rfl, fun result mem => ?_, fun name => ?_, mirrored.fit,
    mirrored.agrees⟩
  · obtain ⟨name, _, rfl⟩ := List.mem_map.1 (settled.results.subset mem)
    exact alone_smooth real catalog rfl name
  · rw [← mirrored.collections]
    exact (pass.run_members real catalog ⟨c, [], []⟩ turns).2 name

/-- The answers that a file store gives to lookups. -/
theorem file_lookups (disk : Disk (StateM δ)) (s : FileStore) (d : δ) (name : String) :
    (Stillness.stateful (Stillness.stateful .stateless d) s).Gives ((store disk).members name)
      (.ok (s.collections.get? name)) := rfl

/-- What a dry run says about a collection with the given members. -/
def foreseen (pass : Pass) (catalog : List Item) (name : String) (members : Option StringSet) :
    Report :=
  (reconcile name (pass.rules.rulesFor name) catalog members).forecast pass.options

theorem run_file_dry (pass : Pass) (dry : pass.options.dryRun = true) (catalog : List Item)
    (turns : List Nat) (disk : Disk (StateM δ)) (s : FileStore) (d : δ) :
    ∃ results,
      ((pass.run (pure (.ok catalog)) (store disk) turns).run s).run d =
        ((pass.events catalog results, s), d) ∧
      results.Perm (pass.rules.collections.toList.map fun name =>
        .ok (pass.foreseen catalog name (s.collections.get? name))) := by
  refine Stillness.pass (file_lookups disk s d) (fun name _ => ?_) turns
  rw [task_look]
  simp only [Plan.apply, dry, if_true]
  rfl

theorem run_file_at_rest (real : pass.options.dryRun = false) (disk : Disk (StateM δ))
    (s : FileStore) (rest : ∀ name, pass.goal catalog s.collections name = s.collections.get? name)
    (turns : List Nat) (d : δ) :
    ∃ results,
      ((pass.run (pure (.ok catalog)) (store disk) turns).run s).run d =
        ((pass.events catalog results, s), d) := by
  obtain ⟨results, ran, _⟩ := Stillness.pass (file_lookups disk s d)
    (fun name named => task_settled real rfl (settled_at_rest rest named)) turns
  exact ⟨results, ran⟩

theorem foreseen_settled (real : pass.options.dryRun = false) {name : String}
    {members : Option StringSet} (settled : pass.leaves catalog [] name members = members) :
    (pass.rehearsal.foreseen catalog name members).Quiet := by
  let plan := reconcile name (pass.rules.rulesFor name) catalog members
  have permits (key : RefusalKey) : key ∉ ([] : List RefusalKey) := List.not_mem_nil
  have foretold := reconcile_foretold (fun name item => permits (name, some item))
    (permits (name, none)) (pass.rules.rulesFor name) catalog members pass.options real
  simp only [apply_settled real settled] at foretold
  have idle : pass.rehearsal.foreseen catalog name members = plan.idle.rehearsed := foretold.symm
  rw [idle]
  exact plan.idle_quiet

/-- A dry run over collections that are as they should be has nothing to tell of them. -/
theorem rehearsal_at_rest (real : pass.options.dryRun = false) (disk : Disk (StateM δ))
    (s : FileStore) (rest : ∀ name, pass.goal catalog s.collections name = s.collections.get? name)
    (turns : List Nat) (d : δ) :
    ∃ results,
      ((pass.rehearsal.run (pure (.ok catalog)) (store disk) turns).run s).run d =
        ((pass.rehearsal.events catalog results, s), d) ∧
      (∀ told ∈ results, ∃ report, told = .ok report ∧ report.Quiet) ∧
      results.length = pass.rules.collections.size := by
  obtain ⟨results, ran, perm⟩ := pass.rehearsal.run_file_dry rfl catalog turns disk s d
  refine ⟨results, ran, fun told mem => ?_, ?_⟩
  · obtain ⟨name, named, rfl⟩ := List.mem_map.1 (perm.subset mem)
    exact ⟨_, rfl, foreseen_settled real (settled_at_rest rest named)⟩
  · rw [perm.length_eq, List.length_map, StringSet.size]
    rfl

end SmartCollections.Pass
