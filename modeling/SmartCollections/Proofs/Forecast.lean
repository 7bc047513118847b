import SmartCollections.Proofs.Reports
import SmartCollections.Proofs.Stillness

/-!
# Dry runs

A dry run fills its reports from the plans, a real pass from what the store answers to one change
after another. Unless a change of an item is refused, both tell the same of every collection. The
changes that are told are those that the pass makes, and a dry run leaves everything as it is.
-/

namespace SmartCollections

/-- The report as a dry run would have put it. -/
def Report.rehearsed (report : Report) : Report := { report with dryRun := true }

/-- What the changes that a report tells of leave of the members of its collection. -/
def Report.leaves (report : Report) (members : Option StringSet) : Option StringSet :=
  if report.deleted then none
  else if report.created then some (.ofList report.added)
  else members.map fun members => (members ∪ .ofList report.added) \ .ofList report.removed

def Summary.rehearsed (summary : Summary) : Summary := { summary with dryRun := true }

namespace Plan

variable {plan : Plan} {refusals : List RefusalKey}

theorem permitted_all (permits : ∀ name item, (name, some item) ∉ refusals) (name : String)
    (items : List String) : permitted refusals name items = items :=
  List.filter_eq_self.2 fun item _ => by simpa using permits name item

theorem failures_none (permits : ∀ name item, (name, some item) ∉ refusals) :
    plan.failures refusals = [] :=
  failures_eq_nil_iff.2 fun item _ => permits plan.collection item

/-- Every change to an existing collection comes out as foretold. -/
theorem applyChanges_foretold (permits : ∀ name item, (name, some item) ∉ refusals)
    (answers : (plan.collection, none) ∉ refusals) (noCreate : plan.create = false)
    (options : Options) (members : StringSet) :
    (((plan.applyChanges options).run (MemoryStore.cell refusals)).run (some members)).1.rehearsed =
      plan.forecast options := by
  rw [plan.applyChanges_cell, permitted_all permits, permitted_all permits, failures_none permits]
  by_cases deletes : (options.removeEmpty && plan.empties) = true
  · simp [deletes, answers, Report.rehearsed, forecast, noCreate]
  · simp [deletes, Report.rehearsed, forecast, noCreate]

theorem applyNew_foretold (answers : (plan.collection, none) ∉ refusals)
    (creates : plan.create = true) (missing : plan.existed = false)
    (noRemove : plan.toRemove = .empty) (options : Options) :
    ((plan.applyNew.run (MemoryStore.cell refusals)).run none).1.rehearsed =
      plan.forecast options := by
  rw [plan.applyNew_cell, if_neg answers]
  simp [Report.rehearsed, forecast, creates, empties, missing, noRemove, StringSet.empty]

theorem applyChanges_told (plan : Plan) (options : Options) (refusals : List RefusalKey)
    (members : StringSet) :
    let ran := ((plan.applyChanges options).run (MemoryStore.cell refusals)).run (some members)
    ran.2 = ran.1.leaves (some members) := by
  have left : plan.leaves refusals members =
      (members ∪ .ofList (permitted refusals plan.collection plan.toAdd.toList)) \
        .ofList (permitted refusals plan.collection plan.toRemove.toList) :=
    StringSet.foldl_erase_foldl_insert _ _ _
  simp only [plan.applyChanges_cell, left]
  split
  · split <;> rfl
  · rfl

theorem applyNew_told (plan : Plan) (refusals : List RefusalKey) :
    let ran := (plan.applyNew.run (MemoryStore.cell refusals)).run none
    ran.2 = ran.1.leaves none := by
  simp only [plan.applyNew_cell]
  split
  · rfl
  · simp [Report.leaves]

theorem idle_foretold (noCreate : plan.create = false) (missing : plan.existed = false)
    (noAdd : plan.toAdd = .empty) (noRemove : plan.toRemove = .empty) (options : Options) :
    plan.idle.rehearsed = plan.forecast options := by
  simp [idle, Report.rehearsed, forecast, noCreate, empties, missing, noAdd, noRemove,
    StringSet.empty]

end Plan

/-- The plan of a collection that can be looked up comes out as foretold. -/
theorem reconcile_foretold {refusals : List RefusalKey}
    (permits : ∀ name item, (name, some item) ∉ refusals) {name : String}
    (answers : (name, none) ∉ refusals) (rules : List CompiledRule) (catalog : List Item)
    (members : Option StringSet) (options : Options) (real : options.dryRun = false) :
    let plan := reconcile name rules catalog members
    (((plan.apply options).run (MemoryStore.cell refusals)).run members).1.rehearsed =
      plan.forecast options := by
  dsimp only
  cases members with
  | none =>
    obtain ⟨toAdd, toRemove, ⟨_, creates, applies⟩ | ⟨nothing, noCreate, applies⟩⟩ :=
      reconcile_missing name rules catalog real
    · rw [applies]
      exact Plan.applyNew_foretold answers creates rfl toRemove options
    · rw [applies]
      exact Plan.idle_foretold noCreate rfl (toAdd.trans nothing) toRemove options
  | some members =>
    obtain ⟨_, _, _, applies⟩ := reconcile_existing name rules catalog members real
    rw [applies]
    exact Plan.applyChanges_foretold permits answers rfl options members

/-- What is left of a collection is told by the report on its plan, whatever is refused. -/
theorem reconcile_told (refusals : List RefusalKey) (name : String) (rules : List CompiledRule)
    (catalog : List Item) (members : Option StringSet) {options : Options}
    (real : options.dryRun = false) :
    let plan := reconcile name rules catalog members
    let ran := ((plan.apply options).run (MemoryStore.cell refusals)).run members
    ran.2 = ran.1.leaves members := by
  dsimp only
  cases members with
  | none =>
    obtain ⟨_, _, ⟨_, _, applies⟩ | ⟨_, _, applies⟩⟩ := reconcile_missing name rules catalog real
    · rw [applies]
      exact Plan.applyNew_told _ refusals
    · rw [applies]
      rfl
  | some members =>
    obtain ⟨_, _, _, applies⟩ := reconcile_existing name rules catalog members real
    rw [applies]
    exact Plan.applyChanges_told _ options refusals members

/-- The changes that reports tell of lead from the one state to the other: a collection that is
reported on is left as its report tells, and any other one is left alone. -/
structure Effected (reports : List Report) (before after : Collections) : Prop where
  reported : ∀ report ∈ reports,
    after.get? report.plan.collection = report.leaves (before.get? report.plan.collection)
  others : ∀ name, (∀ report ∈ reports, report.plan.collection ≠ name) →
    after.get? name = before.get? name

/-- A dry run tells of the same changes. -/
theorem Effected.rehearsed {reports expected : List Report} {before after : Collections}
    (effected : Effected reports before after)
    (same : expected.Perm (reports.map Report.rehearsed)) : Effected expected before after where
  reported report mem := by
    obtain ⟨told, listed, rfl⟩ := List.mem_map.1 (same.subset mem)
    exact effected.reported told listed
  others name unnamed := effected.others name fun report mem =>
    unnamed report.rehearsed (same.symm.subset (List.mem_map.2 ⟨report, mem, rfl⟩))

/-- What became of a collection, as a dry run would have put it. -/
def rehearse : Except PassError Report → Except PassError Report
  | .ok report => .ok report.rehearsed
  | .error error => .error error

theorem Summary.count_rehearse (summary : Summary) (result : Except PassError Report) :
    summary.rehearsed.count (rehearse result) = (summary.count result).rehearsed := by
  rcases result with (_ | _ | _) | report <;> rfl

theorem Summary.foldl_count_rehearse (summary : Summary)
    (results : List (Except PassError Report)) :
    (results.map rehearse).foldl Summary.count summary.rehearsed =
      (results.foldl Summary.count summary).rehearsed := by
  induction results generalizing summary with
  | nil => rfl
  | cons result results ih =>
    rw [List.map_cons, List.foldl_cons, List.foldl_cons, count_rehearse]
    exact ih _

theorem toOption_rehearse (results : List (Except PassError Report)) :
    (results.map rehearse).filterMap Except.toOption =
      (results.filterMap Except.toOption).map Report.rehearsed := by
  rw [List.filterMap_map, List.map_filterMap]
  congr 1
  funext result
  cases result <;> rfl

/-- The collection that an event tells about. -/
def Event.subject? : Event → Option String
  | .reconciled report => some report.plan.collection
  | .failed (.membership collection _) => some collection
  | _ => none

namespace Pass

/-- The collections that a pass tells of, in the order in which it was done with them. -/
def subjects (events : List Event) : List String := events.filterMap Event.subject?

def real (pass : Pass) : Pass := { pass with options := { pass.options with dryRun := false } }

def rehearsal (pass : Pass) : Pass := { pass with options := { pass.options with dryRun := true } }

/-- What a dry run tells is what the pass itself tells of each collection, and adds up to the same.
If it is done with the collections in the same order, it tells the same altogether. -/
structure Foretells (rehearsed events : List Event) (expected told : List Report × Summary) :
    Prop where
  expects : outcome? rehearsed = some (.ok expected)
  tells : outcome? events = some (.ok told)
  reports : expected.1.Perm (told.1.map Report.rehearsed)
  each : ∀ name, expected.1.filter (·.plan.collection = name) =
    (told.1.filter (·.plan.collection = name)).map Report.rehearsed
  summary : expected.2.Same told.2.rehearsed
  inOrder : subjects rehearsed = subjects events →
    expected = (told.1.map Report.rehearsed, told.2.rehearsed)

theorem subjects_events (pass : Pass) (catalog : List Item)
    (results : List (Except PassError Report)) :
    subjects (pass.events catalog results) = results.filterMap subject? := by
  have told (result : Except PassError Report) :
      (Event.ofResult result).subject? = subject? result := by
    rcases result with (_ | _ | _) | report <;> rfl
  have middle : (results.map Event.ofResult).filterMap Event.subject? =
      results.filterMap subject? := by
    rw [List.filterMap_map]
    exact congrArg (List.filterMap · results) (funext told)
  have opening : [Event.started, .catalogLoaded catalog.length].filterMap Event.subject? = [] := rfl
  have last (summary : Summary) : [Event.complete summary].filterMap Event.subject? = [] := rfl
  rw [subjects, events, List.filterMap_append, List.filterMap_append, opening, middle, last,
    List.nil_append, List.append_nil]

theorem filter_reports (results : List (Except PassError Report)) (name : String) :
    (results.filterMap Except.toOption).filter (·.plan.collection = name) =
      (results.filter (subject? · = some name)).filterMap Except.toOption := by
  rw [List.filter_filterMap, List.filterMap_filter]
  congr 1
  funext result
  rcases result with (_ | ⟨collection, cause⟩ | _) | report
  · rfl
  · by_cases same : collection = name <;> simp [Except.toOption]
  · rfl
  · by_cases same : report.plan.collection = name <;>
      simp [Except.toOption, subject?, Option.filter, same]

section

variable {names : List String} {result : String → Except PassError Report}
  {results others : List (Except PassError Report)}

theorem filter_results_stranger (about : ∀ name, subject? (result name) = some name)
    (perm : results.Perm (names.map result)) {name : String} (stranger : name ∉ names) :
    results.filter (subject? · = some name) = [] := by
  refine List.filter_eq_nil_iff.2 fun told mem => ?_
  obtain ⟨other, other_mem, rfl⟩ := List.mem_map.1 (perm.subset mem)
  have different : other ≠ name := fun same => stranger (same ▸ other_mem)
  simpa [about] using different

theorem eq_map_subjects (about : ∀ name, subject? (result name) = some name)
    (perm : results.Perm (names.map result)) :
    results = (results.filterMap subject?).map result := by
  have known : ∀ told ∈ results, ∃ name, told = result name := by
    intro told mem
    obtain ⟨name, _, rfl⟩ := List.mem_map.1 (perm.subset mem)
    exact ⟨name, rfl⟩
  clear perm
  induction results with
  | nil => rfl
  | cons told results ih =>
    obtain ⟨name, rfl⟩ := known told List.mem_cons_self
    rw [List.filterMap_cons_some (about name), List.map_cons,
      ← ih fun told mem => known told (List.mem_cons_of_mem _ mem)]

end

theorem subject?_rehearse (result : Except PassError Report) :
    subject? (rehearse result) = subject? result := by
  rcases result with (_ | _ | _) | report <;> rfl

/-- If each result of a dry run is as the pass itself would have it, the dry run tells what the pass
tells. -/
theorem foretells {pass : Pass} (catalog : List Item)
    {result : String → Except PassError Report}
    (about : ∀ name, subject? (result name) = some name)
    {results rehearsed : List (Except PassError Report)}
    (perm : results.Perm (pass.rules.collections.toList.map result))
    (foretold : rehearsed.Perm
      (pass.rules.collections.toList.map fun name => rehearse (result name))) :
    Foretells (pass.rehearsal.events catalog rehearsed) (pass.real.events catalog results)
      (rehearsed.filterMap Except.toOption, pass.rehearsal.summarize rehearsed)
      (results.filterMap Except.toOption, pass.real.summarize results) := by
  have aboutRehearsed name : subject? (rehearse (result name)) = some name :=
    (subject?_rehearse _).trans (about name)
  have permRehearsed : (results.map rehearse).Perm
      (pass.rules.collections.toList.map fun name => rehearse (result name)) := by
    have mapped := perm.map rehearse
    rwa [List.map_map] at mapped
  have same : rehearsed.Perm (results.map rehearse) := foretold.trans permRehearsed.symm
  have total : pass.rehearsal.summarize (results.map rehearse) =
      (pass.real.summarize results).rehearsed :=
    Summary.foldl_count_rehearse (.start false pass.rules.diagnostics.length) results
  refine ⟨?_, ?_, ?_, ?_, ?_, ?_⟩
  · exact outcome?_events _ catalog (results_about aboutRehearsed foretold)
  · exact outcome?_events _ catalog (results_about about perm)
  · rw [← toOption_rehearse]
    exact same.filterMap Except.toOption
  · intro name
    have filtered : rehearsed.filter (subject? · = some name) =
        (results.filter (subject? · = some name)).map rehearse := by
      by_cases member : name ∈ pass.rules.collections
      · have distinct := pass.rules.collections.nodup
        rw [filter_results distinct aboutRehearsed foretold member,
          filter_results distinct about perm member]
        rfl
      · rw [filter_results_stranger aboutRehearsed foretold member,
          filter_results_stranger about perm member]
        rfl
    rw [filter_reports, filter_reports, filtered, toOption_rehearse]
  · rw [← total]
    exact Summary.same_of_perm same _
  · intro order
    rw [subjects_events, subjects_events] at order
    have equal : rehearsed = results.map rehearse :=
      calc
        rehearsed = (rehearsed.filterMap subject?).map fun name => rehearse (result name) :=
          eq_map_subjects aboutRehearsed foretold
        _ = ((results.filterMap subject?).map result).map rehearse := by
          rw [order, List.map_map]
          rfl
        _ = results.map rehearse := by rw [← eq_map_subjects about perm]
    rw [equal, toOption_rehearse, total]

theorem task_foretold (pass : Pass) (catalog : List Item) {memory : MemoryStore}
    (permits : ∀ name item, (name, some item) ∉ memory.refusals) (name : String) :
    (pass.rehearsal.task catalog name).look memory.members =
      some (rehearse (Flight.alone (pass.real.task catalog) memory name).1) := by
  have answer : memory.members name = _ := congrArg Prod.fst (MemoryStore.members_run memory name)
  rw [task_look, Flight.alone, task_cell, answer]
  by_cases stopped : (name, none) ∈ memory.refusals
  · simp only [stopped, if_true]
    rfl
  · simp only [stopped, if_false]
    have foretold := reconcile_foretold permits stopped (pass.rules.rulesFor name) catalog
      (memory.collections.get? name) pass.real.options rfl
    exact congrArg (fun report => some (Except.ok report)) foretold.symm

/-- The work on one collection leaves it as it tells, or alone if it could not be looked up. -/
theorem task_told {pass : Pass} (real : pass.options.dryRun = false) (catalog : List Item)
    (memory : MemoryStore) (name : String) :
    let ran := Flight.alone (pass.task catalog) memory name
    (∀ report, ran.1 = .ok report → ran.2 = report.leaves (memory.collections.get? name)) ∧
      ∀ error, ran.1 = .error error → ran.2 = memory.collections.get? name := by
  rw [Flight.alone, task_cell]
  by_cases stopped : (name, none) ∈ memory.refusals
  · rw [if_pos stopped]
    refine ⟨fun report told => ?_, fun _ _ => rfl⟩
    cases told
  · rw [if_neg stopped]
    refine ⟨fun report told => ?_, fun error told => ?_⟩
    · rw [← Except.ok.inj told]
      exact reconcile_told memory.refusals name _ catalog _ real
    · cases told

/-- What a pass makes of a store is what its reports tell. -/
theorem effected_of_settled (pass : Pass) (real : pass.options.dryRun = false) {catalog : List Item}
    {before after : MemoryStore} {results : List (Except PassError Report)}
    (settled : Flight.Settled pass.rules.collections.toList (pass.task catalog) before results
      after) :
    Effected (results.filterMap Except.toOption) before.collections after.collections := by
  have about name report
      (told : (Flight.alone (pass.task catalog) before name).1 = .ok report) :
      report.plan.collection = name := by
    have subject := pass.subject?_alone catalog before name
    rw [told] at subject
    exact Option.some.inj subject
  refine ⟨fun report mem => ?_, fun name unnamed => ?_⟩
  · have listed := settled.results.subset (mem_reports_iff.1 mem)
    obtain ⟨name, member, told⟩ := List.mem_map.1 listed
    rw [about name report told, settled.members name member]
    exact (task_told real catalog before name).1 report told
  · by_cases member : name ∈ pass.rules.collections.toList
    · rw [settled.members name member]
      cases told : (Flight.alone (pass.task catalog) before name).1 with
      | error error => exact (task_told real catalog before name).2 error told
      | ok report =>
        have listed : .ok report ∈ results :=
          settled.results.symm.subset (List.mem_map.2 ⟨name, member, told⟩)
        exact absurd (about name report told) (unnamed report (mem_reports_iff.2 listed))
    · exact settled.others name member

variable {pass : Pass}

/-- A dry run changes nothing, and foretells what becomes of each collection. -/
theorem rehearsal_gives (catalog : List Item) {m : Type → Type} [Monad m] [LawfulMonad m]
    {still : Stillness m} {store : Store m} {memory : MemoryStore}
    (permits : ∀ name item, (name, some item) ∉ memory.refusals)
    (lookups : ∀ name, still.Gives (store.members name) (memory.members name)) (turns : List Nat) :
    ∃ results,
      still.Gives (pass.rehearsal.run (pure (.ok catalog)) store turns)
        (pass.rehearsal.events catalog results) ∧
      results.Perm (pass.rules.collections.toList.map fun name =>
        rehearse (Flight.alone (pass.real.task catalog) memory name).1) :=
  Stillness.pass lookups (fun name _ => pass.task_foretold catalog permits name) turns

/-- Once a pass has settled, its dry run has foretold what is told and what is left. -/
theorem settled_foretold {catalog : List Item} {before after : MemoryStore}
    {results rehearsed : List (Except PassError Report)}
    (settled : Flight.Settled pass.rules.collections.toList (pass.real.task catalog) before results
      after)
    (foretold : rehearsed.Perm (pass.rules.collections.toList.map fun name =>
      rehearse (Flight.alone (pass.real.task catalog) before name).1)) :
    ∃ expected told,
      Foretells (pass.rehearsal.events catalog rehearsed) (pass.real.events catalog results)
        expected told ∧
      Effected expected.1 before.collections after.collections := by
  have foretells := foretells catalog (pass.real.subject?_alone catalog before) settled.results
    foretold
  exact ⟨_, _, foretells, (effected_of_settled pass.real rfl settled).rehearsed foretells.reports⟩

theorem memory_foretold (catalog : List Item) (turns rehearsalTurns : List Nat)
    {before : MemoryStore} (permits : ∀ name item, (name, some item) ∉ before.refusals) :
    ∃ events after rehearsed expected told,
      (pass.real.run (pure (.ok catalog)) MemoryStore.store turns).run before = (events, after) ∧
      (pass.rehearsal.run (pure (.ok catalog)) MemoryStore.store rehearsalTurns).run before =
        (rehearsed, before) ∧
      Foretells rehearsed events expected told ∧
      Effected expected.1 before.collections after.collections := by
  have settled := Flight.run_settles pass.rules.collections.nodup
    (pass.real.task_concerns catalog) before pass.real.options.concurrency turns
  have lookups name : (Stillness.stateful .stateless before).Gives
      (MemoryStore.store.members name) (before.members name) := rfl
  obtain ⟨results, gives, perm⟩ := rehearsal_gives catalog permits lookups rehearsalTurns
  obtain ⟨expected, told, foretells, effected⟩ := settled_foretold settled perm
  exact ⟨_, _, _, expected, told, run_fetched .., gives, foretells, effected⟩

/-- A dry run over a file store foretells the pass, too, and does not touch the disk. -/
theorem file_foretold (catalog : List Item) (turns rehearsalTurns : List Nat) {δ : Type}
    {disk : Disk (StateM δ)} {path : String} {fit : δ → Prop}
    (grants : FileStore.Grants disk path fit) {s : FileStore} {d : δ} (isFit : fit d)
    (agrees : FileStore.Agrees disk path s d) :
    ∃ events after left rehearsed expected told,
      ((pass.real.run (pure (.ok catalog)) (FileStore.store disk) turns).run s).run d =
        ((events, after), left) ∧
      ((pass.rehearsal.run (pure (.ok catalog)) (FileStore.store disk) rehearsalTurns).run s).run
        d = ((rehearsed, s), d) ∧
      Foretells rehearsed events expected told ∧
      Effected expected.1 s.collections after.collections ∧
      FileStore.Agrees disk path after left := by
  let memory : MemoryStore := ⟨s.collections, [], []⟩
  let flight := Flight.start pass.real.options.concurrency (pass.real.tasks catalog)
  let ran := ((flight.run (FileStore.store disk) turns).run s).run d
  obtain ⟨settled, mirrored⟩ := pass.real.flight_mirrored catalog turns grants isFit agrees
  have lookups name : (Stillness.stateful (Stillness.stateful .stateless d) s).Gives
      ((FileStore.store disk).members name) (memory.members name) := rfl
  obtain ⟨results, gives, perm⟩ := rehearsal_gives catalog
    (fun _ _ => List.not_mem_nil) lookups rehearsalTurns
  obtain ⟨expected, told, foretells, effected⟩ := settled_foretold settled perm
  rw [mirrored.collections] at effected
  exact ⟨pass.real.events catalog ran.1.1, ran.1.2, ran.2, _, expected, told, rfl, gives, foretells,
    effected, mirrored.agrees⟩

/-- A dry run tells what the pass would tell: of every collection the same, and the same totals. The
changes it tells of are those by which the pass leaves other collections than it finds, in the file,
too, if they are in one. The dry run itself leaves the store as it is, and the disk of a file store.
In memory, lookups may be refused, but not changes of items. -/
theorem run_foretold (pass : Pass) (catalog : List Item) (turns rehearsalTurns : List Nat) :
    (∀ before : MemoryStore, (∀ name item, (name, some item) ∉ before.refusals) →
      ∃ events after rehearsed expected told,
        (pass.real.run (pure (.ok catalog)) MemoryStore.store turns).run before = (events, after) ∧
        (pass.rehearsal.run (pure (.ok catalog)) MemoryStore.store rehearsalTurns).run before =
          (rehearsed, before) ∧
        Foretells rehearsed events expected told ∧
        Effected expected.1 before.collections after.collections) ∧
    ∀ (δ : Type) (disk : Disk (StateM δ)) (path : String) (fit : δ → Prop),
      FileStore.Grants disk path fit → ∀ (s : FileStore) (d : δ), fit d →
      ((FileStore.load disk path).run d).1 = .ok s →
      ∃ events after left rehearsed expected told,
        ((pass.real.run (pure (.ok catalog)) (FileStore.store disk) turns).run s).run d =
          ((events, after), left) ∧
        ((pass.rehearsal.run (pure (.ok catalog)) (FileStore.store disk) rehearsalTurns).run s).run
          d = ((rehearsed, s), d) ∧
        Foretells rehearsed events expected told ∧
        Effected expected.1 s.collections after.collections ∧
        (FileStore.load disk path).run left = (.ok after, left) := by
  constructor
  · intro before permits
    exact memory_foretold catalog turns rehearsalTurns permits
  · intro δ disk path fit grants s d isFit opened
    have agrees := FileStore.agrees_of_load grants.toReplaces opened
    exact file_foretold catalog turns rehearsalTurns grants isFit agrees

/-- One collection is emptied and deleted, one comes into being, and one cannot be looked up. -/
theorem run_foretold_emptied :
    let pass : Pass :=
      ⟨RuleSet.compile
        ⟨[⟨"Thing", "Horror", true⟩, ⟨"Fargo", "Crime", true⟩, ⟨"Heat", "Heist", true⟩], []⟩,
        { removeEmpty := true }⟩
    let catalog : List Item := [.titled "A" "The Thing", .titled "B" "Heat"]
    let before : MemoryStore := ⟨.ofList [("Crime", .ofList ["C"])], [("Heist", none)], []⟩
    let disk : FaultyDisk := ⟨fun _ => none, []⟩
    (∀ name item, (name, some item) ∉ before.refusals) ∧
      FileStore.Grants FaultyDisk.disk "c.json" (fun d => d.faults = []) ∧ disk.faults = [] ∧
      ((FileStore.load FaultyDisk.disk "c.json").run disk).1 = .ok ⟨"c.json", .empty⟩ ∧
      (∃ events after rehearsed expected told,
        (pass.real.run (pure (.ok catalog)) MemoryStore.store [1, 0, 1]).run before =
          (events, after) ∧
        (pass.rehearsal.run (pure (.ok catalog)) MemoryStore.store [0]).run before =
          (rehearsed, before) ∧
        Foretells rehearsed events expected told ∧
        Effected expected.1 before.collections after.collections ∧
        told.2 = ⟨false, 2, 0, ["Heist"], 1, 1, 0, 0⟩) ∧
      ∃ events after left rehearsed expected told,
        ((pass.real.run (pure (.ok catalog)) (FileStore.store FaultyDisk.disk) []).run
          ⟨"c.json", .empty⟩).run disk = ((events, after), left) ∧
        ((pass.rehearsal.run (pure (.ok catalog)) (FileStore.store FaultyDisk.disk) []).run
          ⟨"c.json", .empty⟩).run disk = ((rehearsed, ⟨"c.json", .empty⟩), disk) ∧
        Foretells rehearsed events expected told ∧
        Effected expected.1 .empty after.collections ∧
        (FileStore.load FaultyDisk.disk "c.json").run left = (.ok after, left) := by
  intro pass catalog before disk
  have permits : ∀ name item, (name, some item) ∉ before.refusals := by
    intro name item
    simp [before]
  have named : Path.name? "c.json" = some "c.json" := by decide +kernel
  have grants : FileStore.Grants FaultyDisk.disk "c.json" fun d => d.faults = [] :=
    FaultyDisk.grants named
  obtain ⟨events, after, rehearsed, expected, told, ran, rehearsal, foretells, effected⟩ :=
    (run_foretold pass catalog [1, 0, 1] [0]).1 before permits
  refine ⟨permits, grants, rfl, rfl, ⟨events, after, rehearsed, expected, told, ran, rehearsal,
    foretells, effected, ?_⟩, (run_foretold pass catalog [] []).2 _ _ _ _ grants _ _ rfl rfl⟩
  have totals : (outcome? ((pass.real.run (pure (.ok catalog)) MemoryStore.store [1, 0, 1]).run
      before).1).bind (fun outcome => outcome.toOption.map Prod.snd) =
      some ⟨false, 2, 0, ["Heist"], 1, 1, 0, 0⟩ := by decide +kernel
  rw [ran, foretells.tells] at totals
  exact Option.some.inj totals

end Pass

end SmartCollections
