import SmartCollections.Proofs.Mirror
import SmartCollections.Proofs.Outcome

/-!
# A pass does not depend on its turns

However the tasks of a pass take turns, each collection comes out as if the collections had been
worked on one after another, by name. This goes for a store in memory, whatever it refuses, and for
a file store on a disk without faults.
-/

namespace SmartCollections

namespace Task

variable {α β : Type} {P : α → Prop} {Q : β → Prop}

/-- Whatever the answers to its calls, the task ends with a result of the given kind. -/
inductive Ends (P : α → Prop) : Task α → Prop where
  | done (value : α) (holds : P value) : Ends P (.done value)
  | lookup (collection : String) (next : Except HostError (Option StringSet) → Task α)
      (rest : ∀ answer, Ends P (next answer)) : Ends P (.lookup collection next)
  | mutate (mutation : Mutation) (next : Except HostError Unit → Task α)
      (rest : ∀ answer, Ends P (next answer)) : Ends P (.mutate mutation next)

theorem Ends.all (task : Task α) : task.Ends fun _ => True := by
  induction task with
  | done value => exact .done value trivial
  | lookup collection next ih => exact .lookup collection next ih
  | mutate mutation next ih => exact .mutate mutation next ih

theorem Ends.bind {task : Task α} {next : α → Task β} (first : task.Ends P)
    (rest : ∀ value, P value → (next value).Ends Q) : (task >>= next).Ends Q := by
  change (task.bind next).Ends Q
  induction first with
  | done value holds => exact rest value holds
  | lookup collection step _ ih => exact .lookup collection _ ih
  | mutate mutation step _ ih => exact .mutate mutation _ ih

/-- The result of a run is of the kind that the task ends with. -/
theorem Ends.run {σ : Type} {task : Task α} (ends : task.Ends P) (store : Store (StateM σ))
    (s : σ) :
    P ((task.run store).run s).1 := by
  induction ends generalizing s with
  | done value holds => exact holds
  | lookup collection next _ ih => exact ih _ _
  | mutate mutation next _ ih => exact ih _ _

theorem Ends.step {σ : Type} {task : Task α} (ends : task.Ends P) (store : Store (StateM σ))
    (s : σ) : ((task.step store).run s).1.Ends P := by
  cases ends with
  | done value holds => exact .done value holds
  | lookup collection next rest => exact rest _
  | mutate mutation next rest => exact rest _

end Task

/-- A report is about the plan that was carried out. -/
theorem Plan.apply_ends (plan : Plan) (options : Options) :
    (plan.apply options).Ends fun report => report.plan = plan := by
  rw [apply]
  split
  · exact .done _ rfl
  · split
    · refine .bind (.all _) fun outcome _ => ?_
      cases outcome <;> exact .done _ rfl
    · refine .bind (.all _) fun added _ => .bind (.all _) fun removed _ => ?_
      dsimp only
      split
      · refine .bind (.all _) fun outcome _ => ?_
        cases outcome <;> exact .done _ rfl
      · exact .done _ rfl

namespace Pass

def subject? : Except PassError Report → Option String
  | .ok report => some report.plan.collection
  | .error (.membership collection _) => some collection
  | .error _ => none

theorem task_ends (pass : Pass) (catalog : List Item) (name : String) :
    (pass.task catalog name).Ends fun result => subject? result = some name := by
  refine .lookup _ _ fun answer => ?_
  cases answer with
  | error cause => exact .done _ rfl
  | ok members =>
    let plan := reconcile name (pass.rules.rulesFor name) catalog members
    refine (plan.apply_ends pass.options).bind fun report about => .done _ ?_
    simp [subject?, about, plan, reconcile]

theorem subject?_alone (pass : Pass) (catalog : List Item) (memory : MemoryStore) (name : String) :
    subject? (Flight.alone (pass.task catalog) memory name).1 = some name :=
  (pass.task_ends catalog name).run _ _

end Pass

namespace Summary

/-- The totals of both summaries together. -/
def add (s part : Summary) : Summary :=
  { s with
    updated := s.updated + part.updated
    unchanged := s.unchanged + part.unchanged
    failed := s.failed ++ part.failed
    added := s.added + part.added
    removed := s.removed + part.removed
    mutationFailures := s.mutationFailures + part.mutationFailures }

/-- A result counts the same, whatever was counted before it. -/
theorem count_eq_add (s : Summary) (result : Except PassError Report) :
    s.count result = s.add ((start false 0).count result) := by
  rcases result with (_ | _ | _) | report <;> simp [count, record, add, start]

/-- The summaries differ in no more than the order of the failed collections. -/
structure Same (s t : Summary) : Prop where
  dryRun : s.dryRun = t.dryRun
  updated : s.updated = t.updated
  unchanged : s.unchanged = t.unchanged
  failed : s.failed.Perm t.failed
  added : s.added = t.added
  removed : s.removed = t.removed
  mutationFailures : s.mutationFailures = t.mutationFailures
  rulesWithErrors : s.rulesWithErrors = t.rulesWithErrors

theorem Same.refl (s : Summary) : s.Same s := ⟨rfl, rfl, rfl, .refl _, rfl, rfl, rfl, rfl⟩

theorem Same.trans {s t u : Summary} (first : s.Same t) (second : t.Same u) : s.Same u where
  dryRun := first.dryRun.trans second.dryRun
  updated := first.updated.trans second.updated
  unchanged := first.unchanged.trans second.unchanged
  failed := first.failed.trans second.failed
  added := first.added.trans second.added
  removed := first.removed.trans second.removed
  mutationFailures := first.mutationFailures.trans second.mutationFailures
  rulesWithErrors := first.rulesWithErrors.trans second.rulesWithErrors

theorem Same.add {s t : Summary} (same : s.Same t) (part : Summary) : (s.add part).Same (t.add part)
    where
  dryRun := same.dryRun
  updated := congrArg (· + part.updated) same.updated
  unchanged := congrArg (· + part.unchanged) same.unchanged
  failed := same.failed.append_right _
  added := congrArg (· + part.added) same.added
  removed := congrArg (· + part.removed) same.removed
  mutationFailures := congrArg (· + part.mutationFailures) same.mutationFailures
  rulesWithErrors := same.rulesWithErrors

theorem add_swap (s first second : Summary) :
    ((s.add first).add second).Same ((s.add second).add first) where
  dryRun := rfl
  updated := Nat.add_right_comm ..
  unchanged := Nat.add_right_comm ..
  failed := by
    simp only [add, List.append_assoc]
    exact List.perm_append_comm.append_left _
  added := Nat.add_right_comm ..
  removed := Nat.add_right_comm ..
  mutationFailures := Nat.add_right_comm ..
  rulesWithErrors := rfl

theorem Same.foldl {s t : Summary} (same : s.Same t) (results : List (Except PassError Report)) :
    (results.foldl count s).Same (results.foldl count t) := by
  induction results generalizing s t with
  | nil => exact same
  | cons result results ih =>
    rw [List.foldl_cons, List.foldl_cons, count_eq_add, count_eq_add t]
    exact ih (same.add _)

/-- The order of the results matters to the order of the failed collections alone. -/
theorem same_of_perm {results others : List (Except PassError Report)}
    (perm : results.Perm others) (s : Summary) :
    (results.foldl count s).Same (others.foldl count s) := by
  induction perm generalizing s with
  | nil => exact .refl s
  | cons result _ ih => exact ih (s.count result)
  | swap first second results =>
    have swapped : ((s.count second).count first).Same ((s.count first).count second) := by
      rw [count_eq_add, count_eq_add s, count_eq_add (s.count first), count_eq_add s first]
      exact add_swap ..
    exact swapped.foldl results
  | trans _ _ ih₁ ih₂ => exact (ih₁ s).trans (ih₂ s)

end Summary

namespace Pass

def ordered {m : Type → Type} [Monad m] (pass : Pass) (catalog : List Item) (store : Store m) :
    m (List (Except PassError Report)) :=
  (pass.tasks catalog).mapM (Task.run store)

/-- Two lists of results of a pass tell the same of every collection, once each, and sum up to the
same. -/
structure SameResults (pass : Pass) (results others : List (Except PassError Report)) : Prop where
  perm : results.Perm others
  each : ∀ name ∈ pass.rules.collections, ∃ result,
    results.filter (subject? · = some name) = [result] ∧
      others.filter (subject? · = some name) = [result]
  summary : (pass.summarize results).Same (pass.summarize others)

theorem filter_results {names : List String} (distinct : names.Nodup)
    {result : String → Except PassError Report}
    (about : ∀ name, subject? (result name) = some name) {results : List (Except PassError Report)}
    (perm : results.Perm (names.map result)) {name : String} (member : name ∈ names) :
    results.filter (subject? · = some name) = [result name] := by
  have filtered := perm.filter (subject? · = some name)
  have single : (names.map result).filter (subject? · = some name) = [result name] := by
    have chosen : names.filter (· = name) = [name] := by
      rw [List.filter_eq, distinct.count, if_pos member]
      rfl
    rw [List.filter_map]
    simp [Function.comp_def, about, chosen]
  rw [single] at filtered
  exact List.perm_singleton.1 filtered

theorem sameResults {pass : Pass} {catalog : List Item} {before after other : MemoryStore}
    {results others : List (Except PassError Report)}
    (first : Flight.Settled pass.rules.collections.toList (pass.task catalog) before results after)
    (second :
      Flight.Settled pass.rules.collections.toList (pass.task catalog) before others other) :
    pass.SameResults results others := by
  have perm := (first.unique second).1
  have about := pass.subject?_alone catalog before
  let alone name := (Flight.alone (pass.task catalog) before name).1
  refine ⟨perm, fun name member => ⟨alone name, ?_, ?_⟩, Summary.same_of_perm perm _⟩
  · exact filter_results pass.rules.collections.nodup about first.results member
  · exact filter_results pass.rules.collections.nodup about second.results member

/-- On a fit disk, the tasks come to what they come to over a store in memory, which refuses nothing
and holds the same collections afterwards. -/
theorem flight_mirrored (pass : Pass) (catalog : List Item) (turns : List Nat) {δ : Type}
    {disk : Disk (StateM δ)} {path : String} {fit : δ → Prop}
    (grants : FileStore.Grants disk path fit) {s : FileStore} {d : δ} (isFit : fit d)
    (agrees : FileStore.Agrees disk path s d) :
    let flight := Flight.start pass.options.concurrency (pass.tasks catalog)
    let memory : MemoryStore := ⟨s.collections, [], []⟩
    let ran := ((flight.run (FileStore.store disk) turns).run s).run d
    let inMemory := (flight.run MemoryStore.store turns).run memory
    Flight.Settled pass.rules.collections.toList (pass.task catalog) memory ran.1.1 inMemory.2 ∧
      FileStore.Mirrored disk path fit ran.1.2 ran.2 inMemory.2 := by
  intro flight memory ran inMemory
  obtain ⟨told, mirrored⟩ := (FileStore.stores_mirrored grants).flight flight turns s d memory
    ⟨rfl, rfl, isFit, agrees⟩
  refine ⟨?_, mirrored⟩
  have same : ran.1.1 = inMemory.1 := told
  rw [same]
  exact Flight.run_settles pass.rules.collections.nodup (pass.task_concerns catalog) memory
    pass.options.concurrency turns

/-- The turns make no difference to a store in memory. -/
theorem memory_independent (pass : Pass) (catalog : List Item) (turns : List Nat)
    (before : MemoryStore) :
    let ran := ((Flight.start pass.options.concurrency (pass.tasks catalog)).run MemoryStore.store
      turns).run before
    let ordered := (pass.ordered catalog MemoryStore.store).run before
    pass.SameResults ran.1 ordered.1 ∧ ran.2.collections = ordered.2.collections := by
  intro ran ordered
  have distinct := pass.rules.collections.nodup
  have settled := Flight.run_settles distinct (pass.task_concerns catalog) before
    pass.options.concurrency turns
  have inOrder := (Flight.sequence_settles distinct (pass.task_concerns catalog) before).1
  exact ⟨sameResults settled inOrder, (settled.unique inOrder).2⟩

/-- Nor do they to a file store on a fit disk, and nothing is missing from the file afterwards. -/
theorem file_independent (pass : Pass) (catalog : List Item) (turns : List Nat) {δ : Type}
    {disk : Disk (StateM δ)} {path : String} {fit : δ → Prop}
    (grants : FileStore.Grants disk path fit) {s : FileStore} {d : δ} (isFit : fit d)
    (agrees : FileStore.Agrees disk path s d) :
    let ran := (((Flight.start pass.options.concurrency (pass.tasks catalog)).run
      (FileStore.store disk) turns).run s).run d
    let ordered := ((pass.ordered catalog (FileStore.store disk)).run s).run d
    pass.SameResults ran.1.1 ordered.1.1 ∧ ran.1.2.collections = ordered.1.2.collections ∧
      FileStore.Agrees disk path ran.1.2 ran.2 := by
  intro ran ordered
  let memory : MemoryStore := ⟨s.collections, [], []⟩
  obtain ⟨settled, left⟩ := pass.flight_mirrored catalog turns grants isFit agrees
  obtain ⟨toldInOrder, leftInOrder⟩ := Likeness.mapM (FileStore.stores_mirrored grants).run
    (pass.tasks catalog) s d memory ⟨rfl, rfl, isFit, agrees⟩
  have inOrder := (Flight.sequence_settles pass.rules.collections.nodup
    (pass.task_concerns catalog) memory).1
  have collections := (settled.unique inOrder).2
  rw [left.collections] at collections
  refine ⟨?_, collections.trans leftInOrder.collections, left.agrees⟩
  have same : ordered.1.1 = _ := toldInOrder
  rw [same]
  exact sameResults settled inOrder

/-- However the tasks take turns, a pass tells of every collection what it would tell if the
collections were worked on by name, and leaves the same collections behind. On a fit disk a file
store keeps them all in its file. -/
theorem run_independent (pass : Pass) (catalog : List Item) (turns : List Nat) :
    (∀ before : MemoryStore,
      let ordered := (pass.ordered catalog MemoryStore.store).run before
      ∃ results after,
        (pass.run (pure (.ok catalog)) MemoryStore.store turns).run before =
          (pass.events catalog results, after) ∧
        pass.SameResults results ordered.1 ∧ after.collections = ordered.2.collections) ∧
    ∀ (δ : Type) (disk : Disk (StateM δ)) (path : String) (fit : δ → Prop),
      FileStore.Grants disk path fit → ∀ (s : FileStore) (d : δ), fit d →
      ((FileStore.load disk path).run d).1 = .ok s →
      let ordered := ((pass.ordered catalog (FileStore.store disk)).run s).run d
      ∃ results after left,
        ((pass.run (pure (.ok catalog)) (FileStore.store disk) turns).run s).run d =
          ((pass.events catalog results, after), left) ∧
        pass.SameResults results ordered.1.1 ∧ after.collections = ordered.1.2.collections ∧
        (FileStore.load disk path).run left = (.ok after, left) := by
  constructor
  · intro before
    exact ⟨_, _, run_fetched .., pass.memory_independent catalog turns before⟩
  · intro δ disk path fit grants s d isFit opened
    have agrees := FileStore.agrees_of_load grants.toReplaces opened
    let ran := (((Flight.start pass.options.concurrency (pass.tasks catalog)).run
      (FileStore.store disk) turns).run s).run d
    exact ⟨ran.1.1, ran.1.2, ran.2, rfl, pass.file_independent catalog turns grants isFit agrees⟩

/-- Two collections that come into being in turns are both in the file at the end. -/
theorem run_independent_two_collections :
    let pass : Pass :=
      ⟨RuleSet.compile ⟨[⟨"Thing", "Horror", true⟩, ⟨"Heat", "Crime", true⟩], []⟩, {}⟩
    let catalog : List Item := [.titled "A" "The Thing", .titled "B" "Heat"]
    let before : FaultyDisk := ⟨fun _ => none, []⟩
    let store := FileStore.store FaultyDisk.disk
    FileStore.Grants FaultyDisk.disk "c.json" (fun d => d.faults = []) ∧ before.faults = [] ∧
      ((FileStore.load FaultyDisk.disk "c.json").run before).1 = .ok ⟨"c.json", .empty⟩ ∧
      ∃ results after left,
        ((pass.run (pure (.ok catalog)) store [1, 0, 0, 1]).run ⟨"c.json", .empty⟩).run before =
          ((pass.events catalog results, after), left) ∧
        after.collections.get? "Horror" = some (.ofList ["A"]) ∧
        after.collections.get? "Crime" = some (.ofList ["B"]) ∧
        (FileStore.load FaultyDisk.disk "c.json").run left = (.ok after, left) := by
  intro pass catalog before store
  have named : Path.name? "c.json" = some "c.json" := by decide +kernel
  have grants : FileStore.Grants FaultyDisk.disk "c.json" fun d => d.faults = [] :=
    FaultyDisk.grants named
  have opened : ((FileStore.load FaultyDisk.disk "c.json").run before).1 = .ok ⟨"c.json", .empty⟩ :=
    rfl
  obtain ⟨results, after, left, ran, _, collections, file⟩ :=
    (run_independent pass catalog [1, 0, 0, 1]).2 _ _ _ _ grants _ before rfl opened
  refine ⟨grants, rfl, opened, results, after, left, ran, ?_, ?_, file⟩
  · rw [collections]
    decide +kernel
  · rw [collections]
    decide +kernel

end Pass

end SmartCollections
