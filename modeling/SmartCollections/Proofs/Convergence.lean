import SmartCollections.Proofs.Reports
import SmartCollections.Proofs.Stillness

/-!
# Convergence

A pass compares the collections with what they should be, not with what earlier passes have done.
However many passes before it were hindered, a pass that nothing hinders leaves what it would have
left without them, and after it there is nothing to do.
-/

namespace SmartCollections

/-- The report tells of no change, and of no failure. -/
def Report.Quiet (report : Report) : Prop := report.isChanged = false ∧ report.isFailed = false

theorem Plan.idle_quiet (plan : Plan) : plan.idle.Quiet := ⟨rfl, rfl⟩

namespace Pass

variable {pass : Pass} {catalog : List Item}

theorem leaves_unhindered (pass : Pass) (catalog : List Item) (name : String)
    (members : Option StringSet) :
    pass.leaves catalog [] name members =
      if desiredMembers (pass.rules.rulesFor name) catalog = .empty then
        if pass.options.removeEmpty then none else members.map fun _ => .empty
      else some (desiredMembers (pass.rules.rulesFor name) catalog) := by
  simp only [leaves, List.not_mem_nil, if_false]
  generalize desiredMembers (pass.rules.rulesFor name) catalog = desired
  cases members with
  | none => by_cases nothing : desired = .empty <;> simp [nothing]
  | some members =>
    have left : (members ∪ (desired \ members).free [] name) \ (members \ desired).free [] name =
        desired := by
      refine StringSet.ext_mem fun item => ?_
      simp only [StringSet.mem_sdiff, StringSet.mem_union, StringSet.mem_free, List.not_mem_nil]
      grind
    dsimp only
    rw [left]
    by_cases nothing : desired = .empty
    · subst nothing
      by_cases deletes : pass.options.removeEmpty = true
      · simp [deletes]
      · simp [deletes]
    · simp [nothing]

/-- A collection that a hindered pass has worked on is no further from what it should be, and no
nearer to being missing. -/
theorem leaves_absorbs (pass : Pass) (catalog : List Item) (refusals : List RefusalKey)
    (name : String) (members : Option StringSet) :
    pass.leaves catalog [] name (pass.leaves catalog refusals name members) =
      pass.leaves catalog [] name members := by
  rw [leaves_unhindered, leaves_unhindered]
  by_cases nothing : desiredMembers (pass.rules.rulesFor name) catalog = .empty
  · rw [if_pos nothing, if_pos nothing]
    by_cases deletes : pass.options.removeEmpty = true
    · rw [if_pos deletes, if_pos deletes]
    · rw [if_neg deletes, if_neg deletes]
      by_cases stopped : (name, none) ∈ refusals
      · simp [leaves, stopped]
      · cases members with
        | none => simp [leaves, stopped, nothing]
        | some members => simp [leaves, stopped, deletes]
  · rw [if_neg nothing, if_neg nothing]

/-- A collection is as a pass would leave it if it has what it should have, or is missing and should
have nothing; an empty one must not be up for deletion. -/
theorem settled_cases {name : String} {members : Option StringSet}
    (settled : pass.leaves catalog [] name members = members) :
    let desired := desiredMembers (pass.rules.rulesFor name) catalog
    members = none ∧ desired = .empty ∨
      members = some desired ∧ (desired = .empty → pass.options.removeEmpty = false) := by
  intro desired
  rw [leaves_unhindered] at settled
  by_cases nothing : desired = .empty
  · rw [if_pos nothing] at settled
    by_cases deletes : pass.options.removeEmpty = true
    · rw [if_pos deletes] at settled
      exact .inl ⟨settled.symm, nothing⟩
    · rw [if_neg deletes] at settled
      cases members with
      | none => exact .inl ⟨rfl, nothing⟩
      | some members =>
        refine .inr ⟨?_, fun _ => Bool.eq_false_iff.2 deletes⟩
        rw [← settled, nothing]
        rfl
  · rw [if_neg nothing] at settled
    exact .inr ⟨settled.symm, fun empty => absurd empty nothing⟩

theorem apply_settled (real : pass.options.dryRun = false) {name : String}
    {members : Option StringSet} (settled : pass.leaves catalog [] name members = members) :
    let plan := reconcile name (pass.rules.rulesFor name) catalog members
    plan.apply pass.options = .done plan.idle := by
  rcases settled_cases settled with ⟨missing, nothing⟩ | ⟨present, keeps⟩
  · subst missing
    obtain ⟨_, _, ⟨something, _⟩ | ⟨_, _, idle⟩⟩ :=
      reconcile_missing name (pass.rules.rulesFor name) catalog real
    · exact absurd nothing something
    · exact idle
  · subst present
    obtain ⟨toAdd, toRemove, empties, applies⟩ :=
      reconcile_existing name (pass.rules.rulesFor name) catalog
        (desiredMembers (pass.rules.rulesFor name) catalog) real
    have difference (items : StringSet) : items \ items = .empty :=
      StringSet.ext_mem fun item => by simp
    refine applies.trans (Plan.applyChanges_nothing (toAdd.trans (difference _))
      (toRemove.trans (difference _)) ?_)
    rw [Bool.and_eq_false_iff, or_iff_not_imp_right, Bool.not_eq_false, empties]
    exact keeps

theorem task_settled (real : pass.options.dryRun = false)
    {answers : String → Except HostError (Option StringSet)} {name : String}
    {members : Option StringSet} (answer : answers name = .ok members)
    (settled : pass.leaves catalog [] name members = members) :
    let plan := reconcile name (pass.rules.rulesFor name) catalog members
    (pass.task catalog name).look answers = some (.ok plan.idle) := by
  intro plan
  rw [task_look, answer]
  simp only [apply_settled real settled]
  rfl

/-- What a pass that nothing hinders makes of the collections. -/
def goal (pass : Pass) (catalog : List Item) (collections : Collections) (name : String) :
    Option StringSet :=
  if name ∈ pass.rules.collections then pass.leaves catalog [] name (collections.get? name)
  else collections.get? name

theorem goal_of_rule {rule : CompiledRule} (kept : rule ∈ pass.rules.rules)
    (collections : Collections) :
    pass.goal catalog collections rule.collection =
      if desiredMembers (pass.rules.rulesFor rule.collection) catalog = .empty then
        if pass.options.removeEmpty then none
        else (collections.get? rule.collection).map fun _ => .empty
      else some (desiredMembers (pass.rules.rulesFor rule.collection) catalog) := by
  rw [goal, if_pos (mem_collections.2 ⟨rule, kept, rfl⟩), leaves_unhindered]

theorem goal_of_unnamed {name : String}
    (unnamed : ∀ rule ∈ pass.rules.rules, rule.collection ≠ name) (collections : Collections) :
    pass.goal catalog collections name = collections.get? name := by
  rw [goal, if_neg]
  intro named
  obtain ⟨rule, kept, same⟩ := mem_collections.1 named
  exact unnamed rule kept same

theorem at_rest_of_reached {before after : Collections}
    (reached : ∀ name, after.get? name = pass.goal catalog before name) (name : String) :
    pass.goal catalog after name = after.get? name := by
  rw [goal, reached, goal]
  split
  · exact leaves_absorbs pass catalog [] name (before.get? name)
  · rfl

/-- A pass that is hindered changes nothing about where an unhindered one leads. -/
theorem goal_run (real : pass.options.dryRun = false) (before : MemoryStore) (turns : List Nat) :
    let after := ((pass.run (pure (.ok catalog)) MemoryStore.store turns).run before).2
    pass.goal catalog after.collections = pass.goal catalog before.collections := by
  intro after
  obtain ⟨_, members⟩ := pass.run_members real catalog before turns
  funext name
  have found : after.collections.get? name = _ := members name
  rw [goal, goal, found]
  by_cases named : name ∈ pass.rules.collections
  · simp only [named, if_true]
    exact leaves_absorbs pass catalog before.refusals name _
  · simp only [named, if_false]

def untouched (pass : Pass) (catalog : List Item) (collections : Collections) (name : String) :
    Report :=
  (reconcile name (pass.rules.rulesFor name) catalog (collections.get? name)).idle

/-- At rest, every collection that a rule names is as a pass would leave it. -/
theorem settled_at_rest {collections : Collections}
    (rest : ∀ name, pass.goal catalog collections name = collections.get? name) {name : String}
    (named : name ∈ pass.rules.collections) :
    pass.leaves catalog [] name (collections.get? name) = collections.get? name := by
  have settled := rest name
  rwa [goal, if_pos named] at settled

/-- At rest, a pass makes no change at all, whatever would come of one, and finds all collections as
they should be. -/
theorem run_at_rest (real : pass.options.dryRun = false) {s : MemoryStore} (free : s.refusals = [])
    (rest : ∀ name, pass.goal catalog s.collections name = s.collections.get? name)
    (change : Mutation → StateM MemoryStore (Except HostError Unit)) (turns : List Nat) :
    ∃ results,
      (pass.run (pure (.ok catalog)) { MemoryStore.store with mutate := change } turns).run s =
        (pass.events catalog results, s) ∧
      results.Perm (pass.rules.collections.toList.map fun name =>
        .ok (pass.untouched catalog s.collections name)) := by
  let store := { MemoryStore.store with mutate := change }
  let still := Stillness.stateful .stateless s
  let answers name : Except HostError (Option StringSet) := .ok (s.collections.get? name)
  have lookups (name : String) : still.Gives (store.members name) (answers name) := by
    change (MemoryStore.store.members name).run s = (answers name, s)
    rw [MemoryStore.members_run, free, if_neg List.not_mem_nil]
  exact Stillness.pass lookups
    (fun name named => task_settled real rfl (settled_at_rest rest named)) turns

theorem foldl_count_quiet {results : List (Except PassError Report)}
    (quiet : ∀ told ∈ results, ∃ report, told = .ok report ∧ report.Quiet) (s : Summary) :
    results.foldl Summary.count s = { s with unchanged := s.unchanged + results.length } := by
  induction results generalizing s with
  | nil => rfl
  | cons told results ih =>
    obtain ⟨report, rfl, unchanged, unfailed⟩ := quiet told List.mem_cons_self
    have none : report.failures = [] := by simpa [Report.isFailed] using unfailed
    have same : (report.created = false ∧ report.deleted = false) ∧
        report.added = [] ∧ report.removed = [] := by
      simpa [Report.isChanged, and_assoc] using unchanged
    have first : s.count (.ok report) = { s with unchanged := s.unchanged + 1 } := by
      simp [Summary.count, Summary.record, unchanged, unfailed, none, same]
    rw [List.foldl_cons, first, ih fun told mem => quiet told (List.mem_cons_of_mem _ mem)]
    rw [List.length_cons, Nat.add_comm results.length, ← Nat.add_assoc]

theorem summarize_quiet {results : List (Except PassError Report)}
    (quiet : ∀ told ∈ results, ∃ report, told = .ok report ∧ report.Quiet)
    (size : results.length = pass.rules.collections.size) :
    pass.summarize results =
      { Summary.start pass.options.dryRun pass.rules.diagnostics.length with
        unchanged := pass.rules.collections.size } := by
  rw [summarize, foldl_count_quiet quiet, size, Summary.start, Nat.zero_add]

end Pass

/-- What one attempt at a pass meets with. -/
structure Attempt where
  refusals : List RefusalKey
  /-- What keeps the catalog away, if anything does. -/
  outage : Option HostError
  turns : List Nat

namespace Attempt

/-- An attempt that nothing hinders. -/
def clean (turns : List Nat) : Attempt := ⟨[], none, turns⟩

def run (pass : Pass) (catalog : List Item) (attempt : Attempt) : StateM MemoryStore (List Event) :=
  do
    modify fun s => { s with refusals := attempt.refusals }
    let fetched := match attempt.outage with
      | some cause => .error cause
      | none => .ok catalog
    pass.run (pure fetched) MemoryStore.store attempt.turns

end Attempt

namespace Pass

variable {pass : Pass} {catalog : List Item}

/-- The store after a number of attempts. -/
def after (pass : Pass) (catalog : List Item) (attempts : List Attempt) (s : MemoryStore) :
    MemoryStore :=
  attempts.foldl (fun s attempt => ((attempt.run pass catalog).run s).2) s

/-- No attempt changes anything about where an unhindered pass leads. -/
theorem goal_attempt (real : pass.options.dryRun = false) (attempt : Attempt) (s : MemoryStore) :
    pass.goal catalog ((attempt.run pass catalog).run s).2.collections =
      pass.goal catalog s.collections := by
  obtain ⟨refusals, outage, turns⟩ := attempt
  cases outage with
  | some cause => rfl
  | none => exact goal_run real { s with refusals := refusals } turns

theorem goal_after (real : pass.options.dryRun = false) (attempts : List Attempt)
    (s : MemoryStore) :
    pass.goal catalog (pass.after catalog attempts s).collections =
      pass.goal catalog s.collections := by
  induction attempts generalizing s with
  | nil => rfl
  | cons attempt attempts ih => exact (ih _).trans (goal_attempt real attempt s)

theorem clean_reaches (catalog : List Item) (real : pass.options.dryRun = false) (turns : List Nat)
    (s : MemoryStore) :
    let reached := (((Attempt.clean turns).run pass catalog).run s).2
    reached.refusals = [] ∧
      ∀ name, reached.collections.get? name = pass.goal catalog s.collections name :=
  pass.run_members real catalog { s with refusals := [] } turns

theorem after_at_rest (real : pass.options.dryRun = false) {s : MemoryStore}
    (free : s.refusals = [])
    (rest : ∀ name, pass.goal catalog s.collections name = s.collections.get? name)
    (further : List (List Nat)) : pass.after catalog (further.map .clean) s = s := by
  induction further with
  | nil => rfl
  | cons turns further ih =>
    obtain ⟨collections, refusals, journal⟩ := s
    subst free
    obtain ⟨results, ran, _⟩ := run_at_rest real rfl rest MemoryStore.store.mutate turns
    have still : (((Attempt.clean turns).run pass catalog).run ⟨collections, [], journal⟩).2 =
        ⟨collections, [], journal⟩ := congrArg Prod.snd ran
    rw [List.map_cons, after, List.foldl_cons, still]
    exact ih

theorem outcome?_untouched (real : pass.options.dryRun = false) {collections : Collections}
    {results : List (Except PassError Report)}
    (perm : results.Perm (pass.rules.collections.toList.map fun name =>
      .ok (pass.untouched catalog collections name))) :
    ∃ reports,
      outcome? (pass.events catalog results) = some (.ok (reports,
        { Summary.start false pass.rules.diagnostics.length with
          unchanged := pass.rules.collections.size })) ∧
      (reports.map fun report => (report.plan.collection, report.isChanged, report.isFailed)).Perm
        (pass.rules.collections.toList.map fun name => (name, false, false)) := by
  have about := results_about (fun _ => rfl) perm
  have quiet : ∀ told ∈ results, ∃ report, told = .ok report ∧ report.Quiet := by
    intro told mem
    obtain ⟨name, _, rfl⟩ := List.mem_map.1 (perm.subset mem)
    exact ⟨_, rfl, Plan.idle_quiet _⟩
  have size : results.length = pass.rules.collections.size := by
    rw [perm.length_eq, List.length_map, StringSet.size]
  have total : pass.summarize results =
      { Summary.start false pass.rules.diagnostics.length with
        unchanged := pass.rules.collections.size } := by
    rw [summarize_quiet quiet size, real]
  have listed : (pass.rules.collections.toList.map fun name =>
        (.ok (pass.untouched catalog collections name) : Except PassError Report)).filterMap
        Except.toOption =
      pass.rules.collections.toList.map (pass.untouched catalog collections) := by
    rw [List.filterMap_map, ← List.filterMap_eq_map]
    rfl
  have reported := perm.filterMap Except.toOption
  rw [listed] at reported
  refine ⟨results.filterMap Except.toOption, ?_, ?_⟩
  · rw [outcome?_events pass catalog about, total]
  · have each := reported.map fun report =>
      (report.plan.collection, report.isChanged, report.isFailed)
    rwa [List.map_map] at each

/-- However many attempts were hindered, one that nothing hinders leaves the collections as a first
one would have left them: with the members they should have, and those that should have none empty
or deleted. After it no attempt makes a change, or would if it could, and all collections are found
to be as they should be. -/
theorem attempts_converge (pass : Pass) (real : pass.options.dryRun = false) (catalog : List Item)
    (before : MemoryStore) (attempts : List Attempt) (once turns : List Nat) :
    let healed := pass.after catalog (attempts ++ [.clean turns]) before
    healed.collections = (pass.after catalog [.clean once] before).collections ∧
      (∀ name ∈ pass.rules.collections, healed.collections.get? name =
        if desiredMembers (pass.rules.rulesFor name) catalog = .empty then
          if pass.options.removeEmpty then none
          else (before.collections.get? name).map fun _ => .empty
        else some (desiredMembers (pass.rules.rulesFor name) catalog)) ∧
      ∀ (further : List (List Nat)) (last : List Nat)
        (change : Mutation → StateM MemoryStore (Except HostError Unit)),
        pass.after catalog (further.map .clean) healed = healed ∧
        ∃ events reports,
          (pass.run (pure (.ok catalog)) { MemoryStore.store with mutate := change } last).run
            healed = (events, healed) ∧
          outcome? events = some (.ok (reports,
            { Summary.start false pass.rules.diagnostics.length with
              unchanged := pass.rules.collections.size })) ∧
          (reports.map fun report =>
            (report.plan.collection, report.isChanged, report.isFailed)).Perm
            (pass.rules.collections.toList.map fun name => (name, false, false)) := by
  intro healed
  have split : healed =
      (((Attempt.clean turns).run pass catalog).run (pass.after catalog attempts before)).2 :=
    List.foldl_append
  obtain ⟨free, reached⟩ := clean_reaches catalog real turns (pass.after catalog attempts before)
  rw [← split] at free
  rw [← split, goal_after real] at reached
  have rest (name : String) := at_rest_of_reached reached name
  refine ⟨Collections.ext_get? fun name => ?_, fun name named => ?_,
    fun further last change => ⟨?_, ?_⟩⟩
  · exact (reached name).trans ((clean_reaches catalog real once before).2 name).symm
  · rw [reached, goal, if_pos named, leaves_unhindered]
  · exact after_at_rest real free rest further
  · obtain ⟨results, ran, perm⟩ := run_at_rest real free rest change last
    obtain ⟨reports, told, each⟩ := outcome?_untouched real perm
    exact ⟨_, reports, ran, told, each⟩

/-- A collection that kept a member it should have lost, and one that could not be deleted, come out
as if nothing had stood in the way. -/
theorem attempts_converge_two_collections :
    let pass : Pass :=
      ⟨RuleSet.compile ⟨[⟨"Thing", "Horror", true⟩, ⟨"Fargo", "Crime", true⟩], []⟩,
        { removeEmpty := true }⟩
    let before : MemoryStore :=
      ⟨.ofList [("Crime", .ofList ["C"]), ("Horror", .ofList ["B", "C"])], [], []⟩
    let catalog : List Item := [.titled "A" "The Thing", .titled "B" "Heat"]
    let attempts : List Attempt :=
      [⟨[("Horror", some "B"), ("Crime", some "C")], none, [1, 0]⟩,
        ⟨[], some (.unavailable "maintenance"), []⟩, ⟨[("Crime", none)], none, []⟩]
    let healed := pass.after catalog (attempts ++ [.clean [0, 1]]) before
    pass.options.dryRun = false ∧
      healed.collections.get? "Horror" = some (.ofList ["A"]) ∧
      healed.collections.get? "Crime" = none ∧
      pass.after catalog [.clean [], .clean [1]] healed = healed := by
  intro pass before catalog attempts healed
  obtain ⟨same, _, settled⟩ := attempts_converge pass rfl catalog before attempts [] [0, 1]
  refine ⟨rfl, ?_, ?_, (settled [[], [1]] [] MemoryStore.store.mutate).1⟩
  · rw [same]
    decide +kernel
  · rw [same]
    decide +kernel

end Pass

end SmartCollections
