import Mathlib.Algebra.GroupWithZero.Nat
import SmartCollections.Proofs.Compilation
import SmartCollections.Proofs.Honesty
import SmartCollections.Proofs.Reports

/-!
# What the totals of a pass account for

The totals of a pass account for every collection, every change and every rule, whatever the store
refuses. If they tell of no failure, all rules are valid and, after a pass that is not a dry run
over an honest store, all collections have the members they should have.
-/

namespace SmartCollections

/-- The collection that could not be looked up, if the event tells of one. -/
def Event.lost? : Event → Option String
  | failed (.membership collection _) => some collection
  | _ => none

namespace Pass

def troubled : Except PassError Report → Bool
  | .ok report => report.isFailed
  | .error _ => true

/-- What is told of a collection is a report on it, or that it could not be looked up. -/
theorem subject?_cases {result : Except PassError Report} {name : String}
    (about : subject? result = some name) :
    (∃ report, result = .ok report ∧ report.plan.collection = name ∧
      (Event.ofResult result).lost? = none) ∨
    result.toOption = none ∧ troubled result = true ∧
      (Event.ofResult result).lost? = some name := by
  rcases result with (cause | ⟨collection, cause⟩ | failure) | report
  · cases about
  · cases about
    exact .inr ⟨rfl, rfl, rfl⟩
  · cases about
  · cases about
    exact .inl ⟨report, rfl, rfl, rfl⟩

end Pass

open Pass

/-- Counting results adds up what each of them tells. -/
theorem Summary.foldl_count (results : List (Except PassError Report)) (s : Summary) :
    let reports := results.filterMap Except.toOption
    results.foldl count s =
      { s with
        updated := s.updated + reports.countP Report.isChanged
        unchanged := s.unchanged + reports.countP (!Report.isChanged ·)
        failed := s.failed ++ (results.filter troubled).filterMap subject?
        added := s.added + (reports.map (·.added.length)).sum
        removed := s.removed + (reports.map (·.removed.length)).sum
        mutationFailures := s.mutationFailures + (reports.map (·.failures.length)).sum } := by
  induction results generalizing s with
  | nil => simp
  | cons result results ih =>
    rw [List.foldl_cons, ih]
    rcases result with (cause | ⟨collection, cause⟩ | failure) | report
    · rfl
    · simp [count, List.filterMap_cons, List.filter_cons, Except.toOption, troubled, subject?]
    · rfl
    · cases changed : report.isChanged <;> cases failed : report.isFailed <;>
        simp [count, record, Except.toOption, troubled, subject?, changed, failed, Nat.add_assoc,
          Nat.add_comm 1]

namespace Pass

variable {results : List (Except PassError Report)} {told : List String}

theorem reports_add_lost (about : results.map subject? = told.map some) :
    (results.filterMap Except.toOption).length +
      (results.filterMap fun result => (Event.ofResult result).lost?).length = told.length := by
  have other : results.countP (fun result => (Event.ofResult result).lost?.isSome) =
      results.countP fun result => ¬ result.toOption.isSome = true := by
    refine List.countP_congr fun result mem => ?_
    obtain ⟨name, named⟩ := Option.isSome_iff_exists.1 (isSome_of_told about result mem)
    rcases subject?_cases named with ⟨report, rfl, _, kept⟩ | ⟨none, _, lost⟩
    · simp [kept, Except.toOption]
    · simp [none, lost]
  rw [List.length_filterMap_eq_countP, List.length_filterMap_eq_countP, other,
    ← List.length_eq_countP_add_countP, ← List.length_map subject?, about, List.length_map]

theorem failed_nodup (about : results.map subject? = told.map some) (distinct : told.Nodup) :
    ((results.filter troubled).filterMap subject?).Nodup := by
  have all : results.filterMap subject? = told := by
    have picked := congrArg (List.filterMap id) about
    rwa [List.filterMap_map, List.filterMap_map, Function.id_comp, Function.id_comp,
      List.filterMap_some] at picked
  have part := (List.filter_sublist (p := troubled) (l := results)).filterMap subject?
  rw [all] at part
  exact distinct.sublist part

/-- A collection has failed if it could not be looked up, or if a change to it was not made. -/
theorem mem_failed_iff (about : results.map subject? = told.map some) (name : String) :
    name ∈ (results.filter troubled).filterMap subject? ↔
      name ∈ (results.filterMap fun result => (Event.ofResult result).lost?) ∨
        ∃ report ∈ results.filterMap Except.toOption,
          report.isFailed = true ∧ report.plan.collection = name := by
  simp only [mem_reports_iff]
  simp only [List.mem_filterMap, List.mem_filter]
  constructor
  · rintro ⟨result, ⟨mem, failed⟩, named⟩
    rcases subject?_cases named with ⟨report, rfl, same, _⟩ | ⟨_, _, lost⟩
    · exact .inr ⟨report, mem, failed, same⟩
    · exact .inl ⟨result, mem, lost⟩
  · rintro (⟨result, mem, lost⟩ | ⟨report, mem, failed, same⟩)
    · obtain ⟨other, named⟩ := Option.isSome_iff_exists.1 (isSome_of_told about result mem)
      rcases subject?_cases named with ⟨_, _, _, kept⟩ | ⟨_, failed, lostToo⟩
      · cases kept.symm.trans lost
      · cases lostToo.symm.trans lost
        exact ⟨result, ⟨mem, failed⟩, named⟩
    · exact ⟨_, ⟨mem, failed⟩, congrArg some same⟩

end Pass

namespace RuleSet

/-- At every place there is one rule. -/
theorem candidate?_of_mem {rules : RuleSet} {rule : Candidate} (mem : rule ∈ rules.candidates) :
    rules.candidate? rule.origin = some rule := by
  have here : rule ∈ rules.candidates.filter (·.origin = rule.origin) :=
    List.mem_filter.2 ⟨mem, by simp⟩
  rw [filter_candidates] at here
  exact Option.mem_toList.1 here

theorem length_diagnostics (rules : RuleSet) :
    rules.compile.diagnostics.length = rules.origins.countP fun origin =>
      ∃ diagnostic ∈ rules.compile.diagnostics, diagnostic.origin = origin := by
  have length : rules.compile.diagnostics.length =
      rules.candidates.countP (·.diagnostic?.isSome) := List.length_filterMap_eq_countP
  rw [length, ← map_origin_candidates, List.countP_map]
  refine List.countP_congr fun rule mem => ?_
  have alone : (rules.compile.comesOf rule.origin).2 = rule.diagnostic?.toList := by
    rw [compile_comesOf, candidate?_of_mem mem]
    rfl
  have told : (∃ diagnostic ∈ rules.compile.diagnostics, diagnostic.origin = rule.origin) ↔
      (rules.compile.comesOf rule.origin).2 ≠ [] := by
    simp [CompiledRules.comesOf, List.filter_eq_nil_iff]
  rw [Function.comp_apply, decide_eq_true_iff, told, alone]
  cases rule.diagnostic? <;> simp

theorem compile_of_silent {rules : RuleSet} (silent : rules.compile.diagnostics = [])
    {origin : RuleOrigin} (configured : origin ∈ rules.origins) :
    ∃ rule ∈ rules.compile.rules, rule.origin = origin ∧ rule.predicate.isSome = true := by
  rw [← map_origin_candidates] at configured
  obtain ⟨rule, mem, rfl⟩ := List.mem_map.1 configured
  obtain ⟨predicate?, fate⟩ := rules.fate (candidate?_of_mem mem)
  have quiet : (rules.compile.comesOf rule.origin).2 = [] := by
    simp [CompiledRules.comesOf, silent]
  have made : (rules.compile.comesOf rule.origin).1 ⊆ rules.compile.rules :=
    List.filter_sublist.subset
  generalize rules.compile.comesOf rule.origin = ends at fate quiet made
  cases fate with
  | valid predicate _ => exact ⟨_, made List.mem_cons_self, rfl, rfl⟩
  | inert => cases quiet
  | nameless => cases quiet

end RuleSet

namespace Summary

/-- The totals account for all collections that a rule names, for all that is told of them, and for
all rules. -/
structure Accounts (rules : RuleSet) (events : List Event) (reports : List Report)
    (summary : Summary) : Prop where
  collections : summary.updated + summary.unchanged + (events.filterMap Event.lost?).length =
    rules.compile.collections.size
  updated : summary.updated = reports.countP Report.isChanged
  unchanged : summary.unchanged = reports.countP (!Report.isChanged ·)
  added : summary.added = (reports.map (·.added.length)).sum
  removed : summary.removed = (reports.map (·.removed.length)).sum
  mutationFailures : summary.mutationFailures = (reports.map (·.failures.length)).sum
  failedOnce : summary.failed.Nodup
  failed (name : String) : name ∈ summary.failed ↔ name ∈ events.filterMap Event.lost? ∨
    ∃ report ∈ reports, report.isFailed = true ∧ report.plan.collection = name
  rulesWithErrors : summary.rulesWithErrors = rules.origins.countP fun origin =>
    ∃ diagnostic ∈ rules.compile.diagnostics, diagnostic.origin = origin

theorem isClean_iff {summary : Summary} :
    summary.isClean = true ↔
      summary.failed = [] ∧ summary.mutationFailures = 0 ∧ summary.rulesWithErrors = 0 := by
  simp [isClean, and_assoc]

end Summary

namespace Pass

theorem summarize_eq (pass : Pass) (results : List (Except PassError Report)) :
    let reports := results.filterMap Except.toOption
    pass.summarize results =
      { dryRun := pass.options.dryRun
        updated := reports.countP Report.isChanged
        unchanged := reports.countP (!Report.isChanged ·)
        failed := (results.filter troubled).filterMap subject?
        added := (reports.map (·.added.length)).sum
        removed := (reports.map (·.removed.length)).sum
        mutationFailures := (reports.map (·.failures.length)).sum
        rulesWithErrors := pass.rules.diagnostics.length } := by
  rw [summarize, Summary.foldl_count]
  simp [Summary.start]

theorem summarize_accounts (rules : RuleSet) (options : Options) (catalog : List Item)
    {results : List (Except PassError Report)} {told : List String}
    (named : told.Perm rules.compile.collections.toList)
    (about : results.map subject? = told.map some) :
    let pass : Pass := ⟨rules.compile, options⟩
    (pass.summarize results).Accounts rules (pass.events catalog results)
      (results.filterMap Except.toOption) := by
  intro pass
  have lost : (pass.events catalog results).filterMap Event.lost? =
      results.filterMap fun result => (Event.ofResult result).lost? :=
    pass.filterMap_events catalog results rfl (fun _ => rfl) fun _ => rfl
  rw [summarize_eq]
  refine ⟨?_, rfl, rfl, rfl, rfl, rfl, ?_, ?_, rules.length_diagnostics⟩
  · have all := reports_add_lost about
    rw [List.length_eq_countP_add_countP Report.isChanged, named.length_eq] at all
    rw [lost]
    simpa [StringSet.size] using all
  · exact failed_nodup about (named.nodup_iff.2 rules.compile.collections.nodup)
  · rw [lost]
    exact mem_failed_iff about

/-- If no collection has failed, all are reported on, and no report tells of a failure. -/
theorem reported_of_none_failed {pass : Pass} {results : List (Except PassError Report)}
    {told : List String} (about : results.map subject? = told.map some)
    (none : (pass.summarize results).failed = []) :
    ∀ result ∈ results, ∃ report, result = .ok report ∧ report.failures = [] := by
  intro result mem
  rw [summarize_eq] at none
  dsimp only at none
  obtain ⟨name, named⟩ := Option.isSome_iff_exists.1 (isSome_of_told about result mem)
  have calm : troubled result = false := by
    refine Bool.eq_false_iff.2 fun failed => ?_
    have listed : name ∈ (results.filter troubled).filterMap subject? :=
      List.mem_filterMap.2 ⟨result, List.mem_filter.2 ⟨mem, failed⟩, named⟩
    rw [none] at listed
    exact List.not_mem_nil listed
  cases result with
  | error _ => cases calm
  | ok report =>
    refine ⟨report, rfl, ?_⟩
    simpa [troubled, Report.isFailed] using calm

/-- The totals of a pass account for everything that came of it, whatever the store makes of its
calls. If they tell of no failure, every rule selects items; and if the store is honest and the pass
was not a dry run, every collection has the members that its rules select, where a missing
collection counts as empty. -/
theorem run_accounts {σ : Type} (rules : RuleSet) (options : Options)
    (fetch : StateM σ (Except HostError (List Item))) (store : Store (StateM σ)) (turns : List Nat)
    (s : σ) {catalog : List Item} (fetched : (fetch.run s).1 = .ok catalog) :
    let pass : Pass := ⟨rules.compile, options⟩
    let ran := (pass.run fetch store turns).run s
    ∃ reports summary, outcome? ran.1 = some (.ok (reports, summary)) ∧
      summary.Accounts rules ran.1 reports ∧
      (summary.isClean = true →
        (∀ origin ∈ rules.origins, ∃ rule ∈ pass.rules.rules,
          rule.origin = origin ∧ rule.predicate.isSome = true) ∧
        (options.dryRun = false → ∀ holds, store.Honest holds → ∀ rule ∈ pass.rules.rules,
          (holds ran.2 rule.collection).getD .empty =
            desiredMembers (pass.rules.rulesFor rule.collection) catalog)) := by
  intro pass ran
  let flight := Flight.start pass.options.concurrency (pass.tasks catalog)
  let flown := (flight.run store turns).run (fetch.run s).2
  have same : ran = (pass.events catalog flown.1, flown.2) := by
    simp only [ran, run, run_bind_state, fetched]
    rfl
  obtain ⟨told, named, about⟩ := pass.results_told catalog store turns (fetch.run s).2
  rw [same]
  refine ⟨_, _, pass.outcome?_events catalog (isSome_of_told about),
    summarize_accounts rules options catalog named about, fun clean => ⟨?_, ?_⟩⟩
  · obtain ⟨_, _, none⟩ := Summary.isClean_iff.1 clean
    rw [summarize_eq] at none
    have silent := List.length_eq_zero_iff.1 none
    exact fun origin configured => RuleSet.compile_of_silent silent configured
  · intro real holds honest rule kept
    have member := mem_collections.2 ⟨rule, kept, rfl⟩
    obtain ⟨result, mem, trusty⟩ := flight_trusty honest real catalog turns (fetch.run s).2 _ member
    obtain ⟨report, reported, none⟩ :=
      reported_of_none_failed about (Summary.isClean_iff.1 clean).1 result mem
    exact trusty report reported none

/-- A pass over a file store that replaces one collection and makes another tells of no failure. -/
theorem run_accounts_on_disk :
    let rules : RuleSet := ⟨[⟨"Thing", "Horror", true⟩], [⟨"Crime", "TITLE \"Heat\"", true⟩]⟩
    let catalog : List Item := [.titled "A" "The Thing", .titled "B" "Heat"]
    let store := FileStore.store FaultyDisk.disk
    let before : FileStore × FaultyDisk :=
      (⟨"c.json", .ofList [("Horror", .ofList ["B", "C"])]⟩, ⟨fun _ => none, []⟩)
    let pass : Pass := ⟨rules.compile, {}⟩
    let fetch : StateT FileStore (StateM FaultyDisk) (Except HostError (List Item)) :=
      pure (.ok catalog)
    let ran := (packed (pass.run fetch store [1, 0, 0])).run before
    ((packed fetch).run before).1 = .ok catalog ∧
      store.packed.Honest (fun s name => s.1.collections.get? name) ∧
      ∃ reports summary, outcome? ran.1 = some (.ok (reports, summary)) ∧
        summary.isClean = true ∧ summary.updated = 2 ∧ summary.added = 2 ∧ summary.removed = 2 ∧
        (ran.2.1.collections.get? "Horror").getD .empty = .ofList ["A"] := by
  intro rules catalog store before pass fetch ran
  have honest := FileStore.honest FaultyDisk.disk
  have total : ((outcome? ran.1).bind Except.toOption).map Prod.snd =
      some ⟨false, 2, 0, [], 2, 2, 0, 0⟩ := by decide +kernel
  have kept : ⟨.title 0, "Horror", some (.contains .title "Thing"), true⟩ ∈ pass.rules.rules := by
    decide +kernel
  have desired : desiredMembers (pass.rules.rulesFor "Horror") catalog = .ofList ["A"] := by
    decide +kernel
  have same : (Pass.run ⟨rules.compile, {}⟩ (packed fetch) store.packed [1, 0, 0]).run before =
      ran := by rw [← run_packed]
  obtain ⟨reports, summary, out, _, converged⟩ :=
    run_accounts rules {} (packed fetch) store.packed [1, 0, 0] before rfl
  rw [same] at out converged
  -- from here on the run is only known by what it tells and leaves
  clear_value ran
  rw [out] at total
  obtain rfl := Option.some.inj total
  have held := (converged rfl).2 rfl _ honest _ kept
  rw [desired] at held
  exact ⟨rfl, honest, reports, _, out, rfl, rfl, rfl, rfl, held⟩

end Pass

end SmartCollections
