import SmartCollections.Proofs.Independence

/-!
# What a pass tells

A pass that has a catalog ends with the reports on the collections it could look up and with the
totals of them all. These follow from the results of its tasks.
-/

namespace SmartCollections.Pass

/-- What each task ends with does not depend on what the others make of the store. -/
theorem interleaves_ends {σ α : Type} (store : Store (StateM σ)) (about : String → α → Prop) :
    Interleaves store (fun _ entry => entry.2.Ends (about entry.1)) fun _ _ => True where
  refl _ := trivial
  trans _ _ := trivial
  step ends := ⟨trivial, ends.step store _, fun _ _ others => others⟩

/-- Whatever the store answers and whatever turns the tasks take, a pass has one result about each
of its collections. -/
theorem results_told {σ : Type} (pass : Pass) (catalog : List Item) (store : Store (StateM σ))
    (turns : List Nat) (s : σ) :
    let flight := Flight.start pass.options.concurrency (pass.tasks catalog)
    ∃ told : List String, told.Perm pass.rules.collections.toList ∧
      ((flight.run store turns).run s).1.map subject? = told.map some := by
  obtain ⟨_, ended, results, named, about⟩ :=
    Flight.run_labelled (interleaves_ends store fun name result => subject? result = some name)
      pass.rules.collections.nodup (pass.task catalog) (s := s)
      (fun name _ => pass.task_ends catalog name) pass.options.concurrency turns
  refine ⟨ended.map Prod.fst, named, ?_⟩
  rw [tasks, ← results, List.map_map, List.map_map]
  refine List.map_congr_left fun entry mem => ?_
  cases about entry mem with
  | done _ holds => exact holds

/-- A result about a collection does not end the pass. -/
theorem ending?_ofResult {result : Except PassError Report} (about : (subject? result).isSome) :
    (Event.ofResult result).ending? = none := by
  rcases result with (cause | ⟨collection, cause⟩ | failure) | report
  · cases about
  · rfl
  · rfl
  · rfl

theorem mem_reports_iff {results : List (Except PassError Report)} {report : Report} :
    report ∈ results.filterMap Except.toOption ↔ .ok report ∈ results := by
  rw [List.mem_filterMap]
  constructor
  · rintro ⟨_ | told, mem, reported⟩
    · cases reported
    · cases reported
      exact mem
  · exact fun mem => ⟨_, mem, rfl⟩

theorem report?_ofResult (result : Except PassError Report) :
    (Event.ofResult result).report? = result.toOption := by
  cases result <;> rfl

/-- The results of a pass are about its collections, once each. -/
theorem results_about {names : List String} {result : String → Except PassError Report}
    (about : ∀ name, subject? (result name) = some name) {results : List (Except PassError Report)}
    (perm : results.Perm (names.map result)) : ∀ told ∈ results, (subject? told).isSome := by
  intro told mem
  obtain ⟨name, _, rfl⟩ := List.mem_map.1 (perm.subset mem)
  rw [about]
  rfl

theorem isSome_of_told {results : List (Except PassError Report)} {told : List String}
    (about : results.map subject? = told.map some) :
    ∀ result ∈ results, (subject? result).isSome := by
  intro result mem
  obtain ⟨name, _, same⟩ := List.mem_map.1 (about ▸ List.mem_map.2 ⟨result, mem, rfl⟩)
  rw [← same]
  rfl

/-- What events tell of single collections, they tell of the results. -/
theorem filterMap_events {α : Type} (pass : Pass) (catalog : List Item)
    (results : List (Except PassError Report)) {pick : Event → Option α}
    (started : pick .started = none) (loaded : ∀ items, pick (.catalogLoaded items) = none)
    (complete : ∀ summary, pick (.complete summary) = none) :
    (pass.events catalog results).filterMap pick =
      results.filterMap fun result => pick (.ofResult result) := by
  simp only [events, List.filterMap_append, List.filterMap_map, List.filterMap_cons,
    List.filterMap_nil, started, loaded, complete, List.nil_append, List.append_nil]
  rfl

theorem outcome?_events (pass : Pass) (catalog : List Item)
    {results : List (Except PassError Report)} (about : ∀ told ∈ results, (subject? told).isSome) :
    outcome? (pass.events catalog results) =
      some (.ok (results.filterMap Except.toOption, pass.summarize results)) := by
  have silent : (results.map Event.ofResult).findSome? Event.ending? = none := by
    refine List.findSome?_eq_none_iff.2 fun event mem => ?_
    obtain ⟨told, told_mem, rfl⟩ := List.mem_map.1 mem
    exact ending?_ofResult (about told told_mem)
  have opening : [Event.started, .catalogLoaded catalog.length].findSome? Event.ending? = none :=
    rfl
  have ending : (pass.events catalog results).findSome? Event.ending? =
      some (.ok (pass.summarize results)) := by
    rw [events, List.findSome?_append, List.findSome?_append, opening, silent]
    rfl
  have reports : (pass.events catalog results).filterMap Event.report? =
      results.filterMap Except.toOption := by
    rw [filterMap_events pass catalog results rfl (fun _ => rfl) fun _ => rfl]
    exact congrArg (List.filterMap · results) (funext report?_ofResult)
  rw [outcome?, ending, reports]
  rfl

end SmartCollections.Pass
