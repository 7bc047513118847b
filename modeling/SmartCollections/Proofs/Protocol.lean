import SmartCollections.Proofs.Reports

/-!
# The order of events

A pass tells of its catalog, of each collection once, and of its end, in this order; or it tells
that there is no catalog. While it goes on, no more collections are worked on at a time than the
options allow, and no fewer while others wait.
-/

namespace SmartCollections

namespace Flight

variable {σ α : Type} {store : Store (StateM σ)} {width : Nat} {tasks : List (Task α)}
  {flight : Flight α}

/-- Where a flight with these tasks can stand. Those that wait are the last ones, as they were
given; at most `width` are under way, at least one, and fewer only if none waits. -/
structure Steady (width : Nat) (tasks : List (Task α)) (flight : Flight α) : Prop where
  waiting : flight.waiting <:+ tasks
  all : flight.finished.length + flight.running.length + flight.waiting.length = tasks.length
  room : flight.running.length ≤ max 1 width
  busy : flight.waiting ≠ [] → flight.running.length = max 1 width

theorem Steady.start (width : Nat) (tasks : List (Task α)) :
    (Flight.start width tasks).Steady width tasks where
  waiting := List.drop_suffix _ _
  all := by
    simp only [Flight.start, List.length_nil, List.length_take, List.length_drop]
    omega
  room := List.length_take_le _ _
  busy some := by
    have more : 0 < (tasks.drop (max 1 width)).length := List.length_pos_iff.2 some
    rw [List.length_drop] at more
    simp only [Flight.start, List.length_take]
    omega

theorem Steady.advance (steady : flight.Steady width tasks) {place : Nat}
    (within : place < flight.running.length) (rest : Task α) :
    (flight.advance place rest).Steady width tasks := by
  obtain ⟨waiting, running, finished⟩ := flight
  obtain ⟨last, all, room, busy⟩ := steady
  dsimp only at last all room busy within
  cases rest with
  | done result =>
    have left : (running.eraseIdx place).length = running.length - 1 :=
      List.length_eraseIdx_of_lt within
    refine ⟨(List.drop_suffix 1 waiting).trans last, ?_, ?_, ?_⟩
    · simp only [Flight.advance, List.length_append, List.length_singleton, List.length_take,
        List.length_drop, left]
      omega
    · simp only [Flight.advance, List.length_append, List.length_take, left]
      omega
    · intro some
      have more : 0 < (waiting.drop 1).length := List.length_pos_iff.2 some
      rw [List.length_drop] at more
      have full := busy (List.length_pos_iff.1 (by omega))
      simp only [Flight.advance, List.length_append, List.length_take, left]
      omega
  | _ =>
    refine ⟨last, ?_, ?_, ?_⟩
    all_goals simpa only [Flight.advance, List.length_set]

/-- What a turn comes to: nothing, or a step of the task at its place. -/
theorem turn_cases (store : Store (StateM σ)) (flight : Flight α) (place : Nat) (s : σ) :
    (flight.turn store place).run s = (flight, s) ∨
      ∃ rest next, place < flight.running.length ∧
        (flight.turn store place).run s = (flight.advance place rest, next) := by
  cases pick : flight.running[place]? with
  | none =>
    rw [turn_none store pick]
    exact .inl rfl
  | some task =>
    obtain ⟨within, _⟩ := List.getElem?_eq_some_iff.1 pick
    rw [turn_eq store pick]
    exact .inr ⟨_, _, within, rfl⟩

theorem finished_advance (flight : Flight α) (place : Nat) (rest : Task α) :
    flight.finished <+: (flight.advance place rest).finished := by
  cases rest with
  | done result => exact List.prefix_append _ _
  | _ => exact List.prefix_rfl

/-- Turns keep a flight steady, and take back no result. -/
theorem Steady.turns (steady : flight.Steady width tasks) (store : Store (StateM σ))
    (places : List Nat) (s : σ) :
    let now := ((places.foldlM (turn store) flight).run s).1
    now.Steady width tasks ∧ flight.finished <+: now.finished := by
  induction places generalizing flight s with
  | nil => exact ⟨steady, List.prefix_rfl⟩
  | cons place places ih =>
    rw [List.foldlM_cons, run_bind_state]
    rcases turn_cases store flight place s with same | ⟨rest, next, within, stepped⟩
    · rw [same]
      exact ih steady s
    · rw [stepped]
      obtain ⟨later, more⟩ := ih (steady.advance within rest) next
      exact ⟨later, (finished_advance flight place rest).trans more⟩

def firstDone (waiting others : List (Task α)) (finished : List α) (result : α) : Flight α :=
  ⟨waiting.drop 1, others ++ waiting.take 1, finished ++ [result]⟩

theorem length_firstDone (waiting others : List (Task α)) (finished : List α) (result : α) :
    (firstDone waiting others finished result).running.length +
      (firstDone waiting others finished result).waiting.length =
        others.length + waiting.length := by
  simp only [firstDone, List.length_append, List.length_take, List.length_drop]
  omega

/-- After a turn of the first task, what is left of it takes further turns, if there is any. -/
theorem turns_onward (store : Store (StateM σ)) {waiting others : List (Task α)} {finished : List α}
    (task rest : Task α) (s : σ)
    (later : ∃ places : List Nat,
      (places.foldlM (turn store) ⟨waiting, rest :: others, finished⟩).run s =
        let ran := (rest.run store).run s
        (firstDone waiting others finished ran.1, ran.2)) :
    ∃ places : List Nat,
      (places.foldlM (turn store) (advance ⟨waiting, task :: others, finished⟩ 0 rest)).run s =
        let ran := (rest.run store).run s
        (firstDone waiting others finished ran.1, ran.2) := by
  cases rest with
  | done result => exact ⟨[], rfl⟩
  | lookup collection next => exact later
  | mutate mutation next => exact later

/-- With enough turns the first task makes all its calls. -/
theorem turns_first (store : Store (StateM σ)) (waiting others : List (Task α)) (finished : List α)
    (task : Task α) (s : σ) :
    ∃ places : List Nat,
      (places.foldlM (turn store) ⟨waiting, task :: others, finished⟩).run s =
        let ran := (task.run store).run s
        (firstDone waiting others finished ran.1, ran.2) := by
  induction task generalizing s with
  | done result => exact ⟨[0], rfl⟩
  | lookup collection next ih =>
    let answered := (store.members collection).run s
    obtain ⟨places, reached⟩ :=
      turns_onward store (.lookup collection next) _ _ (ih answered.1 answered.2)
    refine ⟨0 :: places, ?_⟩
    rw [List.foldlM_cons, turn_eq store rfl]
    exact reached
  | mutate mutation next ih =>
    let answered := (store.mutate mutation).run s
    obtain ⟨places, reached⟩ :=
      turns_onward store (.mutate mutation next) _ _ (ih answered.1 answered.2)
    refine ⟨0 :: places, ?_⟩
    rw [List.foldlM_cons, turn_eq store rfl]
    exact reached

theorem finish_nil (store : Store (StateM σ)) (finished : List α) (s : σ) :
    (finish store ⟨[], [], finished⟩).run s = (finished, s) :=
  congrArg (fun results => (results, s)) (List.append_nil finished)

theorem finish_cons (store : Store (StateM σ)) (waiting others : List (Task α)) (finished : List α)
    (task : Task α) (s : σ) :
    (finish store ⟨waiting, task :: others, finished⟩).run s =
      let ran := (task.run store).run s
      (finish store (firstDone waiting others finished ran.1)).run ran.2 := by
  have same : others ++ waiting.take 1 ++ waiting.drop 1 = others ++ waiting := by
    rw [List.append_assoc, List.take_append_drop]
  simp only [finish, firstDone, List.cons_append, List.mapM_cons, same, run_bind_state,
    bind_assoc, pure_bind]
  exact congrArg (·, _) (List.append_cons ..)

/-- To finish is to take turns, too, until no task is left. -/
theorem Steady.finish (steady : flight.Steady width tasks) (store : Store (StateM σ)) (s : σ) :
    ∃ places : List Nat, (places.foldlM (turn store) flight).run s =
      let ran := (flight.finish store).run s
      (⟨[], [], ran.1⟩, ran.2) := by
  obtain ⟨size, left⟩ : ∃ size, flight.running.length + flight.waiting.length = size := ⟨_, rfl⟩
  induction size generalizing flight s with
  | zero =>
    obtain ⟨waiting, running, finished⟩ := flight
    obtain ⟨noneRuns, noneWaits⟩ := Nat.add_eq_zero_iff.1 left
    obtain rfl : running = [] := List.length_eq_zero_iff.1 noneRuns
    obtain rfl : waiting = [] := List.length_eq_zero_iff.1 noneWaits
    exact ⟨[], by rw [finish_nil]; rfl⟩
  | succ size ih =>
    obtain ⟨waiting, running, finished⟩ := flight
    cases running with
    | nil =>
      -- there is always room for a task that waits
      have some : waiting ≠ [] := by
        rintro rfl
        cases left
      have full := steady.busy some
      simp only [List.length_nil] at full
      omega
    | cons task others =>
      obtain ⟨first, reached⟩ := turns_first store waiting others finished task s
      have later := (steady.turns store first s).1
      rw [reached] at later
      dsimp only at later
      have fewer := length_firstDone waiting others finished ((task.run store).run s).1
      dsimp only [List.length_cons] at left
      obtain ⟨places, ended⟩ := ih later ((task.run store).run s).2 (by omega)
      refine ⟨first ++ places, ?_⟩
      rw [List.foldlM_append, run_bind_state, reached, finish_cons]
      exact ended

end Flight

namespace Pass

variable {σ : Type}

/-- Where the collections of a pass stand when their tasks have taken some turns. -/
def standing (pass : Pass) (catalog : List Item) (store : Store (StateM σ)) (places : List Nat) :
    StateM σ (Flight (Except PassError Report)) :=
  places.foldlM (Flight.turn store) (.start pass.options.concurrency (pass.tasks catalog))

/-- At no moment of a pass is there more work, or less, than there is room for, and what has been
told stays told. -/
theorem standing_steady (pass : Pass) (catalog : List Item) (store : Store (StateM σ))
    {moment places : List Nat} (passed : moment <+: places) (s : σ) :
    let now := ((pass.standing catalog store moment).run s).1
    now.Steady pass.options.concurrency (pass.tasks catalog) ∧
      now.finished <+: ((pass.standing catalog store places).run s).1.finished := by
  obtain ⟨later, rfl⟩ := passed
  have steady := ((Flight.Steady.start pass.options.concurrency (pass.tasks catalog)).turns store
    moment s).1
  simp only [standing, List.foldlM_append, run_bind_state]
  exact ⟨steady, (steady.turns store later _).2⟩

/-- The turns of a pass can be taken until no collection is left. -/
theorem standing_end (pass : Pass) (catalog : List Item) (store : Store (StateM σ))
    (turns : List Nat) (s : σ) :
    let flight := Flight.start pass.options.concurrency (pass.tasks catalog)
    let ran := (flight.run store turns).run s
    ∃ places, turns <+: places ∧
      (pass.standing catalog store places).run s = (⟨[], [], ran.1⟩, ran.2) := by
  intro flight ran
  have steady := (pass.standing_steady catalog store (List.prefix_refl turns) s).1
  obtain ⟨last, ended⟩ := steady.finish store ((pass.standing catalog store turns).run s).2
  refine ⟨turns ++ last, List.prefix_append _ _, ?_⟩
  rw [standing, List.foldlM_append, run_bind_state]
  exact ended

/-- A pass tells that it has started, and then either that there is no catalog, in which case it
leaves the store alone, or how many items there are, what became of every collection that a rule
names, and the totals. While it goes on, as many collections are worked on as there is room for, and
no more. It comes to an error only if there is no catalog; otherwise it comes to all reports. -/
theorem run_in_order (pass : Pass) (fetch : StateM σ (Except HostError (List Item)))
    (store : Store (StateM σ)) (turns : List Nat) (s : σ) :
    let ran := (pass.run fetch store turns).run s
    match fetch.run s with
    | (.error cause, fetched) =>
      ran = ([.started, .failed (.catalog cause)], fetched) ∧
        outcome? ran.1 = some (.error (.catalog cause))
    | (.ok catalog, fetched) =>
      ∃ (results : List (Except PassError Report)) (told : List String),
        ran.1 = [.started, .catalogLoaded catalog.length] ++ results.map Event.ofResult ++
          [.complete (pass.summarize results)] ∧
        results.map subject? = told.map some ∧ told.Nodup ∧
        (∀ name, name ∈ told ↔ ∃ rule ∈ pass.rules.rules, rule.collection = name) ∧
        outcome? ran.1 = some (.ok (results.filterMap Except.toOption, pass.summarize results)) ∧
        ∃ places, turns <+: places ∧
          (pass.standing catalog store places).run fetched = (⟨[], [], results⟩, ran.2) ∧
          ∀ moment, moment <+: places →
            let now := ((pass.standing catalog store moment).run fetched).1
            now.Steady pass.options.concurrency (pass.tasks catalog) ∧ now.finished <+: results := by
  intro ran
  rcases answer : fetch.run s with ⟨cause | catalog, fetched⟩
  · have told : ran = ([.started, .failed (.catalog cause)], fetched) := by
      simp only [ran, run, run_bind_state, answer]
      rfl
    rw [told]
    exact ⟨rfl, rfl⟩
  · let flight := Flight.start pass.options.concurrency (pass.tasks catalog)
    let flown := (flight.run store turns).run fetched
    have same : ran = (pass.events catalog flown.1, flown.2) := by
      simp only [ran, run, run_bind_state, answer]
      rfl
    obtain ⟨told, named, about⟩ := pass.results_told catalog store turns fetched
    obtain ⟨places, turned, ended⟩ := pass.standing_end catalog store turns fetched
    rw [same]
    refine ⟨flown.1, told, rfl, about, ?_, ?_, pass.outcome?_events catalog (isSome_of_told about),
      places, turned, ended, fun moment passed => ?_⟩
    · exact named.nodup_iff.2 pass.rules.collections.nodup
    · intro name
      rw [named.mem_iff]
      exact mem_collections
    · have steady := pass.standing_steady catalog store passed fetched
      rwa [ended] at steady

/-- With room for one collection, the second waits until the first has come to an end; that the
first cannot be looked up is told in its turn. -/
theorem run_in_order_one_by_one :
    let pass : Pass :=
      ⟨RuleSet.compile ⟨[⟨"Thing", "Horror", true⟩, ⟨"Heat", "Crime", true⟩], []⟩,
        { concurrency := 0 }⟩
    let catalog : List Item := [.titled "A" "The Thing", .titled "A" "The Thing"]
    let before : MemoryStore := ⟨.empty, [("Crime", none)], []⟩
    let ran := (pass.run (pure (.ok catalog)) MemoryStore.store [0]).run before
    ∃ (results : List (Except PassError Report)) (told : List String),
      ran.1 = [.started, .catalogLoaded 2] ++ results.map Event.ofResult ++
        [.complete (pass.summarize results)] ∧
      results.map subject? = told.map some ∧ told.Nodup ∧ "Crime" ∈ told ∧ "Horror" ∈ told ∧
      (∃ reports summary, outcome? ran.1 = some (.ok (reports, summary))) ∧
      let now := ((pass.standing catalog MemoryStore.store [0]).run before).1
      now.running.length ≤ 1 ∧ now.finished <+: results ∧ now.finished.map subject? = [some "Crime"] := by
  intro pass catalog before ran
  obtain ⟨results, told, events, about, once, named, ends, places, turned, _, moments⟩ :=
    run_in_order pass (pure (.ok catalog)) MemoryStore.store [0] before
  have rules : pass.rules.rules.map CompiledRule.collection = ["Horror", "Crime"] := by
    decide +kernel
  have horror : "Horror" ∈ pass.rules.rules.map CompiledRule.collection := by simp [rules]
  have crime : "Crime" ∈ pass.rules.rules.map CompiledRule.collection := by simp [rules]
  obtain ⟨steady, kept⟩ := moments [0] turned
  refine ⟨results, told, events, about, once, (named _).2 (List.mem_map.1 crime),
    (named _).2 (List.mem_map.1 horror), ⟨_, _, ends⟩, steady.room, kept, ?_⟩
  decide +kernel

end Pass

end SmartCollections
