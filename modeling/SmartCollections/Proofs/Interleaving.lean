import Mathlib.Data.List.Perm.Basic
import SmartCollections.Pass.Flight
import SmartCollections.Proofs.Locality

/-!
# Interleaving

Tasks under different names take turns at one store. If a step of one task keeps what it needs
itself and what the tasks under other names need, then all turns do, and what holds from before each
step to after it holds from the start to the end.
-/

namespace SmartCollections

variable {σ α : Type}

namespace Flight

/-- The tasks of a flight; those that have ended are at the front, as their results. -/
def tasks (flight : Flight α) : List (Task α) :=
  flight.finished.map .done ++ (flight.running ++ flight.waiting)

theorem tasks_start (width : Nat) (tasks : List (Task α)) : (start width tasks).tasks = tasks := by
  simp [start, Flight.tasks]

/-- Where a flight stands when a call has left so much of the task at a place. -/
def advance (flight : Flight α) (place : Nat) : Task α → Flight α
  | .done result =>
    { waiting := flight.waiting.drop 1
      running := flight.running.eraseIdx place ++ flight.waiting.take 1
      finished := flight.finished ++ [result] }
  | rest => { flight with running := flight.running.set place rest }

/-- A turn is a step of the task at the place. -/
theorem turn_eq {m : Type → Type} [Monad m] (store : Store m) {flight : Flight α} {place : Nat}
    {task : Task α} (pick : flight.running[place]? = some task) :
    flight.turn store place = task.step store >>= fun rest => pure (flight.advance place rest) := by
  simp only [turn, pick]
  congr 1
  funext rest
  cases rest <;> rfl

theorem turn_none {m : Type → Type} [Monad m] (store : Store m) {flight : Flight α} {place : Nat}
    (pick : flight.running[place]? = none) : flight.turn store place = pure flight := by
  simp only [turn, pick]

theorem split_at_place {β : Type} {l : List β} {place : Nat} {x : β} (pick : l[place]? = some x) :
    ∃ front back, l = front ++ x :: back ∧ front.length = place := by
  obtain ⟨hlt, rfl⟩ := List.getElem?_eq_some_iff.1 pick
  refine ⟨l.take place, l.drop (place + 1), ?_, by simp; omega⟩
  rw [← List.drop_eq_getElem_cons hlt, List.take_append_drop]

/-- A step of a task leaves all other tasks where they are, but for their order. -/
theorem tasks_advance {flight : Flight α} {place : Nat} {task : Task α}
    (pick : flight.running[place]? = some task) :
    ∃ front back, flight.tasks = front ++ task :: back ∧
      ∀ rest, (flight.advance place rest).tasks.Perm (front ++ rest :: back) := by
  obtain ⟨waiting, running, finished⟩ := flight
  obtain ⟨front, back, rfl, rfl⟩ := split_at_place pick
  refine ⟨finished.map .done ++ front, back ++ waiting, by simp [tasks], fun rest => ?_⟩
  cases rest with
  | done result =>
    have left : (front ++ task :: back).eraseIdx front.length = front ++ back := by
      simp [List.eraseIdx_append]
    simp only [advance, tasks, left, List.map_append, List.map_cons, List.map_nil,
      List.append_assoc, List.take_append_drop, List.cons_append, List.nil_append]
    exact List.perm_middle.symm.append_left _
  | lookup collection rest => exact .of_eq (by simp [advance, tasks])
  | mutate mutation rest => exact .of_eq (by simp [advance, tasks])

/-- To finish is to make all calls of all tasks; those that have ended make none. -/
theorem finish_run (store : Store (StateM σ)) (flight : Flight α) (s : σ) :
    (flight.finish store).run s = (flight.tasks.mapM (Task.run store)).run s := by
  have ended (results : List α) :
      ((results.map Task.done).mapM (Task.run store)).run s = (results, s) := by
    induction results with
    | nil => rfl
    | cons result results ih =>
      simp only [List.map_cons, List.mapM_cons, run_bind_state, Task.run]
      exact congrArg (fun ran : List α × σ => (result :: ran.1, ran.2)) ih
  rw [tasks, List.mapM_append, run_bind_state, ended]
  rfl

end Flight

/-- A step of one task keeps it in order, and all tasks under other names; what it makes of the
store is a permitted move. -/
structure Interleaves (store : Store (StateM σ)) (good : σ → String × Task α → Prop)
    (moves : σ → σ → Prop) : Prop where
  refl (s : σ) : moves s s
  trans {s t u : σ} : moves s t → moves t u → moves s u
  step {s : σ} {name : String} {task : Task α} : good s (name, task) →
    let stepped := (task.step store).run s
    moves s stepped.2 ∧ good stepped.2 (name, stepped.1) ∧
      ∀ other, other.1 ≠ name → good s other → good stepped.2 other

namespace Interleaves

variable {store : Store (StateM σ)} {good : σ → String × Task α → Prop} {moves : σ → σ → Prop}

/-- What goes for a step goes for all steps of a task. -/
theorem run (rule : Interleaves store good moves) {s : σ} {name : String} {task : Task α}
    (isGood : good s (name, task)) :
    let ran := (task.run store).run s
    moves s ran.2 ∧ good ran.2 (name, .done ran.1) ∧
      ∀ other, other.1 ≠ name → good s other → good ran.2 other := by
  induction task generalizing s with
  | done result => exact ⟨rule.refl s, isGood, fun _ _ otherGood => otherGood⟩
  | lookup collection next ih =>
    obtain ⟨moved, isGood, others⟩ := rule.step isGood
    obtain ⟨movedLater, ended, othersLater⟩ := ih _ isGood
    exact ⟨rule.trans moved movedLater, ended, fun other distinct otherGood =>
      othersLater other distinct (others other distinct otherGood)⟩
  | mutate mutation next ih =>
    obtain ⟨moved, isGood, others⟩ := rule.step isGood
    obtain ⟨movedLater, ended, othersLater⟩ := ih _ isGood
    exact ⟨rule.trans moved movedLater, ended, fun other distinct otherGood =>
      othersLater other distinct (others other distinct otherGood)⟩

theorem each (rule : Interleaves store good moves) {s : σ} {entries : List (String × Task α)}
    (distinct : (entries.map Prod.fst).Nodup) (allGood : ∀ entry ∈ entries, good s entry) :
    let ran := ((entries.map Prod.snd).mapM (Task.run store)).run s
    moves s ran.2 ∧
      (∃ ended : List (String × α), ended.map Prod.snd = ran.1 ∧
        ended.map Prod.fst = entries.map Prod.fst ∧
        ∀ entry ∈ ended, good ran.2 (entry.1, .done entry.2)) ∧
      ∀ other, other.1 ∉ entries.map Prod.fst → good s other → good ran.2 other := by
  induction entries generalizing s with
  | nil => exact ⟨rule.refl s, ⟨[], rfl, rfl, by simp⟩, fun _ _ otherGood => otherGood⟩
  | cons entry entries ih =>
    obtain ⟨name, task⟩ := entry
    obtain ⟨stranger, distinct⟩ := List.nodup_cons.1 distinct
    obtain ⟨moved, done, others⟩ := rule.run (allGood (name, task) List.mem_cons_self)
    simp only [List.map_cons, List.mapM_cons, run_bind_state]
    generalize (task.run store).run s = ran at moved done others ⊢
    obtain ⟨movedLater, ⟨ended, results, names, endedGood⟩, othersLater⟩ :=
      ih distinct fun entry mem => others entry
        (fun same => stranger (List.mem_map.2 ⟨entry, mem, same⟩))
        (allGood entry (List.mem_cons_of_mem _ mem))
    refine ⟨rule.trans moved movedLater, ⟨(name, ran.1) :: ended, ?_, ?_, ?_⟩, ?_⟩
    · rw [List.map_cons, results]
      rfl
    · rw [List.map_cons, names]
    · intro entry mem
      rcases List.mem_cons.1 mem with rfl | mem
      · exact othersLater (name, .done ran.1) stranger done
      · exact endedGood entry mem
    · intro other outside otherGood
      obtain ⟨different, outside⟩ := not_or.1 (mt List.mem_cons.2 outside)
      exact othersLater other outside (others other different otherGood)

def InOrder (good : σ → String × Task α → Prop) (names : List String) (s : σ) (flight : Flight α) :
    Prop :=
  ∃ entries : List (String × Task α), entries.map Prod.snd = flight.tasks ∧
    (entries.map Prod.fst).Perm names ∧ ∀ entry ∈ entries, good s entry

theorem inOrder_of_perm {names : List String} {s : σ} {flight : Flight α}
    {entries : List (String × Task α)} (perm : flight.tasks.Perm (entries.map Prod.snd))
    (named : (entries.map Prod.fst).Perm names) (allGood : ∀ entry ∈ entries, good s entry) :
    InOrder good names s flight := by
  have sorted : Relation.Comp (· = List.map Prod.snd ·) List.Perm flight.tasks entries := by
    rw [List.eq_map_comp_perm]
    exact perm
  obtain ⟨others, labels, permuted⟩ := sorted
  exact ⟨others, labels.symm, (permuted.map Prod.fst).trans named,
    fun entry mem => allGood entry (permuted.subset mem)⟩

theorem turn (rule : Interleaves store good moves) {names : List String} (distinct : names.Nodup)
    {s : σ} {flight : Flight α} (inOrder : InOrder good names s flight) (place : Nat) :
    let after := (flight.turn store place).run s
    moves s after.2 ∧ InOrder good names after.2 after.1 := by
  cases pick : flight.running[place]? with
  | none =>
    rw [Flight.turn_none store pick]
    exact ⟨rule.refl s, inOrder⟩
  | some task =>
    obtain ⟨entries, labels, named, allGood⟩ := inOrder
    obtain ⟨front, back, split, advanced⟩ := Flight.tasks_advance pick
    obtain ⟨before, rest, rfl, rfl, labelled⟩ := List.map_eq_append_iff.1 (labels.trans split)
    obtain ⟨⟨name, task⟩, behind, rfl, rfl, rfl⟩ := List.map_eq_cons_iff.1 labelled
    have nodup := named.nodup_iff.2 distinct
    rw [List.map_append, List.map_cons, List.perm_middle.nodup_iff,
      ← List.map_append] at nodup
    obtain ⟨stranger, _⟩ := List.nodup_cons.1 nodup
    obtain ⟨moved, stepGood, others⟩ := rule.step (allGood (name, task) (by simp))
    rw [Flight.turn_eq store pick, run_bind_state]
    dsimp only at moved stepGood others ⊢
    generalize (task.step store).run s = stepped at moved stepGood others ⊢
    refine ⟨moved, ?_⟩
    let after := before ++ (name, stepped.1) :: behind
    have perm : (flight.advance place stepped.1).tasks.Perm (after.map Prod.snd) := by
      simpa [after] using advanced stepped.1
    refine inOrder_of_perm perm (by simpa [after] using named) fun entry mem => ?_
    have either : entry = (name, stepped.1) ∨ entry ∈ before ++ behind := by
      simp only [after, List.mem_append, List.mem_cons] at mem ⊢
      grind
    rcases either with rfl | mem
    · exact stepGood
    · refine others entry (fun same => stranger (List.mem_map.2 ⟨entry, mem, same⟩)) ?_
      refine allGood entry ?_
      simp only [List.mem_append, List.mem_cons] at mem ⊢
      grind

theorem turns (rule : Interleaves store good moves) {names : List String} (distinct : names.Nodup)
    {s : σ} {flight : Flight α} (inOrder : InOrder good names s flight) (places : List Nat) :
    let after := (places.foldlM (Flight.turn store) flight).run s
    moves s after.2 ∧ InOrder good names after.2 after.1 := by
  induction places generalizing s flight with
  | nil => exact ⟨rule.refl s, inOrder⟩
  | cons place places ih =>
    obtain ⟨moved, inOrder⟩ := turn rule distinct inOrder place
    rw [List.foldlM_cons, run_bind_state]
    obtain ⟨movedLater, inOrderLater⟩ := ih inOrder
    exact ⟨rule.trans moved movedLater, inOrderLater⟩

/-- Whatever turns the tasks take, the moves add up, and each task is in order at the end. -/
theorem flight (rule : Interleaves store good moves) {s : σ} {entries : List (String × Task α)}
    (distinct : (entries.map Prod.fst).Nodup) (allGood : ∀ entry ∈ entries, good s entry)
    (width : Nat) (places : List Nat) :
    let after := ((Flight.start width (entries.map Prod.snd)).run store places).run s
    moves s after.2 ∧
      ∃ ended : List (String × α), ended.map Prod.snd = after.1 ∧
        (ended.map Prod.fst).Perm (entries.map Prod.fst) ∧
        ∀ entry ∈ ended, good after.2 (entry.1, .done entry.2) := by
  have starting : InOrder good (entries.map Prod.fst) s
      (Flight.start width (entries.map Prod.snd)) :=
    ⟨entries, (Flight.tasks_start _ _).symm, .refl _, allGood⟩
  obtain ⟨moved, left, labels, named, leftGood⟩ := turns rule distinct starting places
  rw [Flight.run, run_bind_state, Flight.finish_run, ← labels]
  obtain ⟨movedLater, ⟨ended, results, names, endedGood⟩, _⟩ :=
    rule.each (named.nodup_iff.2 distinct) leftGood
  exact ⟨rule.trans moved movedLater, ended, results, names ▸ named, endedGood⟩

end Interleaves

end SmartCollections
