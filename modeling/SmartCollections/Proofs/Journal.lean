import SmartCollections.Proofs.Execution
import SmartCollections.Proofs.Interchange

/-!
# What the journal tells

The journal of a store in memory holds the changes that were made, each of them once and in their
order, and nothing else. Whoever knows what the collections were at first finds out what they are
now by making these changes again, without asking whether they can be made.
-/

namespace SmartCollections

namespace Mutation

/-- The members of each collection once a change has been made. -/
def redo (content : String → Option StringSet) : Mutation → String → Option StringSet
  | create name items => Function.update content name (some (.ofList items))
  | add name item => Function.update content name ((content name).map (·.insert item))
  | remove name item => Function.update content name ((content name).map (·.erase item))
  | delete name => Function.update content name none

/-- The members of each collection once some changes have been made, one after another. -/
def replay (content : String → Option StringSet) (made : List Mutation) :
    String → Option StringSet :=
  made.foldl redo content

/-- There already is the collection that is to be created, or there is none to be changed or
deleted. -/
def isUnfounded (content : String → Option StringSet) : Mutation → Bool
  | create name _ => (content name).isSome
  | add name _ | remove name _ | delete name => (content name).isNone

/-- The change, if the answer to it is that it was made. -/
def told (mutation : Mutation) : Except HostError Unit → List Mutation
  | .ok () => [mutation]
  | .error _ => []

def toldEach (change : String → Mutation) (items : List String)
    (results : List (String × Except HostError Unit)) : List Mutation :=
  (List.zipWith (fun item result => (change item).told result.2) items results).flatten

variable {content : String → Option StringSet} {mutation : Mutation} {name : String}

theorem redo_other (distinct : name ≠ mutation.collection) :
    mutation.redo content name = content name := by
  cases mutation <;> exact Function.update_of_ne distinct _ _

/-- A change that is founded has an effect, and no other does. -/
theorem effect_eq_ok_iff {left : Option StringSet} :
    mutation.effect (content mutation.collection) = .ok left ↔
      mutation.isUnfounded content = false ∧ mutation.redo content mutation.collection = left := by
  cases mutation with
  | create name items | add name item | remove name item | delete name =>
    simp only [effect, collection, isUnfounded, redo, Function.update_self]
    cases content name <;> simp

end Mutation

/-- The changes that were made, as the answer to a call tells. -/
def Store.Call.told : Store.Call → SmartCollections.Call.Answer → List Mutation
  | .mutate mutation, .change answer => mutation.told answer
  | .addMembers name items, .changes results => Mutation.toldEach (.add name) items results
  | .removeMembers name items, .changes results => Mutation.toldEach (.remove name) items results
  | _, _ => []

namespace MemoryStore

variable {suits : MemoryStore → Mutation → Prop} {s t : MemoryStore} {mutation : Mutation}

theorem mutate_redo (call : (store.mutate mutation).run s = (.ok (), t)) :
    t.collections.get? = mutation.redo s.collections.get? := by
  funext name
  by_cases same : name = mutation.collection
  · rw [same, (Mutation.effect_eq_ok_iff.1 (mutate_made call)).2]
  · have differs := (mutate_local s mutation).2
    rw [call] at differs
    rw [differs.other same, Mutation.redo_other same]

theorem failed_iff {answer : Except HostError Unit} :
    (∃ cause, answer = .error cause) ↔ ¬ answer = .ok () := by
  cases answer <;> simp

/-- A change fails if it is refused or unfounded, and for no other reason. -/
theorem mutate_failed_iff :
    (∃ cause, ((store.mutate mutation).run s).1 = .error cause) ↔
      mutation.refusalKey ∈ s.refusals ∨ mutation.isUnfounded s.collections.get? = true := by
  rw [failed_iff, mutate_made_iff]
  simp only [Mutation.effect_eq_ok_iff, exists_and_left, exists_eq', and_true]
  rw [not_and_or, not_not, Bool.not_eq_false]

theorem Makes.refusals {made : List Mutation} (makes : Makes suits s made t) :
    t.refusals = s.refusals := by
  induction makes with
  | nothing s => rfl
  | @next s t u mutation made _ call _ ih =>
    have differs := (mutate_local s mutation).2
    rw [call] at differs
    exact ih.trans differs.refusals

/-- Changes that were made have led to what making them again leads to. -/
theorem Makes.replay {made : List Mutation} (makes : Makes suits s made t) :
    t.collections.get? = Mutation.replay s.collections.get? made := by
  induction makes with
  | nothing s => rfl
  | next _ call _ ih => rw [ih, mutate_redo call]; rfl

theorem mutate_makes (s : MemoryStore) (mutation : Mutation) :
    let call := (store.mutate mutation).run s
    Makes (fun _ _ => True) s (mutation.told call.1) call.2 := by
  intro call
  rcases mutate_either s mutation with ⟨t, called, _⟩ | ⟨cause, called⟩
  · simp only [call, called]
    exact .next trivial called (.nothing t)
  · simp only [call, called]
    exact .nothing s

/-- Actions that make the changes that they tell of make them one after another. -/
theorem mapM_makes {α β : Type} {action : α → StateM MemoryStore β} {told : α → β → List Mutation}
    (each : ∀ s x,
      Makes (fun _ _ => True) s (told x ((action x).run s).1) ((action x).run s).2)
    (s : MemoryStore) (xs : List α) :
    let ran := (xs.mapM action).run s
    Makes (fun _ _ => True) s (List.zipWith told xs ran.1).flatten ran.2 := by
  induction xs generalizing s with
  | nil => exact .nothing s
  | cons x xs ih =>
    rw [List.mapM_cons, run_bind_state, run_bind_state]
    exact (each s x).append (ih _)

theorem mutateEach_makes (s : MemoryStore) (change : String → Mutation) (items : List String) :
    let batch := (store.mutateEach change items).run s
    Makes (fun _ _ => True) s (Mutation.toldEach change items batch.1) batch.2 := by
  refine mapM_makes (fun s item => ?_) s items
  rw [run_bind_state]
  exact mutate_makes s (change item)

theorem answer_makes (s : MemoryStore) (call : Store.Call) :
    let answer := (store.answer call).run s
    Makes (fun _ _ => True) s (call.told answer.1) answer.2 := by
  cases call with
  | members name =>
    simp only [Store.answer, run_bind_state, members_run]
    exact .nothing s
  | mutate mutation => exact mutate_makes s mutation
  | addMembers name items => exact mutateEach_makes s (.add name) items
  | removeMembers name items => exact mutateEach_makes s (.remove name) items

theorem mutateEach_cons_run (s : MemoryStore) (change : String → Mutation) (item : String)
    (items : List String) :
    (store.mutateEach change (item :: items)).run s =
      let call := (store.mutate (change item)).run s
      let rest := (store.mutateEach change items).run call.2
      ((item, call.1) :: rest.1, rest.2) := by
  simp only [Store.mutateEach, List.mapM_cons, run_bind_state]
  rfl

theorem mutateEach_singly (s : MemoryStore) (change : String → Mutation) (items : List String) :
    let batch := (store.mutateEach change items).run s
    let singly := ((items.map fun item => .mutate (change item)).mapM store.answer).run s
    batch.2 = singly.2 ∧ batch.1.map Prod.fst = items ∧
      batch.1.map (fun result => .change result.2) = singly.1 := by
  induction items generalizing s with
  | nil => exact ⟨rfl, rfl, rfl⟩
  | cons item items ih =>
    obtain ⟨after, names, answers⟩ := ih ((store.mutate (change item)).run s).2
    simp only [mutateEach_cons_run, List.map_cons, List.mapM_cons, run_bind_state]
    exact ⟨after, congrArg (item :: ·) names, congrArg (_ :: ·) answers⟩

/-- Whether it succeeds or fails, a change to an item does not alter what can be done later. -/
theorem Itemwise.akin_after {name : String} {change : String → Mutation}
    {apply : StringSet → String → StringSet} (itemwise : Itemwise name change apply)
    (s : MemoryStore) (item : String) : Akin name s ((store.mutate (change item)).run s).2 := by
  rcases mutate_either s (change item) with ⟨t, called, _⟩ | ⟨cause, called⟩
  · rw [called]
    exact itemwise.akin called
  · rw [called]
    exact .refl name s

/-- What becomes of an item does not depend on the items before it. -/
theorem mutateEach_failed_iff {name : String} {change : String → Mutation}
    {apply : StringSet → String → StringSet} (itemwise : Itemwise name change apply)
    (s : MemoryStore) (items : List String) :
    ∀ result ∈ ((store.mutateEach change items).run s).1,
      (∃ cause, result.2 = .error cause) ↔
        (name, some result.1) ∈ s.refusals ∨ s.collections.get? name = none := by
  induction items generalizing s with
  | nil => exact nofun
  | cons item items ih =>
    have akin := itemwise.akin_after s item
    have missing : ((store.mutate (change item)).run s).2.collections.get? name = none ↔
        s.collections.get? name = none := by
      rw [← Option.isNone_iff_eq_none, ← Option.isNone_iff_eq_none, ← Option.not_isSome,
        akin.existence, Option.not_isSome]
    intro result mem
    rw [mutateEach_cons_run] at mem
    rcases List.mem_cons.1 mem with rfl | mem
    · rw [failed_iff, itemwise.made_iff, not_and_or, not_not, not_not]
    · rw [ih _ result mem, akin.refusals, missing]

/-- Whatever the collections are at first, whatever is refused and whatever is asked: the journal is
what the answers tell of as made, and making it again leads to the collections as they are. A lookup
fails if it is refused, and leaves everything as it is. A change fails if it is refused or
unfounded, and leaves everything as it is then; otherwise it is the next one in the journal. Several
changes at once are single changes, one after another, and an item fails if it is refused or there
is no collection, whatever becomes of the other ones. -/
theorem journal_exact (collections : Collections) (refusals : List RefusalKey)
    (calls : List Store.Call) :
    let ran := (calls.mapM store.answer).run ⟨collections, refusals, []⟩
    let s := ran.2
    s.refusals = refusals ∧
      s.journal = (List.zipWith Store.Call.told calls ran.1).flatten ∧
      s.collections.get? = Mutation.replay collections.get? s.journal ∧
      (∀ name,
        let call := (store.members name).run s
        ((∃ cause, call.1 = .error cause) ↔ (name, none) ∈ refusals) ∧ call.2 = s) ∧
      (∀ mutation,
        let call := (store.mutate mutation).run s
        ((∃ cause, call.1 = .error cause) ↔
          mutation.refusalKey ∈ refusals ∨ mutation.isUnfounded s.collections.get? = true) ∧
        (∀ cause, call.1 = .error cause → call.2 = s) ∧
        (call.1 = .ok () → call.2.journal = s.journal ++ [mutation])) ∧
      ∀ name items, ∀ change ∈ [Mutation.add name, Mutation.remove name],
        let batch := (store.mutateEach change items).run s
        let singly := ((items.map fun item => .mutate (change item)).mapM store.answer).run s
        batch.2 = singly.2 ∧ batch.1.map Prod.fst = items ∧
          batch.1.map (fun result => .change result.2) = singly.1 ∧
          ∀ result ∈ batch.1, (∃ cause, result.2 = .error cause) ↔
            (name, some result.1) ∈ refusals ∨ s.collections.get? name = none := by
  intro ran s
  have makes : Makes (fun _ _ => True) ⟨collections, refusals, []⟩
      (List.zipWith Store.Call.told calls ran.1).flatten s := mapM_makes answer_makes _ calls
  have journal : s.journal = (List.zipWith Store.Call.told calls ran.1).flatten := makes.journal
  have same : s.refusals = refusals := makes.refusals
  refine ⟨same, journal, ?_, fun name => ?_, fun mutation => ?_, fun name items change mem => ?_⟩
  · rw [journal]
    exact makes.replay
  · rw [members_run, same]
    split <;> simp [*]
  · refine ⟨same ▸ mutate_failed_iff, fun cause fails => ?_, fun done => ?_⟩
    · exact congrArg Prod.snd (mutate_failed fails)
    · exact mutate_journal (Prod.ext done rfl)
  · obtain ⟨after, names, answers⟩ := mutateEach_singly s change items
    refine ⟨after, names, answers, ?_⟩
    rw [← same]
    rcases List.mem_pair.1 mem with rfl | rfl
    · exact mutateEach_failed_iff (itemwise_add name) s items
    · exact mutateEach_failed_iff (itemwise_remove name) s items

/-- Of two items one is refused, and neither a second collection of the name nor the deletion of one
that does not exist is possible. -/
example :
    let calls : List Store.Call :=
      [.addMembers "A" ["3", "2"], .mutate (.create "A" []), .mutate (.delete "B"), .members "B",
        .mutate (.remove "A" "1")]
    let s := ((calls.mapM store.answer).run
      ⟨.ofList [("A", .ofList ["1"])], [("A", some "2"), ("B", none)], []⟩).2
    s.journal = [.add "A" "3", .remove "A" "1"] ∧
      s.collections.get? "A" = some (.ofList ["3"]) := by
  decide +kernel

end MemoryStore

end SmartCollections
