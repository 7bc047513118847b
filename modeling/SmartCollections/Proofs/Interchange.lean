import SmartCollections.Proofs.Mirror

/-!
# Stores that can be exchanged

A store in memory that refuses nothing and a file store on a disk without faults cannot be told
apart by what they answer. What is found out about calls to the one holds of calls to the other.
-/

namespace SmartCollections

namespace Store

inductive Call where
  | members (collection : String)
  | mutate (mutation : Mutation)
  | addMembers (collection : String) (items : List String)
  | removeMembers (collection : String) (items : List String)

variable {m : Type → Type} [Monad m]

/-- Makes a call, one change after another if it is about several items. -/
def answer (store : Store m) : Call → m SmartCollections.Call.Answer
  | .members collection => do return .members (← store.members collection)
  | .mutate mutation => do return .change (← store.mutate mutation)
  | .addMembers collection items => do return .changes (← store.addMembers collection items)
  | .removeMembers collection items => do return .changes (← store.removeMembers collection items)

end Store

namespace Likeness

variable {m n : Type → Type} [Monad m] [Monad n] [LawfulMonad m] [LawfulMonad n]
  {like : Likeness m n} {store : Store m} {other : Store n}

theorem Stores.mutateEach (stores : like.Stores store other) (change : String → Mutation)
    (items : List String) :
    like.Alike (store.mutateEach change items) (other.mutateEach change items) :=
  mapM (fun item => like.bind (stores.mutate (change item)) fun _ => like.pure _) items

/-- Stores that answer single changes alike answer all calls alike. -/
theorem Stores.answer (stores : like.Stores store other) (call : Store.Call) :
    like.Alike (store.answer call) (other.answer call) := by
  cases call with
  | members collection => exact like.bind (stores.members collection) fun _ => like.pure _
  | mutate mutation => exact like.bind (stores.mutate mutation) fun _ => like.pure _
  | addMembers collection items =>
    exact like.bind (stores.mutateEach (.add collection) items) fun _ => like.pure _
  | removeMembers collection items =>
    exact like.bind (stores.mutateEach (.remove collection) items) fun _ => like.pure _

theorem Stores.answers (stores : like.Stores store other) (calls : List Store.Call) :
    like.Alike (calls.mapM store.answer) (calls.mapM other.answer) :=
  mapM stores.answer calls

end Likeness

namespace FileStore

variable {δ : Type} {disk : Disk (StateM δ)} {path : String} {fit : δ → Prop}

theorem Mirrored.held (grants : Grants disk path fit) {s : FileStore} {d : δ} {memory : MemoryStore}
    (mirrored : Mirrored disk path fit s d memory) : s = ⟨path, memory.collections⟩ := by
  have atPath := mirrored.agrees.atPath grants.toReplaces
  rw [mirrored.collections, ← atPath]

/-- Whatever the collections are and whatever is asked, both stores give the same answers, item by
item where there are several, and hold the same collections afterwards. Those are also the ones that
the file stands for. -/
theorem answers_interchangeable (grants : Grants disk path fit) {d : δ} (isFit : fit d)
    {collections : Collections}
    (opened : ((load disk path).run d).1 = .ok ⟨path, collections⟩) (journal : List Mutation)
    (calls : List Store.Call) :
    let onFile := ((calls.mapM (store disk).answer).run ⟨path, collections⟩).run d
    let inMemory := (calls.mapM MemoryStore.store.answer).run ⟨collections, [], journal⟩
    onFile.1.1 = inMemory.1 ∧ onFile.1.2 = ⟨path, inMemory.2.collections⟩ ∧
      (load disk path).run onFile.2 = (.ok ⟨path, inMemory.2.collections⟩, onFile.2) := by
  intro onFile inMemory
  have agrees : Agrees disk path ⟨path, collections⟩ d := agrees_of_load grants.toReplaces opened
  obtain ⟨same, mirrored⟩ := (stores_mirrored grants).answers calls ⟨path, collections⟩ d
    ⟨collections, [], journal⟩ ⟨rfl, rfl, isFit, agrees⟩
  have held : onFile.1.2 = ⟨path, inMemory.2.collections⟩ := mirrored.held grants
  refine ⟨same, held, ?_⟩
  rw [← held]
  exact mirrored.agrees

/-- Adding to a collection that does not exist fails item by item, and one that was deleted can be
made anew. -/
theorem answers_interchangeable_renewed :
    let before : FaultyDisk := ⟨fun _ => none, []⟩
    let calls : List Store.Call :=
      [.addMembers "" ["A", "A"], .mutate (.create "" ["B"]), .mutate (.create "" []),
        .mutate (.delete ""), .mutate (.create "" []), .removeMembers "" ["A", "B"], .members ""]
    let onFile := ((calls.mapM (store FaultyDisk.disk).answer).run ⟨"c.json", .empty⟩).run before
    let inMemory := (calls.mapM MemoryStore.store.answer).run ⟨.empty, [], []⟩
    Grants FaultyDisk.disk "c.json" (fun d => d.faults = []) ∧ before.faults = [] ∧
      ((load FaultyDisk.disk "c.json").run before).1 = .ok ⟨"c.json", .empty⟩ ∧
      onFile.1.1 = inMemory.1 ∧ onFile.1.2 = ⟨"c.json", inMemory.2.collections⟩ ∧
      (load FaultyDisk.disk "c.json").run onFile.2 =
        (.ok ⟨"c.json", inMemory.2.collections⟩, onFile.2) ∧
      inMemory.2.collections.get? "" = some .empty ∧ inMemory.2.journal.length = 5 := by
  intro before calls
  dsimp only
  have named : Path.name? "c.json" = some "c.json" := by decide +kernel
  have grants : Grants FaultyDisk.disk "c.json" fun d => d.faults = [] := FaultyDisk.grants named
  have opened : ((load FaultyDisk.disk "c.json").run before).1 = .ok ⟨"c.json", .empty⟩ := rfl
  have agreed := answers_interchangeable grants rfl opened [] calls
  refine ⟨grants, rfl, opened, agreed.1, agreed.2.1, agreed.2.2, ?_, ?_⟩
  · decide +kernel
  · decide +kernel

end FileStore

end SmartCollections
