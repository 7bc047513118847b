import SmartCollections.Proofs.Durability
import SmartCollections.Proofs.Likeness

/-!
# A file store on a disk without faults

As long as its disk does what it is asked to, a file store answers every call as a store in memory
does that refuses nothing, and it holds the same collections after every call.
-/

namespace SmartCollections.FileStore

variable {δ : Type}

/-- A fit disk writes the temporary file, moves it over the file, and stays fit. -/
structure Grants (disk : Disk (StateM δ)) (path : String) (fit : δ → Prop) : Prop extends
    Replaces disk path where
  writes (bytes : ByteArray) (d : δ) : fit d →
    ((disk.write (temporary path) bytes).run d).1 = .ok () ∧
      fit ((disk.write (temporary path) bytes).run d).2
  moves (bytes : ByteArray) (d : δ) : fit d → contents disk (temporary path) d = .ok bytes →
    ((disk.rename (temporary path) path).run d).1 = .ok () ∧
      fit ((disk.rename (temporary path) path).run d).2

variable {disk : Disk (StateM δ)} {path : String} {fit : δ → Prop}

theorem persist_granted (grants : Grants disk path fit) (c : Collections) {d : δ} (isFit : fit d) :
    ((persist disk path c).run d).1 = .ok () ∧ fit ((persist disk path c).run d).2 := by
  obtain ⟨ok, fitThen⟩ := grants.writes c.toText.toUTF8 d isFit
  have written := grants.written c.toText.toUTF8 d ok
  rcases hwrite : (disk.write (temporary path) c.toText.toUTF8).run d with ⟨answer, d₁⟩
  rw [hwrite] at ok fitThen written
  dsimp only at ok fitThen written
  subst ok
  have moved := grants.moves _ d₁ fitThen written
  rcases hmove : (disk.rename (temporary path) path).run d₁ with ⟨answer, d₂⟩
  rw [hmove] at moved
  obtain ⟨ok, fitLast⟩ := moved
  dsimp only at ok fitLast
  subst ok
  have done : (persist disk path c).run d = (.ok (), d₂) := by
    simp only [persist, run_bind_state, hwrite, hmove]
    rfl
  rw [done]
  exact ⟨rfl, fitLast⟩

/-- A store in memory that refuses nothing holds what the file store holds. -/
structure Mirrored (disk : Disk (StateM δ)) (path : String) (fit : δ → Prop) (s : FileStore) (d : δ)
    (memory : MemoryStore) : Prop where
  refusals : memory.refusals = []
  collections : memory.collections = s.collections
  fit : fit d
  agrees : Agrees disk path s d

/-- From mirrored stores, the computations come to the same value and to mirrored stores. -/
def mirror (disk : Disk (StateM δ)) (path : String) (fit : δ → Prop) :
    Likeness (StateT FileStore (StateM δ)) (StateM MemoryStore) where
  Alike first other := ∀ s d memory, Mirrored disk path fit s d memory →
    let after := (first.run s).run d
    after.1.1 = (other.run memory).1 ∧
      Mirrored disk path fit after.1.2 after.2 (other.run memory).2
  pure _ _ _ _ mirrored := ⟨rfl, mirrored⟩
  bind alike later s d memory mirrored := by
    obtain ⟨same, mirrored⟩ := alike s d memory mirrored
    simp only [run_bind_both, run_bind_state, ← same]
    exact later _ _ _ _ mirrored

theorem stores_mirrored (grants : Grants disk path fit) :
    (mirror disk path fit).Stores (store disk) MemoryStore.store where
  members collection s d memory mirrored := by
    rw [MemoryStore.members_run, mirrored.refusals, mirrored.collections]
    exact ⟨rfl, mirrored⟩
  mutate mutation s d memory mirrored := by
    have replaces := grants.toReplaces
    have atPath := mirrored.agrees.atPath replaces
    rw [mutate_run atPath, MemoryStore.mutate_run, mirrored.refusals, if_neg List.not_mem_nil,
      mirrored.collections, Collections.change_eq]
    cases mutation.effect (s.collections.get? mutation.collection) with
    | error error => exact ⟨rfl, mirrored⟩
    | ok members =>
      let c := s.collections.assign mutation.collection members
      obtain ⟨ok, isFit⟩ := persist_granted grants c mirrored.fit
      have text := (persist_run replaces c d).1 ok
      simp only [Except.map]
      rw [ok]
      have agrees :
          Agrees disk path { s with collections := c } ((persist disk path c).run d).2 := by
        rw [atPath]
        exact agrees_of_text replaces text
      exact ⟨rfl, rfl, rfl, isFit, agrees⟩

end SmartCollections.FileStore

namespace SmartCollections.FaultyDisk

theorem grants {path name : String} (named : Path.name? path = some name) :
    FileStore.Grants disk path fun d => d.faults = [] where
  toReplaces := replaces named
  writes bytes d none := by
    rw [write_run, none]
    simp [next, put, none]
  moves bytes d none held := by
    rw [contents_eq] at held
    cases hfile : d.file? (FileStore.temporary path) with
    | none => simp [hfile] at held
    | some bytes =>
      rw [rename_run, hfile, none]
      simp [next, put, none]

end SmartCollections.FaultyDisk
