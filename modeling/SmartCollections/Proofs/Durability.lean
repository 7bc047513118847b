import SmartCollections.Proofs.JsonRoundTrip
import SmartCollections.Proofs.Locality
import SmartCollections.Proofs.Paths

/-!
# What the file of a store keeps

The file of a store stands for the collections in its memory, whatever calls are made, and at
whatever point the disk fails. Not much is asked of the disk: what a failed call leaves in the
temporary file may be anything.
-/

namespace SmartCollections

/-- What every item is read back from, a list of items is read back from. -/
theorem mapM_map_some {α β : Type} (write : α → β) (read : β → Option α)
    (inverse : ∀ a, read (write a) = some a) (items : List α) :
    (items.map write).mapM read = some items := by
  induction items with
  | nil => rfl
  | cons item items ih => simp [inverse, ih]

namespace Collections

theorem toDocument_textual (c : Collections) : Json.Textual c.toDocument := by
  refine .table _ fun entry hentry => ?_
  obtain ⟨_, _, rfl⟩ := List.mem_map.1 hentry
  exact .map .text _

theorem entry?_texts (entry : String × StringSet) :
    entry? (entry.1, .list (entry.2.toList.map .text)) = some entry := by
  have ids : (entry.2.toList.map Document.text).mapM Document.text? = some entry.2.toList :=
    mapM_map_some Document.text _ (fun _ => rfl) _
  simp [Document.list?, ids, entry?]

theorem ofDocument?_toDocument (c : Collections) : ofDocument? c.toDocument = some c := by
  rw [toDocument, ofDocument?, mapM_map_some _ _ entry?_texts, Option.map_some, ofList_entries]

end Collections

namespace FileStore

/-- The text of collections stands for them, whatever their names and ids are made of. -/
theorem decode?_toText (c : Collections) : decode? c.toText.toUTF8 = some c := by
  rw [decode?, Collections.toText, Json.decode_pretty c.toDocument_textual, Option.bind_some,
    Collections.ofDocument?_toDocument]

variable {δ : Type}

/-- What a file holds. -/
def contents (disk : Disk (StateM δ)) (path : String) (d : δ) : Except DiskFault ByteArray :=
  ((disk.read path).run d).1

/-- What a store asks of its disk. Reading changes nothing. The temporary file is apart from the
file itself, whether writing it succeeds or not; if it does, the temporary file holds what was
written. Moving it over the file does so as a whole, or not at all. -/
structure Replaces (disk : Disk (StateM δ)) (path : String) : Prop where
  read_keeps (d : δ) : ((disk.read path).run d).2 = d
  write_apart (bytes : ByteArray) (d : δ) :
    contents disk path ((disk.write (temporary path) bytes).run d).2 = contents disk path d
  written (bytes : ByteArray) (d : δ) :
    ((disk.write (temporary path) bytes).run d).1 = .ok () →
      contents disk (temporary path) ((disk.write (temporary path) bytes).run d).2 = .ok bytes
  moved (d : δ) :
    ((disk.rename (temporary path) path).run d).1 = .ok () →
      contents disk path ((disk.rename (temporary path) path).run d).2 =
        contents disk (temporary path) d
  not_moved (fault : DiskFault) (d : δ) :
    ((disk.rename (temporary path) path).run d).1 = .error fault →
      contents disk path ((disk.rename (temporary path) path).run d).2 = contents disk path d

/-- The store that a file stands for. -/
def ofContents (path : String) : Except DiskFault ByteArray → Except HostError FileStore
  | .error .notFound => .ok ⟨path, .empty⟩
  | .error fault => .error (.io path fault)
  | .ok bytes => match decode? bytes with
    | some collections => .ok ⟨path, collections⟩
    | none => .error (.invalidData path)

theorem run_bind_both {α β : Type} (first : StateT FileStore (StateM δ) α)
    (next : α → StateT FileStore (StateM δ) β) (s : FileStore) (d : δ) :
    ((first >>= next).run s).run d =
      let after := (first.run s).run d
      ((next after.1.1).run after.1.2).run after.2 := rfl

theorem run_get_bind_both {β : Type} (next : FileStore → StateT FileStore (StateM δ) β)
    (s : FileStore) (d : δ) : ((get >>= next).run s).run d = ((next s).run s).run d := rfl

theorem run_lift_bind {α β : Type} (first : StateM δ α)
    (next : α → StateT FileStore (StateM δ) β) (s : FileStore) (d : δ) :
    (((liftM first : StateT FileStore (StateM δ) α) >>= next).run s).run d =
      ((next (first.run d).1).run s).run (first.run d).2 := rfl

variable {disk : Disk (StateM δ)} {path : String}

theorem load_run (replaces : Replaces disk path) (d : δ) :
    (load disk path).run d = (ofContents path (contents disk path d), d) := by
  have kept := replaces.read_keeps d
  rw [load, run_bind_state, kept, contents]
  rcases ((disk.read path).run d).1 with fault | bytes
  · cases fault <;> rfl
  · simp only [ofContents]
    cases decode? bytes <;> rfl

theorem ofContents_path {answer : Except DiskFault ByteArray} {store : FileStore}
    (opens : ofContents path answer = .ok store) : store.path = path := by
  rcases answer with fault | bytes
  · cases fault <;> simp [ofContents] at opens
    rw [← opens]
  · simp only [ofContents] at opens
    split at opens
    · cases opens
      rfl
    · cases opens

/-- Either the file becomes the text of the collections, or it stays as it is. -/
theorem persist_run (replaces : Replaces disk path) (c : Collections) (d : δ) :
    let after := (persist disk path c).run d
    (after.1 = .ok () → contents disk path after.2 = .ok c.toText.toUTF8) ∧
      ∀ error, after.1 = .error error → contents disk path after.2 = contents disk path d := by
  intro after
  have apart := replaces.write_apart c.toText.toUTF8 d
  have written := replaces.written c.toText.toUTF8 d
  rcases hwrite : (disk.write (temporary path) c.toText.toUTF8).run d with ⟨fault | _, d₁⟩
  · have stopped : after = (.error (.io (temporary path) fault), d₁) := by
      simp only [after, persist, run_bind_state, hwrite]
      rfl
    rw [hwrite] at apart
    rw [stopped]
    exact ⟨nofun, fun _ _ => apart⟩
  · rw [hwrite] at apart written
    have moved := replaces.moved d₁
    have notMoved := replaces.not_moved
    rcases hmove : (disk.rename (temporary path) path).run d₁ with ⟨fault | _, d₂⟩
    · have stopped : after = (.error (.io path fault), d₂) := by
        simp only [after, persist, run_bind_state, hwrite, hmove]
        rfl
      have same := notMoved fault d₁
      rw [hmove] at same
      rw [stopped]
      exact ⟨nofun, fun _ _ => (same rfl).trans apart⟩
    · have done : after = (.ok (), d₂) := by
        simp only [after, persist, run_bind_state, hwrite, hmove]
        rfl
      rw [hmove] at moved
      rw [done]
      exact ⟨fun _ => (moved rfl).trans (written rfl), nofun⟩

/-- The memory takes on what has reached the file. -/
theorem mutate_run {s : FileStore} (atPath : s.path = path) (mutation : Mutation) (d : δ) :
    (((store disk).mutate mutation).run s).run d =
      match s.collections.change mutation with
      | .error error => ((.error error, s), d)
      | .ok c =>
        let persisted := (persist disk path c).run d
        match persisted.1 with
        | .error error => ((.error error, s), persisted.2)
        | .ok () => ((.ok (), { s with collections := c }), persisted.2) := by
  cases change : s.collections.change mutation with
  | error error =>
    have rejected : (mutate disk s mutation).run d = (.error error, d) := by
      simp only [mutate, change]
      rfl
    simp only [store, run_get_bind_both, run_lift_bind, rejected]
    rfl
  | ok c =>
    have goes : (mutate disk s mutation).run d =
        (((persist disk path c).run d).1.map fun _ => { s with collections := c },
          ((persist disk path c).run d).2) := by
      simp only [mutate, change, run_bind_state, atPath]
      cases ((persist disk path c).run d).1 <;> rfl
    simp only [store, run_get_bind_both, run_lift_bind, goes]
    cases ((persist disk path c).run d).1 <;> rfl

/-- What a change comes to: either the memory stays as it is, and so does the file, or both take it
on. -/
theorem mutate_cases (replaces : Replaces disk path) {s : FileStore} (atPath : s.path = path)
    (mutation : Mutation) (d : δ) :
    let after := (((store disk).mutate mutation).run s).run d
    (∃ error, after.1 = (.error error, s) ∧ contents disk path after.2 = contents disk path d) ∨
    ∃ c, s.collections.change mutation = .ok c ∧ after.1 = (.ok (), { s with collections := c }) ∧
      contents disk path after.2 = .ok c.toText.toUTF8 := by
  intro after
  simp only [after, mutate_run atPath]
  cases s.collections.change mutation with
  | error error => exact .inl ⟨error, rfl, rfl⟩
  | ok c =>
    obtain ⟨persisted, failed⟩ := persist_run replaces c d
    dsimp only
    rcases hpersist : (persist disk path c).run d with ⟨error | _, d₁⟩
    · rw [hpersist] at failed
      exact .inl ⟨error, rfl, failed error rfl⟩
    · rw [hpersist] at persisted
      exact .inr ⟨c, rfl, rfl, persisted rfl⟩

/-- Opening the file yields the store in memory. -/
def Agrees (disk : Disk (StateM δ)) (path : String) (s : FileStore) (d : δ) : Prop :=
  (load disk path).run d = (.ok s, d)

theorem agrees_iff (replaces : Replaces disk path) {s : FileStore} {d : δ} :
    Agrees disk path s d ↔ ofContents path (contents disk path d) = .ok s := by
  rw [Agrees, load_run replaces, Prod.mk.injEq]
  exact and_iff_left rfl

theorem agrees_of_load (replaces : Replaces disk path) {s : FileStore} {d : δ}
    (opened : ((load disk path).run d).1 = .ok s) : Agrees disk path s d := by
  rw [load_run replaces] at opened
  exact (agrees_iff replaces).2 opened

theorem Agrees.atPath (replaces : Replaces disk path) {s : FileStore} {d : δ}
    (agrees : Agrees disk path s d) : s.path = path :=
  ofContents_path ((agrees_iff replaces).1 agrees)

theorem Agrees.same {s : FileStore} {d d' : δ} (agrees : Agrees disk path s d)
    (replaces : Replaces disk path) (same : contents disk path d' = contents disk path d) :
    Agrees disk path s d' := by
  rw [agrees_iff replaces, same]
  exact (agrees_iff replaces).1 agrees

theorem agrees_of_text (replaces : Replaces disk path) {c : Collections} {d : δ}
    (text : contents disk path d = .ok c.toText.toUTF8) : Agrees disk path ⟨path, c⟩ d := by
  rw [agrees_iff replaces, text, ofContents, decode?_toText]

/-- A change keeps the agreement, whatever comes of it. -/
theorem Agrees.mutate {s : FileStore} {d : δ} (agrees : Agrees disk path s d)
    (replaces : Replaces disk path) (mutation : Mutation) :
    let after := (((store disk).mutate mutation).run s).run d
    Agrees disk path after.1.2 after.2 := by
  intro after
  have atPath := agrees.atPath replaces
  rcases mutate_cases replaces atPath mutation d with
    ⟨error, failed, same⟩ | ⟨c, _, done, text⟩
  · simp only [after, failed]
    exact agrees.same replaces same
  · simp only [after, done, atPath]
    exact agrees_of_text replaces text

theorem Agrees.mutateEach {s : FileStore} {d : δ} (agrees : Agrees disk path s d)
    (replaces : Replaces disk path) (change : String → Mutation) (items : List String) :
    let after := (((store disk).mutateEach change items).run s).run d
    Agrees disk path after.1.2 after.2 := by
  induction items generalizing s d with
  | nil => exact agrees
  | cons item items ih =>
    have first := agrees.mutate replaces (change item)
    simp only [Store.mutateEach, List.mapM_cons, run_bind_both] at ih ⊢
    exact ih first

/-- Opening the file again changes nothing. -/
theorem Agrees.reload {s : FileStore} {d : δ} (agrees : Agrees disk path s d)
    (replaces : Replaces disk path) : ((reload disk).run s).run d = ((.ok (), s), d) := by
  have opens : (load disk s.path).run d = (.ok s, d) := by
    rw [agrees.atPath replaces]
    exact agrees
  simp only [FileStore.reload, run_get_bind_both, run_lift_bind, opens]
  rfl

end FileStore

/-- What can be asked of an open store. -/
inductive Call where
  | members (collection : String)
  | mutate (mutation : Mutation)
  | addMembers (collection : String) (items : List String)
  | removeMembers (collection : String) (items : List String)
  | reload

namespace Call

inductive Answer where
  | members (answer : Except HostError (Option StringSet))
  | change (answer : Except HostError Unit)
  | changes (answers : List (String × Except HostError Unit))

def run {m : Type → Type} [Monad m] (disk : Disk m) : Call → StateT FileStore m Answer
  | members collection => do return .members (← (FileStore.store disk).members collection)
  | mutate mutation => do return .change (← (FileStore.store disk).mutate mutation)
  | addMembers collection items => do
    return .changes (← (FileStore.store disk).addMembers collection items)
  | removeMembers collection items => do
    return .changes (← (FileStore.store disk).removeMembers collection items)
  | reload => do return .change (← FileStore.reload disk)

end Call

namespace FileStore

variable {δ : Type} {disk : Disk (StateM δ)} {path : String}

theorem Agrees.call {s : FileStore} {d : δ} (agrees : Agrees disk path s d)
    (replaces : Replaces disk path) (call : Call) :
    let after := ((call.run disk).run s).run d
    Agrees disk path after.1.2 after.2 := by
  cases call with
  | members collection => exact agrees
  | mutate mutation => exact agrees.mutate replaces mutation
  | addMembers collection items => exact agrees.mutateEach replaces _ items
  | removeMembers collection items => exact agrees.mutateEach replaces _ items
  | reload =>
    simp only [Call.run, run_bind_both, agrees.reload replaces]
    exact agrees

theorem Agrees.calls {s : FileStore} {d : δ} (agrees : Agrees disk path s d)
    (replaces : Replaces disk path) (calls : List Call) :
    let after := ((calls.mapM (Call.run disk)).run s).run d
    Agrees disk path after.1.2 after.2 := by
  induction calls generalizing s d with
  | nil => exact agrees
  | cons call calls ih =>
    have first := agrees.call replaces call
    simp only [List.mapM_cons, run_bind_both]
    exact ih first

end FileStore

/-- A disk that fails when it is told to, one call after another. Of a file whose writing fails
nothing is left. -/
structure FaultyDisk where
  file? : String → Option ByteArray
  /-- Whether the next writes and moves fail. What comes after them does not. -/
  faults : List Bool

namespace FaultyDisk

def put (d : FaultyDisk) (path : String) (bytes : Option ByteArray) : FaultyDisk :=
  { d with file? := fun other => if other = path then bytes else d.file? other }

/-- The disk after a call that was told whether to fail. -/
def next (d : FaultyDisk) : FaultyDisk := { d with faults := d.faults.tail }

def fault : DiskFault := .other "Input/output error (os error 5)"

def disk : Disk (StateM FaultyDisk) where
  read path := do
    match (← get).file? path with
    | some bytes => return .ok bytes
    | none => return .error .notFound
  write path bytes := do
    let d ← get
    if d.faults.headD false then
      set (d.put path none).next
      return .error fault
    else
      set (d.put path (some bytes)).next
      return .ok ()
  rename source target := do
    let d ← get
    match d.file? source with
    | none => return .error .notFound
    | some bytes =>
      if d.faults.headD false then
        set d.next
        return .error fault
      else
        set ((d.put target (some bytes)).put source none).next
        return .ok ()

theorem contents_eq (d : FaultyDisk) (path : String) :
    FileStore.contents disk path d =
      match d.file? path with
      | some bytes => .ok bytes
      | none => .error .notFound := by
  simp only [FileStore.contents, disk, run_get_bind]
  cases d.file? path <;> rfl

theorem write_run (d : FaultyDisk) (path : String) (bytes : ByteArray) :
    (disk.write path bytes).run d =
      if d.faults.headD false then (.error fault, (d.put path none).next)
      else (.ok (), (d.put path (some bytes)).next) := by
  simp only [disk, run_get_bind]
  split <;> rfl

theorem rename_run (d : FaultyDisk) (source target : String) :
    (disk.rename source target).run d =
      match d.file? source with
      | none => (.error .notFound, d)
      | some bytes =>
        if d.faults.headD false then (.error fault, d.next)
        else (.ok (), ((d.put target (some bytes)).put source none).next) := by
  simp only [disk, run_get_bind]
  cases d.file? source
  · rfl
  · dsimp only
    split <;> rfl

/-- However it fails, such a disk does what a store asks of it whose path has a name. -/
theorem replaces {path name : String} (named : Path.name? path = some name) :
    FileStore.Replaces disk path where
  read_keeps d := by
    simp only [disk, run_get_bind]
    cases d.file? path <;> rfl
  write_apart bytes d := by
    have apart := (FileStore.temporary_ne named).symm
    rw [write_run]
    split <;> simp [contents_eq, next, put, apart]
  written bytes d := by
    rw [write_run]
    split <;> simp [contents_eq, next, put]
  moved d := by
    have apart := (FileStore.temporary_ne named).symm
    rw [rename_run]
    cases hfile : d.file? (FileStore.temporary path) with
    | none => simp
    | some bytes =>
      dsimp only
      split <;> simp [contents_eq, next, put, apart, hfile]
  not_moved fault d := by
    rw [rename_run]
    cases d.file? (FileStore.temporary path) with
    | none => simp
    | some bytes =>
      dsimp only
      split <;> simp [contents_eq, next, put]

end FaultyDisk

namespace FileStore

variable {δ : Type} {disk : Disk (StateM δ)} {path : String}

/-- After any calls, and with any faults of the disk on the way, opening the file yields the store
in memory, so opening it again goes unnoticed. A change that succeeds leaves the text of the new
collections in the file, and one that fails leaves both the memory and the file as they were. -/
theorem calls_agree (replaces : Replaces disk path) {s : FileStore} {d : δ}
    (opened : ((load disk path).run d).1 = .ok s) (calls : List Call) :
    let now := ((calls.mapM (Call.run disk)).run s).run d
    (load disk path).run now.2 = (.ok now.1.2, now.2) ∧
      ((reload disk).run now.1.2).run now.2 = ((.ok (), now.1.2), now.2) ∧
      ∀ mutation,
        let after := (((store disk).mutate mutation).run now.1.2).run now.2
        (after.1.1 = .ok () →
          now.1.2.collections.change mutation = .ok after.1.2.collections ∧
            contents disk path after.2 = .ok after.1.2.collections.toText.toUTF8) ∧
        ∀ error, after.1.1 = .error error →
          after.1.2 = now.1.2 ∧ contents disk path after.2 = contents disk path now.2 := by
  intro now
  have agrees : Agrees disk path now.1.2 now.2 :=
    (agrees_of_load replaces opened).calls replaces calls
  refine ⟨agrees, agrees.reload replaces, fun mutation => ?_⟩
  intro after
  rcases mutate_cases replaces (agrees.atPath replaces) mutation now.2 with
    ⟨error, failed, same⟩ | ⟨c, change, done, text⟩
  · refine ⟨fun ok => ?_, fun _ _ => ⟨?_, same⟩⟩
    · simp [after, failed] at ok
    · simp [after, failed]
  · refine ⟨fun _ => ?_, fun error stops => ?_⟩
    · simp only [after, done]
      exact ⟨change, text⟩
    · simp [after, done] at stops

/-- A write and a move that fail cost a store two of its members, and nothing else. -/
theorem calls_agree_faulty :
    let name := "\"\n\\"
    let calls : List Call :=
      [.mutate (.create name ["", "A"]), .mutate (.add name "B"), .addMembers name ["C", "D"]]
    let before : FaultyDisk := ⟨fun _ => none, [false, false, true, false, true]⟩
    let now := ((calls.mapM (Call.run FaultyDisk.disk)).run ⟨"c.json", .empty⟩).run before
    Replaces FaultyDisk.disk "c.json" ∧
      ((load FaultyDisk.disk "c.json").run before).1 = .ok ⟨"c.json", .empty⟩ ∧
      now.1.2.collections.get? name = some (.ofList ["", "A", "D"]) ∧
      (load FaultyDisk.disk "c.json").run now.2 = (.ok now.1.2, now.2) := by
  intro name calls before
  dsimp only
  have named : Path.name? "c.json" = some "c.json" := by decide +kernel
  have replaces : Replaces FaultyDisk.disk "c.json" := FaultyDisk.replaces named
  have opened : ((load FaultyDisk.disk "c.json").run before).1 = .ok ⟨"c.json", .empty⟩ := rfl
  have agreed := (calls_agree replaces opened calls).1
  refine ⟨replaces, opened, ?_, agreed⟩
  decide +kernel

end FileStore

end SmartCollections
