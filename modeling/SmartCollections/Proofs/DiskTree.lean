import SmartCollections.Disk.Tree
import SmartCollections.Proofs.Program

/-!
# A disk of folders and files

A disk in memory does what a store asks of its disk. The two paths of a store lead through the same
folders to different names, however they wind, and no write and no move touches a folder; so what
happens to the temporary file does not show in the other one. If the folders are there, every
request is granted.
-/

namespace SmartCollections.DiskTree

open FileStore SmartCollections.Path

variable {tree other : DiskTree} {place goal home : List String}

theorem lookup_filter {entries : List (List String × DiskEntry)} {place spot : List String} :
    (entries.filter (·.1 ≠ place)).lookup spot =
      if spot = place then none else entries.lookup spot := by
  induction entries with
  | nil => simp
  | cons entry entries ih =>
    obtain ⟨key, entry⟩ := entry
    by_cases gone : key = place
    · subst gone
      rw [List.filter_cons_of_neg (by simp), ih]
      by_cases here : spot = key
      · rw [if_pos here, if_pos here]
      · rw [if_neg here, if_neg here, List.lookup_cons, beq_eq_false_iff_ne.2 here]
    · rw [List.filter_cons_of_pos (by simpa using gone), List.lookup_cons, List.lookup_cons, ih]
      by_cases here : spot = key
      · have kept : spot ≠ place := fun same => gone (here.symm.trans same)
        rw [if_neg kept, if_neg kept, beq_iff_eq.2 here]
      · rw [beq_eq_false_iff_ne.2 here]

theorem entry?_erase (tree : DiskTree) (inner : place ≠ []) (spot : List String) :
    entry? (tree.erase place) spot = if spot = place then none else tree.entry? spot := by
  cases spot with
  | nil => rw [if_neg inner.symm]; rfl
  | cons => exact lookup_filter

theorem entry?_put (tree : DiskTree) (inner : place ≠ []) (entry : DiskEntry)
    (spot : List String) :
    entry? (tree.put place entry) spot = if spot = place then some entry else tree.entry? spot := by
  cases spot with
  | nil => rw [if_neg inner.symm]; rfl
  | cons step steps =>
    change ((place, entry) :: tree.entries.filter (·.1 ≠ place)).lookup (step :: steps) = _
    rw [List.lookup_cons, lookup_filter]
    by_cases here : step :: steps = place
    · rw [if_pos here, if_pos here, beq_iff_eq.2 here]
    · rw [if_neg here, if_neg here, beq_eq_false_iff_ne.2 here]
      rfl

theorem ne_nil_of_not_folder (free : tree.entry? place ≠ some .folder) : place ≠ [] := by
  rintro rfl
  exact free rfl

/-- The folders of one disk are those of the other. -/
def SameFolders (tree other : DiskTree) : Prop :=
  ∀ place, tree.entry? place = some .folder ↔ other.entry? place = some .folder

theorem SameFolders.trans {third : DiskTree} (first : SameFolders tree other)
    (second : SameFolders other third) : SameFolders tree third :=
  fun place => (first place).trans (second place)

theorem sameFolders_put (free : tree.entry? place ≠ some .folder) (bytes : ByteArray) :
    SameFolders tree (tree.put place (.file bytes)) := by
  intro spot
  rw [entry?_put tree (ne_nil_of_not_folder free)]
  split
  · next here => simp [here, free]
  · rfl

theorem sameFolders_erase (free : tree.entry? place ≠ some .folder) :
    SameFolders tree (tree.erase place) := by
  intro spot
  rw [entry?_erase tree (ne_nil_of_not_folder free)]
  split
  · next here => simp [here, free]
  · rfl

/-- Where a step leads from a folder, unless its name is too long. -/
def onward (place : List String) (step : String) : Except DiskFault (List String) :=
  if step = "." then .ok place
  else if step = ".." then .ok place.dropLast
  else if maxNameLength < step.utf8ByteSize then .error .nameTooLong
  else .ok (place ++ [step])

theorem walk_cons (inFolder : tree.entry? place = some .folder) (step : String)
    (steps : List String) :
    tree.walk place (step :: steps) = (onward place step).bind fun next => tree.walk next steps := by
  rw [walk, inFolder, onward]
  dsimp only
  split
  · rfl
  · split
    · rfl
    · split <;> rfl

theorem folder_of_walk {step : String} {steps : List String}
    (arrives : tree.walk place (step :: steps) = .ok goal) :
    tree.entry? place = some .folder := by
  rw [walk] at arrives
  split at arrives
  · cases arrives
  · cases arrives
  · assumption

theorem walk_append (tree : DiskTree) (place first second : List String) :
    tree.walk place (first ++ second) =
      (tree.walk place first).bind fun place => tree.walk place second := by
  induction first generalizing place with
  | nil => rfl
  | cons step first ih =>
    cases here : tree.entry? place with
    | none =>
      rw [List.cons_append, walk, walk, here]
      rfl
    | some entry =>
      cases entry with
      | file =>
        rw [List.cons_append, walk, walk, here]
        rfl
      | folder =>
        rw [List.cons_append, walk_cons here, walk_cons here]
        cases onward place step with
        | error fault => rfl
        | ok next => exact ih next

/-- A walk that arrives leads through folders only. -/
theorem walk_of_sameFolders (same : SameFolders tree other) {steps : List String}
    (arrives : tree.walk place steps = .ok goal) : other.walk place steps = .ok goal := by
  induction steps generalizing place with
  | nil => exact arrives
  | cons step steps ih =>
    have inFolder := folder_of_walk arrives
    rw [walk_cons inFolder] at arrives
    rw [walk_cons ((same place).1 inFolder)]
    cases leads : onward place step with
    | error fault =>
      rw [leads] at arrives
      cases arrives
    | ok next =>
      rw [leads] at arrives
      exact ih arrives

theorem walk_dots (same : other.entry? place = tree.entry? place) (dots : Nat) :
    other.walk place (List.replicate dots ".") = tree.walk place (List.replicate dots ".") := by
  induction dots with
  | zero => rfl
  | succ dots ih =>
    rw [List.replicate_succ, walk, walk, same]
    simp only [if_true, ih]

theorem eq_of_walk_dots {dots : Nat}
    (arrives : tree.walk place (List.replicate dots ".") = .ok goal) : goal = place := by
  induction dots with
  | zero => exact (Except.ok.inj arrives).symm
  | succ dots ih =>
    rw [List.replicate_succ] at arrives
    rw [walk_cons (folder_of_walk arrives)] at arrives
    exact ih arrives

/-- Where a path starts. -/
def start (path : String) : List String := if isAbsolute path then ["/"] else []

theorem walk_name {name : String} (inFolder : tree.entry? home = some .folder)
    (proper : name ≠ "." ∧ name ≠ "..") (steps : List String) :
    tree.walk home (name :: steps) =
      if maxNameLength < name.utf8ByteSize then .error .nameTooLong
      else tree.walk (home ++ [name]) steps := by
  rw [walk_cons inFolder, onward, if_neg proper.1, if_neg proper.2]
  split <;> rfl

section

variable {path folder name : String}

/-- Either a path is none, on whatever disk, or it is a walk to a folder and on to a name. -/
theorem locate_names (names : Names path folder name) :
    (∃ fault, ∀ tree : DiskTree, tree.locate path = .error fault) ∨
      ∃ dots, ∀ tree : DiskTree, tree.locate path =
        (tree.walk (start folder) (steps folder)).bind fun home =>
          tree.walk home (name :: List.replicate dots ".") := by
  obtain ⟨dots, leads⟩ := names.steps
  by_cases ill : '\x00' ∈ path.toList
  · exact .inl ⟨_, fun tree => by rw [locate, if_pos ill]⟩
  · by_cases empty : path.isEmpty
    · exact .inl ⟨_, fun tree => by rw [locate, if_neg ill, if_pos empty]⟩
    · refine .inr ⟨dots, fun tree => ?_⟩
      rw [locate, if_neg ill, if_neg empty, leads, names.start, walk_append]
      rfl

/-- What a path leads to is in a folder. -/
theorem home_of_locate (names : Names path folder name) (located : tree.locate path = .ok place) :
    ∃ home, tree.walk (start folder) (steps folder) = .ok home ∧
      tree.entry? home = some .folder ∧ place = home ++ [name] := by
  rcases locate_names names with ⟨fault, fails⟩ | ⟨dots, leads⟩
  · cases (fails tree).symm.trans located
  · rw [leads] at located
    cases arrives : tree.walk (start folder) (steps folder) with
    | error fault =>
      rw [arrives] at located
      cases located
    | ok home =>
      rw [arrives] at located
      change tree.walk home (name :: List.replicate dots ".") = .ok place at located
      have inFolder := folder_of_walk located
      rw [walk_name inFolder names.proper] at located
      split at located
      · cases located
      · exact ⟨home, rfl, inFolder, eq_of_walk_dots located⟩

/-- What is read does not depend on what else is in the folder. -/
theorem read_same (same : SameFolders tree other) (names : Names path folder name)
    (arrives : tree.walk (start folder) (steps folder) = .ok home)
    (inFolder : tree.entry? home = some .folder)
    (kept : other.entry? (home ++ [name]) = tree.entry? (home ++ [name])) :
    other.read path = tree.read path := by
  have located : other.locate path = tree.locate path := by
    rcases locate_names names with ⟨fault, fails⟩ | ⟨dots, leads⟩
    · rw [fails, fails]
    · rw [leads, leads, arrives, walk_of_sameFolders same arrives]
      change other.walk home _ = tree.walk home _
      rw [walk_name inFolder names.proper, walk_name ((same home).1 inFolder) names.proper,
        walk_dots kept]
  cases place : tree.locate path with
  | error fault => simp only [read, located, place, bind, Except.bind]
  | ok place =>
    obtain ⟨_, arrivesToo, _, rfl⟩ := home_of_locate names place
    cases arrives.symm.trans arrivesToo
    simp only [read, located, place, bind, Except.bind, kept]

end

theorem locate_of_sameFolders (same : SameFolders tree other) {path : String}
    (located : tree.locate path = .ok place) : other.locate path = .ok place := by
  unfold locate at located ⊢
  split
  · next ill =>
    rw [if_pos ill] at located
    cases located
  · next well =>
    rw [if_neg well] at located
    split
    · next empty =>
      rw [if_pos empty] at located
      cases located
    · next some =>
      rw [if_neg some] at located
      exact walk_of_sameFolders same located

variable {path name : String} {bytes : ByteArray} {next : DiskTree}

theorem bind_eq_ok_iff {ε α β : Type} {first : Except ε α} {later : α → Except ε β} {b : β} :
    first >>= later = .ok b ↔ ∃ a, first = .ok a ∧ later a = .ok b := by
  cases first with
  | error fault =>
    refine ⟨nofun, ?_⟩
    rintro ⟨_, same, _⟩
    cases same
  | ok a =>
    refine ⟨fun same => ⟨a, rfl, same⟩, ?_⟩
    rintro ⟨_, same, later⟩
    cases same
    exact later

theorem refuse_eq_ok_iff {ε α : Type} {refused : Bool} {fault : ε} {a b : α} :
    (if refused then throw fault else return a : Except ε α) = .ok b ↔ refused = false ∧ a = b := by
  cases refused with
  | true => exact ⟨nofun, nofun⟩
  | false => exact ⟨fun same => ⟨rfl, Except.ok.inj same⟩, fun same => congrArg Except.ok same.2⟩

theorem read_eq_ok_iff : tree.read path = .ok bytes ↔
    ∃ place, tree.locate path = .ok place ∧ tree.entry? place = some (.file bytes) ∧
      namesFolder path = false := by
  rw [read, bind_eq_ok_iff]
  refine exists_congr fun place => and_congr_right fun _ => ?_
  cases tree.entry? place with
  | none => exact ⟨nofun, nofun⟩
  | some entry =>
    cases entry with
    | folder => exact ⟨nofun, nofun⟩
    | file held =>
      refine refuse_eq_ok_iff.trans ?_
      rw [and_comm, Option.some.injEq, DiskEntry.file.injEq]

/-- A file may be replaced, or made where nothing is. -/
theorem write_eq_ok_iff : tree.write path bytes = .ok next ↔
    ∃ place, tree.locate path = .ok place ∧ tree.entry? place ≠ some .folder ∧
      namesFolder path = false ∧ tree.put place (.file bytes) = next := by
  rw [write, bind_eq_ok_iff]
  refine exists_congr fun place => and_congr_right fun _ => ?_
  cases tree.entry? place with
  | none => exact refuse_eq_ok_iff.trans (and_iff_right nofun).symm
  | some entry =>
    cases entry with
    | folder => exact ⟨nofun, fun free => absurd rfl free.1⟩
    | file _ => exact refuse_eq_ok_iff.trans (and_iff_right nofun).symm

theorem rename_eq_ok_iff {source target : String} : tree.rename source target = .ok next ↔
    ∃ bytes, tree.read source = .ok bytes ∧ ∃ place, tree.locate source = .ok place ∧
      ∃ goal, tree.locate target = .ok goal ∧ tree.entry? goal ≠ some .folder ∧
      namesFolder target = false ∧ (tree.erase place).put goal (.file bytes) = next := by
  simp only [rename, bind_eq_ok_iff]
  refine exists_congr fun bytes => and_congr_right fun _ => exists_congr fun place =>
    and_congr_right fun _ => exists_congr fun goal => and_congr_right fun _ => ?_
  cases tree.entry? goal with
  | none => exact refuse_eq_ok_iff.trans (and_iff_right nofun).symm
  | some entry =>
    cases entry with
    | folder => exact ⟨nofun, fun free => absurd rfl free.1⟩
    | file _ => exact refuse_eq_ok_iff.trans (and_iff_right nofun).symm

theorem contents_eq (path : String) (tree : DiskTree) : contents disk path tree = tree.read path :=
  rfl

theorem write_run (path : String) (bytes : ByteArray) (tree : DiskTree) :
    (disk.write path bytes).run tree = match tree.write path bytes with
      | .ok next => (.ok (), next)
      | .error fault => (.error fault, tree) := by
  simp only [disk, run_get_bind]
  cases tree.write path bytes <;> rfl

theorem rename_run (source target : String) (tree : DiskTree) :
    (disk.rename source target).run tree = match tree.rename source target with
      | .ok next => (.ok (), next)
      | .error fault => (.error fault, tree) := by
  simp only [disk, run_get_bind]
  cases tree.rename source target <;> rfl

/-- Writing to a folder touches no other name in it. -/
theorem write_beside {otherPath folder otherName : String} (names : Names path folder name)
    (namesToo : Names otherPath folder otherName) (apart : otherName ≠ name)
    (written : tree.write path bytes = .ok next) : next.read otherPath = tree.read otherPath := by
  obtain ⟨place, located, free, _, rfl⟩ := write_eq_ok_iff.1 written
  obtain ⟨home, arrives, inFolder, rfl⟩ := home_of_locate names located
  refine read_same (sameFolders_put free bytes) namesToo arrives inFolder ?_
  rw [entry?_put tree (ne_nil_of_not_folder free), if_neg]
  simpa using apart

/-- What a move leaves behind. -/
structure Moved (tree : DiskTree) (place goal : List String) (bytes : ByteArray) (next : DiskTree) :
    Prop where
  folders : SameFolders tree next
  there : next.entry? goal = some (.file bytes)
  others : ∀ spot, spot ≠ place → spot ≠ goal → next.entry? spot = tree.entry? spot

theorem moved (leaves : tree.entry? place ≠ some .folder) (free : tree.entry? goal ≠ some .folder)
    (bytes : ByteArray) :
    Moved tree place goal bytes ((tree.erase place).put goal (.file bytes)) := by
  have erased := sameFolders_erase leaves
  have freeThen : entry? (tree.erase place) goal ≠ some .folder := mt (erased goal).2 free
  have inner := ne_nil_of_not_folder free
  refine ⟨erased.trans (sameFolders_put freeThen bytes), ?_, fun spot away apart => ?_⟩
  · rw [entry?_put _ inner, if_pos rfl]
  · rw [entry?_put _ inner, if_neg apart, entry?_erase _ (ne_nil_of_not_folder leaves), if_neg away]

theorem rename_moved {source target : String} (renamed : tree.rename source target = .ok next) :
    ∃ bytes place goal, tree.read source = .ok bytes ∧ tree.locate source = .ok place ∧
      tree.locate target = .ok goal ∧ namesFolder target = false ∧
        Moved tree place goal bytes next := by
  obtain ⟨bytes, held, place, located, goal, locatedToo, free, plain, rfl⟩ :=
    rename_eq_ok_iff.1 renamed
  obtain ⟨_, same, file, _⟩ := read_eq_ok_iff.1 held
  cases same.symm.trans located
  have leaves : tree.entry? place ≠ some .folder := by rw [file]; nofun
  exact ⟨bytes, place, goal, held, located, locatedToo, plain, moved leaves free bytes⟩

/-- A disk of folders and files does what a store asks of it whose path has a name. -/
theorem replaces (named : name? path = some name) : Replaces disk path where
  read_keeps _ := rfl
  write_apart bytes tree := by
    rw [write_run]
    cases written : tree.write (temporary path) bytes with
    | error fault => rfl
    | ok next =>
      exact write_beside (names_temporary named) (names_of_named named)
        (temporaryName_ne name).symm written
  written bytes tree done := by
    rw [write_run] at done ⊢
    cases written : tree.write (temporary path) bytes with
    | error fault =>
      rw [written] at done
      cases done
    | ok next =>
      obtain ⟨place, located, free, plain, rfl⟩ := write_eq_ok_iff.1 written
      have locatedThen := locate_of_sameFolders (sameFolders_put free bytes) located
      refine read_eq_ok_iff.2 ⟨place, locatedThen, ?_, plain⟩
      rw [entry?_put tree (ne_nil_of_not_folder free), if_pos rfl]
  moved tree done := by
    rw [rename_run] at done ⊢
    cases renamed : tree.rename (temporary path) path with
    | error fault =>
      rw [renamed] at done
      cases done
    | ok next =>
      obtain ⟨bytes, _, goal, held, _, located, plain, moved⟩ := rename_moved renamed
      have arrives := read_eq_ok_iff.2
        ⟨goal, locate_of_sameFolders moved.folders located, moved.there, plain⟩
      exact arrives.trans held.symm
  not_moved fault tree failed := by
    rw [rename_run] at failed ⊢
    cases renamed : tree.rename (temporary path) path with
    | error fault => rfl
    | ok next =>
      rw [renamed] at failed
      cases failed

/-- The folders of a path are there, and its end is no folder. -/
def Free (path : String) (tree : DiskTree) : Prop :=
  (∃ place, tree.locate path = .ok place ∧ tree.entry? place ≠ some .folder) ∧
    namesFolder path = false

theorem Free.of_sameFolders (same : SameFolders tree other) (free : Free path tree) :
    Free path other := by
  obtain ⟨⟨place, located, file⟩, plain⟩ := free
  exact ⟨⟨place, locate_of_sameFolders same located, mt (same place).2 file⟩, plain⟩

/-- Where file and temporary file may be, every request of a store is granted. -/
theorem grants (named : name? path = some name) :
    Grants disk path fun tree => Free path tree ∧ Free (temporary path) tree where
  toReplaces := replaces named
  writes bytes tree free := by
    obtain ⟨⟨place, located, file⟩, plain⟩ := free.2
    have written : tree.write (temporary path) bytes = .ok (tree.put place (.file bytes)) :=
      write_eq_ok_iff.2 ⟨place, located, file, plain, rfl⟩
    rw [write_run, written]
    have same := sameFolders_put file bytes
    exact ⟨rfl, free.1.of_sameFolders same, free.2.of_sameFolders same⟩
  moves bytes tree free held := by
    obtain ⟨place, located, file, _⟩ := read_eq_ok_iff.1 held
    obtain ⟨⟨goal, locatedToo, fileToo⟩, plain⟩ := free.1
    have renamed := rename_eq_ok_iff.2
      ⟨bytes, held, place, located, goal, locatedToo, fileToo, plain, rfl⟩
    rw [rename_run, renamed]
    obtain ⟨_, _, _, _, _, _, _, moved⟩ := rename_moved renamed
    exact ⟨rfl, free.1.of_sameFolders moved.folders, free.2.of_sameFolders moved.folders⟩

/-- A file and its temporary file may be in a folder that is there. -/
example : let tree : DiskTree := ⟨[(["a"], .folder)]⟩
    Free "a/c.json" tree ∧ Free (temporary "a/c.json") tree := by
  have beside : temporary "a/c.json" = "a/c.json.tmp" := by decide +kernel
  rw [beside]
  exact ⟨⟨⟨["a", "c.json"], rfl, nofun⟩, rfl⟩, ⟨["a", "c.json.tmp"], rfl, nofun⟩, rfl⟩

/-- Other names in the folder of a store are left alone. -/
theorem spares {otherPath otherName : String} (named : name? path = some name)
    (beside : Names otherPath (before path) otherName) (apart : otherName ≠ name)
    (apartToo : otherName ≠ temporaryName name) : Spares disk path otherPath where
  read_keeps _ := rfl
  write_spares bytes tree := by
    rw [write_run]
    cases written : tree.write (temporary path) bytes with
    | error fault => rfl
    | ok next => exact write_beside (names_temporary named) beside apartToo written
  move_spares tree := by
    rw [rename_run]
    cases renamed : tree.rename (temporary path) path with
    | error fault => rfl
    | ok next =>
      obtain ⟨bytes, place, goal, _, located, locatedToo, _, moved⟩ := rename_moved renamed
      obtain ⟨home, arrives, inFolder, rfl⟩ := home_of_locate (names_of_named named) locatedToo
      obtain ⟨_, arrivesToo, _, rfl⟩ := home_of_locate (names_temporary named) located
      cases arrives.symm.trans arrivesToo
      refine read_same moved.folders beside arrives inFolder (moved.others _ ?_ ?_)
      · simpa using apartToo
      · simpa using apart

end SmartCollections.DiskTree
