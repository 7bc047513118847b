import SmartCollections.CommandLine
import SmartCollections.Proofs.FilePasses

/-!
# What a run of the program does to the files

A run reads the settings, the catalog and the collections from files, and may change the file of the
collections. What the next run finds there is all that it knows of the one before.
-/

namespace SmartCollections

open FileStore

namespace FileStore

variable {δ : Type}

/-- Another file than the two of a store. Reading it changes nothing, and what the store writes and
moves does not touch it. -/
structure Spares (disk : Disk (StateM δ)) (path other : String) : Prop where
  read_keeps (d : δ) : ((disk.read other).run d).2 = d
  write_spares (bytes : ByteArray) (d : δ) :
    contents disk other ((disk.write (temporary path) bytes).run d).2 = contents disk other d
  move_spares (d : δ) :
    contents disk other ((disk.rename (temporary path) path).run d).2 = contents disk other d

/-- From a disk on, other files are as they were there, and the file of the store is, or it has been
replaced. -/
structure Since (disk : Disk (StateM δ)) (path : String) (start d : δ) : Prop where
  spared (other : String) : Spares disk path other →
    contents disk other d = contents disk other start
  replaced : contents disk path d = contents disk path start ∨
    ∃ bytes, contents disk path d = .ok bytes

variable {disk : Disk (StateM δ)} {path : String} {fit : δ → Prop}

theorem Since.refl (start : δ) : Since disk path start start := ⟨fun _ _ => rfl, .inl rfl⟩

theorem Grants.since (grants : Grants disk path fit) (start : δ) :
    Grants disk path fun d => fit d ∧ Since disk path start d where
  toReplaces := grants.toReplaces
  writes bytes d isFit := by
    obtain ⟨isFit, since⟩ := isFit
    obtain ⟨ok, fitThen⟩ := grants.writes bytes d isFit
    refine ⟨ok, fitThen, fun other spares => ?_, ?_⟩
    · rw [spares.write_spares, since.spared other spares]
    · rw [grants.write_apart]
      exact since.replaced
  moves bytes d isFit held := by
    obtain ⟨isFit, since⟩ := isFit
    obtain ⟨ok, fitThen⟩ := grants.moves bytes d isFit held
    refine ⟨ok, fitThen, fun other spares => ?_, .inr ⟨bytes, ?_⟩⟩
    · rw [spares.move_spares, since.spared other spares]
    · rw [grants.moved d ok, held]

theorem Agrees.decode? {s : FileStore} {d : δ} (agrees : Agrees disk path s d)
    (replaces : Replaces disk path) {bytes : ByteArray} (held : contents disk path d = .ok bytes) :
    decode? bytes = some s.collections := by
  rw [agrees_iff replaces, held, ofContents] at agrees
  cases decoded : FileStore.decode? bytes with
  | none => simp [decoded] at agrees
  | some collections =>
    rw [decoded] at agrees
    cases agrees
    rfl

end FileStore

/-- On a disk with faults to come, all files but those two are left alone. -/
theorem FaultyDisk.spares {path other : String} (apart : other ≠ path)
    (apartToo : other ≠ temporary path) : Spares FaultyDisk.disk path other where
  read_keeps d := by
    simp only [disk, run_get_bind]
    cases d.file? other <;> rfl
  write_spares bytes d := by
    rw [write_run]
    split <;> simp [contents_eq, next, put, apartToo]
  move_spares d := by
    rw [rename_run]
    cases d.file? (temporary path) with
    | none => rfl
    | some bytes =>
      dsimp only
      split <;> simp [contents_eq, next, put, apart, apartToo]

section

variable {δ : Type} {disk : Disk (StateM δ)}

theorem read_run {path : String} (keeps : ∀ d, ((disk.read path).run d).2 = d) (d : δ) :
    (disk.read path).run d = (contents disk path d, d) := Prod.ext rfl (keeps d)

/-- What is read from a settings file is the same as long as it has the same contents. -/
theorem Settings.readFile_same (read? : SettingsFormat → String → Option Document) {path : String}
    (keeps : ∀ d, ((disk.read path).run d).2 = d) (askedFor : Bool) {d d' : δ}
    (same : contents disk path d' = contents disk path d) :
    (readFile read? disk path askedFor).run d' =
      (((readFile read? disk path askedFor).run d).1, d') := by
  simp only [readFile, run_bind_state, read_run keeps, same]
  rcases contents disk path d with fault | bytes
  · cases fault <;> rfl
  · rfl

theorem Settings.loadBy_same {read? : SettingsFormat → String → Option Document}
    {askedFor usual : Option String} {environment : List (String × String)} {d d' : δ}
    (keeps : ∀ source, (askedFor <|> usual) = some source → ∀ d, ((disk.read source).run d).2 = d)
    (same : ∀ source, (askedFor <|> usual) = some source →
      contents disk source d' = contents disk source d) :
    (loadBy read? disk askedFor usual environment).run d' =
      (((loadBy read? disk askedFor usual environment).run d).1, d') := by
  simp only [loadBy]
  cases chosen : (askedFor <|> usual) with
  | none => rfl
  | some source =>
    have later := readFile_same read? (keeps source chosen) askedFor.isSome (same source chosen)
    obtain ⟨said, first⟩ : ∃ said, (readFile read? disk source askedFor.isSome).run d = (said, d) :=
      ⟨_, readFile_same read? (keeps source chosen) askedFor.isSome rfl⟩
    rw [first] at later
    simp only [run_bind_state, first, later]
    cases said with
    | error error => rfl
    | ok documents =>
      dsimp only
      cases ofLayers (documents ++ [Environment.document variablePrefix environment]) <;> rfl

theorem fetchCatalog_same {path : String} (keeps : ∀ d, ((disk.read path).run d).2 = d) {d d' : δ}
    (same : contents disk path d' = contents disk path d) :
    (fetchCatalog disk path).run d' = (((fetchCatalog disk path).run d).1, d') := by
  simp only [fetchCatalog, run_bind_state, read_run keeps, same]
  rcases contents disk path d with fault | bytes
  · rfl
  · dsimp only
    cases decodeCatalog? bytes <;> rfl

end

namespace CommandLine

variable (pass : Pass) (catalog : List Item) {results : List (Except PassError Report)}

/-- A pass that meets no failure ends well unless a rule is invalid. -/
theorem exitOf_code (smooth : Pass.Smooth results) :
    (exitOf pass.rules (pass.events catalog results)).code = 0 ↔ pass.rules.diagnostics = [] := by
  rw [← smooth.isClean_iff pass]
  simp only [exitOf, pass.outcome?_events catalog smooth.subject]
  cases (pass.summarize results).isClean <;> simp

theorem reportLines_quiet {report : Report} (quiet : report.Quiet) : reportLines report = [] := by
  simp [reportLines, quiet.1, quiet.2]

/-- A pass that has nothing to tell of its collections prints its totals alone. -/
theorem exitOf_output (quiet : ∀ told ∈ results, ∃ report, told = .ok report ∧ report.Quiet) :
    (exitOf pass.rules (pass.events catalog results)).output =
      unlines [(pass.summarize results).text] := by
  have silent : (results.map Event.ofResult).flatMap eventLines = [] := by
    refine List.flatMap_eq_nil_iff.2 fun event mem => ?_
    obtain ⟨told, listed, rfl⟩ := List.mem_map.1 mem
    obtain ⟨report, rfl, still⟩ := quiet told listed
    exact reportLines_quiet still
  simp only [exitOf, Pass.events, List.flatMap_append, silent]
  rfl

end CommandLine

/-- Where the program runs, with settings and a catalog that do not change: their files are others
than the two of the store, and the disk is fit to keep the collections. -/
structure Surroundings (δ : Type) where
  disk : Disk (StateM δ)
  fit : δ → Prop
  /-- How settings files are read. -/
  read? : SettingsFormat → String → Option Document
  /-- The settings file that is asked for on the command line, if one is. -/
  settingsPath : Option String
  usualPath : Option String
  environment : List (String × String)
  settings : Settings
  catalog : List Item
  grants : Grants disk settings.host.collections fit
  settingsApart (source : String) : (settingsPath <|> usualPath) = some source →
    Spares disk settings.host.collections source
  catalogApart : Spares disk settings.host.collections settings.host.catalog

namespace Surroundings

variable {δ : Type} (place : Surroundings δ)

def path : String := place.settings.host.collections

def run (words : List String) : StateM δ CommandLine.Exit :=
  CommandLine.runBy place.read? place.disk place.usualPath place.environment words

/-- The files can be read, and the collections are these. -/
structure Holds (c : Collections) (d : δ) : Prop where
  fit : place.fit d
  settings : ((Settings.loadBy place.read? place.disk place.settingsPath place.usualPath
    place.environment).run d).1 = .ok place.settings
  catalog : ((fetchCatalog place.disk place.settings.host.catalog).run d).1 = .ok place.catalog
  collections : ((FileStore.load place.disk place.path).run d).1 = .ok ⟨place.path, c⟩

def pass (dryRun : Bool) : Pass := ⟨place.settings.rules.compile, place.settings.options dryRun⟩

variable {place} {c : Collections} {d : δ}

theorem Holds.agrees (holds : place.Holds c d) : Agrees place.disk place.path ⟨place.path, c⟩ d :=
  agrees_of_load place.grants.toReplaces holds.collections

theorem Holds.load (holds : place.Holds c d) :
    (Settings.loadBy place.read? place.disk place.settingsPath place.usualPath
      place.environment).run d = (.ok place.settings, d) := by
  rw [← holds.settings]
  exact Settings.loadBy_same (fun source chosen => (place.settingsApart source chosen).read_keeps)
    fun _ _ => rfl

theorem Holds.fetch (holds : place.Holds c d) :
    (fetchCatalog place.disk place.settings.host.catalog).run d = (.ok place.catalog, d) := by
  rw [← holds.catalog]
  exact fetchCatalog_same place.catalogApart.read_keeps rfl

/-- What a store does to its files changes neither the settings nor the catalog. -/
theorem Holds.since (holds : place.Holds c d) {after : Collections} {left : δ}
    (fit : place.fit left) (since : Since place.disk place.path d left)
    (agrees : Agrees place.disk place.path ⟨place.path, after⟩ left) :
    place.Holds after left where
  fit := fit
  settings := by
    rw [Settings.loadBy_same (fun source chosen => (place.settingsApart source chosen).read_keeps)
      fun source chosen => since.spared source (place.settingsApart source chosen)]
    exact holds.settings
  catalog := by
    rw [fetchCatalog_same place.catalogApart.read_keeps (since.spared _ place.catalogApart)]
    exact holds.catalog
  collections := congrArg Prod.fst agrees

theorem Holds.run_eq (holds : place.Holds c d) {words : List String} {command : CommandLine.Command}
    (asks : CommandLine.read words = .run place.settingsPath command) :
    (place.run words).run d =
      (CommandLine.runCommand place.disk place.settings command).run d := by
  simp only [run, CommandLine.runBy, asks, run_bind_state, holds.load]

theorem Holds.runPass_eq (holds : place.Holds c d) (dryRun : Bool) :
    (CommandLine.runPass place.disk place.settings dryRun).run d =
      let ran := (((place.pass dryRun).run (pure (.ok place.catalog)) (store place.disk) []).run
        ⟨place.path, c⟩).run d
      (CommandLine.exitOf place.settings.rules.compile ran.1.1, ran.2) := by
  have opened : (FileStore.load place.disk place.settings.host.collections).run d =
      (.ok ⟨place.path, c⟩, d) := holds.agrees
  simp only [CommandLine.runPass, run_bind_state, opened]
  rw [Pass.run_lift _ _ holds.fetch]
  rfl

/-- A dry run leaves the disk as it is, and meets no failure. -/
theorem Holds.dry (holds : place.Holds c d) {dryRun : Bool}
    (dry : (place.pass dryRun).options.dryRun = true) :
    let ran := (CommandLine.runPass place.disk place.settings dryRun).run d
    ran.2 = d ∧ (ran.1.code = 0 ↔ place.settings.rules.compile.diagnostics = []) := by
  obtain ⟨results, ran, perm⟩ := (place.pass dryRun).run_file_dry dry place.catalog [] place.disk
    ⟨place.path, c⟩ d
  have smooth : Pass.Smooth results := by
    intro told mem
    obtain ⟨name, _, rfl⟩ := List.mem_map.1 (perm.subset mem)
    exact ⟨_, rfl, rfl⟩
  rw [holds.runPass_eq, ran]
  exact ⟨rfl, CommandLine.exitOf_code (place.pass dryRun) place.catalog smooth⟩

/-- A real pass leaves the collections as it should. It does not touch the disk unless one of them
changes, and then it leaves a file that stands for them. -/
theorem Holds.real (holds : place.Holds c d) (real : place.settings.sync.dryRun = false) :
    let ran := (CommandLine.runPass place.disk place.settings false).run d
    (ran.1.code = 0 ↔ place.settings.rules.compile.diagnostics = []) ∧
      ∃ after, place.Holds after ran.2 ∧
        (∀ name, after.get? name = (place.pass false).goal place.catalog c name) ∧
        (after = c → ran.2 = d) ∧
        (after ≠ c → ∃ bytes, contents place.disk place.path ran.2 = .ok bytes ∧
          decode? bytes = some after) := by
  have realPass : (place.pass false).options.dryRun = false := real
  have grants : Grants place.disk place.path place.fit := place.grants
  obtain ⟨results, s, left, ran, smooth, reached, ⟨fit, since⟩, agrees⟩ :=
    Pass.run_file realPass place.catalog [] (grants.since d) ⟨holds.fit, .refl d⟩ holds.agrees
  obtain ⟨path, after⟩ := s
  obtain rfl : path = place.path := agrees.atPath grants.toReplaces
  rw [holds.runPass_eq, ran]
  refine ⟨CommandLine.exitOf_code (place.pass false) place.catalog smooth, after,
    holds.since fit since agrees, reached, ?_, ?_⟩
  · rintro rfl
    obtain ⟨_, still⟩ := Pass.run_file_at_rest realPass place.disk ⟨place.path, after⟩
      (fun name => (reached name).symm) [] d
    exact congrArg Prod.snd (ran.symm.trans still)
  · intro changed
    rcases since.replaced with same | ⟨bytes, held⟩
    · have opened := holds.agrees.same grants.toReplaces same
      have both := Except.ok.inj (congrArg Prod.fst (opened.symm.trans agrees))
      cases both
      exact absurd rfl changed
    · exact ⟨bytes, held, agrees.decode? grants.toReplaces held⟩

theorem Holds.rehearsal (holds : place.Holds c d) (real : place.settings.sync.dryRun = false)
    (rest : ∀ name, (place.pass false).goal place.catalog c name = c.get? name) :
    let ran := (CommandLine.runPass place.disk place.settings true).run d
    let rules := place.settings.rules.compile
    ran.2 = d ∧ ran.1.output = CommandLine.unlines
      [Summary.text { Summary.start true rules.diagnostics.length with
        unchanged := rules.collections.size }] := by
  have realPass : (place.pass false).options.dryRun = false := real
  obtain ⟨results, ran, quiet, size⟩ :=
    Pass.rehearsal_at_rest realPass place.disk ⟨place.path, c⟩ rest [] d
  have dry : place.pass true = (place.pass false).rehearsal := rfl
  rw [holds.runPass_eq, dry, ran]
  refine ⟨rfl, ?_⟩
  have told := CommandLine.exitOf_output (place.pass false).rehearsal place.catalog quiet
  have total : (place.pass false).rehearsal.summarize results = _ :=
    Pass.summarize_quiet quiet size
  rw [total] at told
  exact told

/-- What a run does, as long as the disk does what it is asked to. All commands but a real sync
leave the disk as it is. Both kinds of sync end well unless a rule is invalid. A real sync gives
every collection that a rule names the items that its rules select; one that should have none is
empty, or missing if it was missing or is to be deleted. All others stay. The disk is touched only
if a collection changes, and the file then stands for the collections. A plan after it has nothing
to tell but its totals. -/
theorem run_effects (holds : place.Holds c d) {words : List String} {command : CommandLine.Command}
    (asks : CommandLine.read words = .run place.settingsPath command) :
    let ran := (place.run words).run d
    let rules := place.settings.rules.compile
    (command ≠ .sync false ∨ place.settings.sync.dryRun = true → ran.2 = d) ∧
    (∀ dryRun, command = .sync dryRun → (ran.1.code = 0 ↔ rules.diagnostics = [])) ∧
    (command = .sync false → place.settings.sync.dryRun = false →
      ∃ after, place.Holds after ran.2 ∧
        (∀ rule ∈ rules.rules,
          let desired := desiredMembers (rules.rulesFor rule.collection) place.catalog
          after.get? rule.collection =
            if desired = .empty then
              if place.settings.sync.removeEmpty then none
              else (c.get? rule.collection).map fun _ => .empty
            else some desired) ∧
        (∀ name, (∀ rule ∈ rules.rules, rule.collection ≠ name) → after.get? name = c.get? name) ∧
        (after = c → ran.2 = d) ∧
        (after ≠ c → ∃ bytes, contents place.disk place.path ran.2 = .ok bytes ∧
          decode? bytes = some after) ∧
        ∀ further, CommandLine.read further = .run place.settingsPath .plan →
          let planned := (place.run further).run ran.2
          planned.2 = ran.2 ∧ planned.1.output = CommandLine.unlines
            [Summary.text { Summary.start true rules.diagnostics.length with
              unchanged := rules.collections.size }]) := by
  intro ran rules
  have came : ran = (CommandLine.runCommand place.disk place.settings command).run d :=
    holds.run_eq asks
  cases command with
  | check =>
    rw [came]
    exact ⟨fun _ => rfl, nofun, nofun⟩
  | plan =>
    rw [came]
    exact ⟨fun _ => (holds.dry rfl).1, nofun, nofun⟩
  | sync dryRun =>
    by_cases dry : (place.pass dryRun).options.dryRun = true
    · obtain ⟨still, code⟩ := holds.dry dry
      rw [came]
      refine ⟨fun _ => still, fun _ _ => code, ?_⟩
      rintro ⟨⟩ real
      rw [← Bool.not_eq_true] at real
      exact absurd dry real
    · obtain ⟨rfl, real⟩ := Bool.or_eq_false_iff.1 (Bool.eq_false_iff.2 dry)
      obtain ⟨code, after, holdsAfter, reached, untouched, written⟩ := holds.real real
      rw [came]
      refine ⟨fun dry => ?_, fun _ _ => code, fun _ _ => ⟨after, holdsAfter, ?_, ?_, untouched,
        written, ?_⟩⟩
      · rw [real] at dry
        rcases dry with other | dry
        · exact absurd rfl other
        · cases dry
      · intro rule mem
        exact (reached rule.collection).trans (Pass.goal_of_rule mem c)
      · intro name unnamed
        exact (reached name).trans (Pass.goal_of_unnamed unnamed c)
      · intro further asksPlan planned
        have next : planned = _ := holdsAfter.run_eq asksPlan
        rw [next]
        exact holdsAfter.rehearsal real (Pass.at_rest_of_reached reached)

end Surroundings

/-- A disk without faults to come, with settings in one file and the store in others. -/
def FaultyDisk.surroundings (settingsPath : String) (settings : Settings) (catalog : List Item)
    {name : String} (named : Path.name? settings.host.collections = some name)
    (apart : ∀ other ∈ [settingsPath, settings.host.catalog],
      other ≠ settings.host.collections ∧ other ≠ temporary settings.host.collections) :
    Surroundings FaultyDisk where
  disk := disk
  fit d := d.faults = []
  read? := SettingsFormat.read?
  settingsPath := some settingsPath
  usualPath := none
  environment := []
  settings := settings
  catalog := catalog
  grants := grants named
  settingsApart source chosen := by
    cases chosen
    exact spares (apart settingsPath (by simp)).1 (apart settingsPath (by simp)).2
  catalogApart :=
    spares (apart settings.host.catalog (by simp)).1 (apart settings.host.catalog (by simp)).2

namespace Surroundings

/-- One collection comes into being, one is deleted, and one is left alone; a plan has nothing to
add to that. -/
theorem run_effects_sync_then_plan :
    let text := "\x7b\"title_rules\": [[\"heat\", \"Crime\"], [\"Alien\", \"Horror\"]], " ++
      "\"sync\": [false, true, 1]\x7d"
    let settings : Settings := ⟨⟨[⟨"heat", "Crime", false⟩, ⟨"Alien", "Horror", false⟩], []⟩,
      ⟨false, true, 1⟩, ⟨"catalog.json", "collections.json"⟩⟩
    let c : Collections := .ofList [("Horror", .ofList ["B"]), ("Mine", .ofList ["C"])]
    let files := [("config.json", text), ("catalog.json", "[[\"A\", \"Heat\"]]"),
      ("collections.json", c.toText)]
    let d : FaultyDisk := ⟨fun path => (files.lookup path).map String.toUTF8, []⟩
    ∃ place : Surroundings FaultyDisk, place.settings = settings ∧ place.Holds c d ∧
      CommandLine.read ["sync", "--config", "config.json"] =
        .run place.settingsPath (.sync false) ∧
      let ran := (place.run ["sync", "--config", "config.json"]).run d
      ran.1.code = 0 ∧
        ((place.run ["-cconfig.json", "plan"]).run ran.2).1.output =
          "[dry run] 0 collections updated (2 unchanged, 0 failed), 0 items added, " ++
            "0 removed, 0 rules with errors\n" ∧
        ∃ after, place.Holds after ran.2 ∧ after.get? "Crime" = some (.ofList ["A"]) ∧
          after.get? "Horror" = none ∧ after.get? "Mine" = some (.ofList ["C"]) := by
  intro text settings c files d
  let place : Surroundings FaultyDisk :=
    FaultyDisk.surroundings "config.json" settings [.titled "A" "Heat"]
      (by decide +kernel : Path.name? settings.host.collections = some "collections.json")
      (by decide +kernel)
  have loads : ((Settings.load FaultyDisk.disk (some "config.json") none []).run d).1 =
      .ok settings := by decide +kernel
  have fetches : ((fetchCatalog FaultyDisk.disk "catalog.json").run d).1 =
      .ok [.titled "A" "Heat"] := by decide +kernel
  have opens : Agrees place.disk place.path ⟨place.path, c⟩ d :=
    agrees_of_text place.grants.toReplaces rfl
  have holds : place.Holds c d := ⟨rfl, loads, fetches, congrArg Prod.fst opens⟩
  have asks : CommandLine.read ["sync", "--config", "config.json"] =
      .run place.settingsPath (.sync false) := by decide +kernel
  obtain ⟨_, code, effects⟩ := run_effects holds asks
  obtain ⟨after, holdsAfter, named, others, _, _, planned⟩ := effects rfl rfl
  have crime : ⟨.title 0, "Crime", some (.contains .title "heat"), false⟩ ∈
      place.settings.rules.compile.rules := by decide +kernel
  have horror : ⟨.title 1, "Horror", some (.contains .title "Alien"), false⟩ ∈
      place.settings.rules.compile.rules := by decide +kernel
  refine ⟨place, rfl, holds, asks, (code false rfl).2 (by decide +kernel),
    (planned ["-cconfig.json", "plan"] (by decide +kernel)).2.trans (by decide +kernel),
    after, holdsAfter, (named _ crime).trans (by decide +kernel),
    (named _ horror).trans (by decide +kernel),
    (others "Mine" (by decide +kernel)).trans (by decide +kernel)⟩

end Surroundings

end SmartCollections
