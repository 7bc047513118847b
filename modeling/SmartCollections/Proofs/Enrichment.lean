import SmartCollections.Proofs.Accounts
import SmartCollections.Proofs.Difference

/-!
# Richer catalogs

Rules ask for what items have, and never for what they lack. An item that gains a studio, genres,
actors or directors is asked for by all rules that asked for it before. So a pass over a richer
catalog takes nothing out of the collections that a pass over the poorer one has filled.
-/

namespace SmartCollections

/-- The other item is the same one, with at least as much known of it. -/
structure Item.Enriched (item other : Item) : Prop where
  id : other.id = item.id
  title : other.title = item.title
  studio : item.studio = none ∨ other.studio = item.studio
  genres : ∀ name ∈ item.genres, name ∈ other.genres
  actors : ∀ name ∈ item.actors, name ∈ other.actors
  directors : ∀ name ∈ item.directors, name ∈ other.directors

namespace Item.Enriched

variable {item other : Item}

theorem values (enriched : item.Enriched other) (field : Field) :
    ∀ value ∈ field.values item, value ∈ field.values other := by
  cases field with
  | title => exact fun value mem => by rwa [Field.values, enriched.title]
  | studio =>
    intro value mem
    rcases enriched.studio with none | same
    · rw [Field.values, none] at mem
      cases mem
    · rwa [Field.values, same]
  | genre => exact enriched.genres
  | actor => exact enriched.actors
  | director => exact enriched.directors

/-- Predicates are made of conditions that are kept, and of nothing that turns them around. -/
theorem eval (enriched : item.Enriched other) {caseSensitive : Bool} {predicate : Predicate}
    (satisfied : predicate.eval caseSensitive item = true) :
    predicate.eval caseSensitive other = true := by
  induction predicate with
  | contains field text =>
    obtain ⟨value, mem, found⟩ := List.any_eq_true.1 satisfied
    exact List.any_eq_true.2 ⟨value, enriched.values field value mem, found⟩
  | and left right ihLeft ihRight =>
    obtain ⟨first, second⟩ := Bool.and_eq_true_iff.1 satisfied
    exact Bool.and_eq_true_iff.2 ⟨ihLeft first, ihRight second⟩
  | or left right ihLeft ihRight =>
    exact Bool.or_eq_true_iff.2 ((Bool.or_eq_true_iff.1 satisfied).imp ihLeft ihRight)

theorem selects (enriched : item.Enriched other) {rule : CompiledRule}
    (selected : rule.selects item = true) : rule.selects other = true := by
  unfold CompiledRule.selects at selected ⊢
  split at selected
  · exact enriched.eval selected
  · cases selected

theorem refl (item : Item) : item.Enriched item :=
  ⟨rfl, rfl, .inr rfl, fun _ mem => mem, fun _ mem => mem, fun _ mem => mem⟩

theorem trans {last : Item} (first : item.Enriched other) (second : other.Enriched last) :
    item.Enriched last where
  id := second.id.trans first.id
  title := second.title.trans first.title
  studio := by
    rcases first.studio with none | same
    · exact .inl none
    · rw [← same]
      exact second.studio
  genres name mem := second.genres name (first.genres name mem)
  actors name mem := second.actors name (first.actors name mem)
  directors name mem := second.directors name (first.directors name mem)

/-- Names are added to those that an item has. A studio is set, so there may be none before. -/
theorem builders (item : Item) (names : List String) :
    item.Enriched (item.withGenres names) ∧ item.Enriched (item.withActors names) ∧
      item.Enriched (item.withDirectors names) ∧
      (item.studio = none → ∀ studio, item.Enriched (item.withStudio studio)) := by
  have grown (set : StringSet) : ∀ name ∈ set, name ∈ set.insertAll names :=
    fun name mem => StringSet.mem_insertAll.2 (.inl mem)
  have kept := refl item
  refine ⟨?_, ?_, ?_, fun none studio => ?_⟩
  · exact { kept with genres := grown item.genres }
  · exact { kept with actors := grown item.actors }
  · exact { kept with directors := grown item.directors }
  · exact { kept with studio := .inl none }

end Item.Enriched

/-- Every item of the poorer catalog is in the richer one, with at least as much known of it. -/
def Richer (poorer richer : List Item) : Prop :=
  ∀ item ∈ poorer, ∃ other ∈ richer, item.Enriched other

theorem Richer.desired {poorer richer : List Item} (enriched : Richer poorer richer)
    (rules : List CompiledRule) {id : String} (wanted : id ∈ desiredMembers rules poorer) :
    id ∈ desiredMembers rules richer := by
  obtain ⟨item, mem, ⟨rule, listed, selected⟩, rfl⟩ := mem_desiredMembers.1 wanted
  obtain ⟨other, otherMem, same⟩ := enriched item mem
  exact mem_desiredMembers.2 ⟨other, otherMem, ⟨rule, listed, same.selects selected⟩, same.id⟩

/-- The store is honest, and a change that it did not make has changed nothing. -/
structure Store.Firm {σ : Type} (store : Store (StateM σ)) (holds : σ → String → Option StringSet) :
    Prop extends store.Honest holds where
  rejects (mutation : Mutation) (s : σ) (cause : HostError) :
    ((store.mutate mutation).run s).1 = .error cause →
      holds ((store.mutate mutation).run s).2 mutation.collection = holds s mutation.collection

theorem MemoryStore.firm : store.Firm fun s name => s.collections.get? name where
  toHonest := honest
  rejects mutation s cause failed := by
    rw [mutate_run] at failed ⊢
    split
    · rfl
    · next permitted =>
      rw [if_neg permitted] at failed
      cases effect : mutation.effect (s.collections.get? mutation.collection) with
      | error error => rfl
      | ok members =>
        rw [effect] at failed
        cases failed

/-- A change that could not be saved is taken back in memory. -/
theorem FileStore.firm {δ : Type} (disk : Disk (StateM δ)) :
    (store disk).packed.Firm fun s name => s.1.collections.get? name where
  toHonest := honest disk
  rejects mutation s cause failed := by
    obtain ⟨s, d⟩ := s
    change ((((store disk).mutate mutation).run s).run d).1.1 = .error cause at failed
    change (((((store disk).mutate mutation).run s).run d).1.2.collections.get? _) = _
    rcases mutate_either disk s mutation d with ⟨error, left⟩ | ⟨_, _, done⟩
    · rw [left]
    · rw [done] at failed
      cases failed

namespace Task

variable {α β : Type} {post : α → Option StringSet → Prop} {members : Option StringSet}

/-- Whatever a firm store refuses, the task ends with a result and with members of its collection
for which `post` holds. -/
def Secures (post : α → Option StringSet → Prop) : Task α → Option StringSet → Prop
  | done value, members => post value members
  | lookup _ next, members =>
    (next (.ok members)).Secures post members ∧ ∀ cause, (next (.error cause)).Secures post members
  | mutate mutation next, members =>
    (∀ left, mutation.effect members = .ok left → (next (.ok ())).Secures post left) ∧
      ∀ cause, (next (.error cause)).Secures post members

theorem Secures.bind {task : Task α} {next : α → Task β} {goal : β → Option StringSet → Prop}
    (first : task.Secures post members)
    (rest : ∀ value left, post value left → (next value).Secures goal left) :
    (task >>= next).Secures goal members := by
  change (task.bind next).Secures goal members
  induction task generalizing members with
  | done value => exact rest value members first
  | lookup name step ih => exact ⟨ih _ first.1, fun cause => ih _ (first.2 cause)⟩
  | mutate mutation step ih =>
    exact ⟨fun left made => ih _ (first.1 left made), fun cause => ih _ (first.2 cause)⟩

/-- A change is made, or all members are what they were. -/
theorem Secures.attempt (mutation : Mutation) (members : Option StringSet) :
    (attempt mutation).Secures
      (fun _ left => mutation.effect members = .ok left ∨ left = members) members :=
  ⟨fun _ made => .inl made, fun _ => .inr rfl⟩

theorem attemptEach_add_secures (name : String) (items : List String) {kept members : StringSet}
    (held : ∀ item ∈ kept, item ∈ members) :
    (attemptEach (.add name) items).Secures
      (fun _ left => ∃ later, left = some later ∧ ∀ item ∈ kept, item ∈ later)
      (some members) := by
  induction items generalizing members with
  | nil => exact ⟨members, rfl, held⟩
  | cons item items ih =>
    refine (Secures.attempt (.add name item) (some members)).bind fun outcome left either => ?_
    obtain ⟨present, rfl, still⟩ :
        ∃ present, left = some present ∧ ∀ item ∈ kept, item ∈ present := by
      rcases either with made | same
      · exact ⟨_, (Except.ok.inj made).symm,
          fun other mem => StringSet.mem_insert.2 (.inr (held other mem))⟩
      · exact ⟨members, same, held⟩
    refine (ih still).bind fun rest left later => ?_
    cases outcome with
    | ok _ => exact later
    | error cause => exact later

end Task

/-- What was in a collection is in it still, and nothing was to be removed from it. -/
structure Report.Spares (report : Report) (before left : Option StringSet) : Prop where
  held : ∀ item ∈ before.getD .empty, item ∈ left.getD .empty
  planned : report.plan.toRemove = .empty
  removed : report.removed = []

namespace Plan

theorem applyNew_secures {plan : Plan} (noRemove : plan.toRemove = .empty) :
    plan.applyNew.Secures (fun report left => report.Spares none left) none := by
  refine (Task.Secures.attempt _ none).bind fun outcome left _ => ?_
  cases outcome with
  | ok _ => exact ⟨nofun, noRemove, rfl⟩
  | error cause => exact ⟨nofun, noRemove, rfl⟩

/-- A plan without removals takes nothing away, if it deletes empty collections at most. -/
theorem applyChanges_secures {plan : Plan} {options : Options} {members : StringSet}
    (noRemove : plan.toRemove = .empty) (emptied : plan.empties = true → members = .empty) :
    (plan.applyChanges options).Secures (fun report left => report.Spares (some members) left)
      (some members) := by
  have adding := Task.attemptEach_add_secures plan.collection plan.toAdd.toList
    fun item (mem : item ∈ members) => mem
  have nothing : plan.toRemove.toList = [] := congrArg StringSet.toList noRemove
  rw [applyChanges, nothing]
  refine adding.bind fun outcome between held => ?_
  obtain ⟨later, rfl, held⟩ := held
  change Task.Secures _ (if _ then _ else _) _
  split
  · next deletes =>
    simp only [Bool.and_eq_true] at deletes
    obtain rfl := emptied deletes.1.2
    refine (Task.Secures.attempt _ _).bind fun outcome left _ => ?_
    have kept : ∀ item ∈ StringSet.empty, item ∈ left.getD .empty := fun item mem =>
      absurd mem (StringSet.not_mem_empty item)
    cases outcome with
    | ok _ => exact ⟨kept, noRemove, rfl⟩
    | error cause => exact ⟨kept, noRemove, rfl⟩
  · exact ⟨held, noRemove, rfl⟩

end Plan

/-- The plan for a collection that has nothing but desired members takes nothing away. -/
theorem reconcile_secures (name : String) (rules : List CompiledRule) (catalog : List Item)
    {members : Option StringSet} (options : Options)
    (wanted : ∀ item ∈ members.getD .empty, item ∈ desiredMembers rules catalog) :
    ((reconcile name rules catalog members).apply options).Secures
      (fun report left => report.Spares members left) members := by
  have noRemove : (reconcile name rules catalog members).toRemove = .empty := by
    refine StringSet.ext_mem fun item => ?_
    simp only [reconcile, StringSet.mem_sdiff, StringSet.not_mem_empty, iff_false,
      not_and_not_right]
    exact wanted item
  by_cases dry : options.dryRun = true
  · rw [Plan.apply, if_pos dry]
    exact ⟨fun _ mem => mem, noRemove, congrArg StringSet.toList noRemove⟩
  · have real : options.dryRun = false := Bool.eq_false_iff.2 dry
    cases members with
    | none =>
      obtain ⟨_, _, ⟨_, _, applies⟩ | ⟨_, _, applies⟩⟩ := reconcile_missing name rules catalog real
      · rw [applies]
        exact Plan.applyNew_secures noRemove
      · rw [applies]
        exact ⟨nofun, noRemove, rfl⟩
    | some members =>
      obtain ⟨_, _, empties_iff, applies⟩ :=
        reconcile_existing name rules catalog members real
      rw [applies]
      refine Plan.applyChanges_secures noRemove fun empties => StringSet.ext_mem fun item => ?_
      -- without a desired member there is no member
      rw [empties_iff.1 empties] at wanted
      exact ⟨wanted item, fun mem => absurd mem (StringSet.not_mem_empty item)⟩

namespace Pass

def Spares (before : Option StringSet) (result : Except PassError Report)
    (left : Option StringSet) : Prop :=
  (∀ item ∈ before.getD .empty, item ∈ left.getD .empty) ∧
    ∀ report, result = .ok report → report.Spares before left

theorem task_secures (pass : Pass) (catalog : List Item) (name : String)
    {members : Option StringSet}
    (wanted : ∀ item ∈ members.getD .empty,
      item ∈ desiredMembers (pass.rules.rulesFor name) catalog) :
    (pass.task catalog name).Secures (Spares members) members := by
  refine ⟨?_, fun cause => ⟨fun _ mem => mem, nofun⟩⟩
  refine (reconcile_secures name _ catalog pass.options wanted).bind fun report left spares => ?_
  refine ⟨spares.held, fun told same => ?_⟩
  cases same
  exact spares

end Pass

section

variable {σ α : Type} {store : Store (StateM σ)} {holds : σ → String → Option StringSet}

theorem Task.Secures.step (firm : store.Firm holds) {post : α → Option StringSet → Prop}
    {name : String} {s t : σ} {task rest : Task α}
    (answered : Answered store holds name s t task rest)
    (secures : task.Secures post (holds s name)) : rest.Secures post (holds t name) := by
  cases answered with
  | ended value same => exact same ▸ secures
  | told next same => exact same ▸ secures.1
  | withheld next cause same => exact same ▸ secures.2 cause
  | made mutation next effect apart => exact secures.1 _ effect
  | refused mutation next cause names call apart =>
    have unchanged := firm.rejects mutation s cause (congrArg Prod.fst call)
    rw [call, names] at unchanged
    rw [unchanged]
    exact secures.2 cause

theorem Store.Firm.interleaves (firm : store.Firm holds)
    (post : String → α → Option StringSet → Prop) :
    Interleaves store
      (fun s entry => entry.2.Concerns entry.1 ∧ entry.2.Secures (post entry.1) (holds s entry.1))
      fun _ _ => True where
  refl _ := trivial
  trans _ _ := trivial
  step := by
    rintro s name task ⟨concerns, secures⟩
    have answered := firm.answers concerns s
    refine ⟨trivial, ⟨answered.concerns concerns, secures.step firm answered⟩, ?_⟩
    rintro ⟨other, rest⟩ distinct ⟨otherConcerns, otherSecures⟩
    refine ⟨otherConcerns, ?_⟩
    rw [answered.elsewhere other distinct]
    exact otherSecures

end

namespace Pass

variable {σ : Type} {store : Store (StateM σ)} {holds : σ → String → Option StringSet}

/-- A pass takes nothing out of collections that have nothing but desired members. -/
theorem flight_spares (firm : store.Firm holds) (pass : Pass) (catalog : List Item)
    (turns : List Nat) (s : σ)
    (wanted : ∀ name ∈ pass.rules.collections, ∀ item ∈ (holds s name).getD .empty,
      item ∈ desiredMembers (pass.rules.rulesFor name) catalog) :
    let ran := ((Flight.start pass.options.concurrency (pass.tasks catalog)).run store turns).run s
    ∃ ended : List (String × Except PassError Report), ended.map Prod.snd = ran.1 ∧
      (ended.map Prod.fst).Perm pass.rules.collections.toList ∧
      ∀ entry ∈ ended, Spares (holds s entry.1) entry.2 (holds ran.2 entry.1) := by
  obtain ⟨_, ended, results, named, spared⟩ :=
    Flight.run_labelled (firm.interleaves fun name => Spares (holds s name))
      pass.rules.collections.nodup (pass.task catalog)
      (fun name member => ⟨pass.task_concerns catalog name,
        pass.task_secures catalog name (wanted name member)⟩)
      pass.options.concurrency turns
  exact ⟨ended, results, named, fun entry mem => (spared entry mem).2⟩

/-- After a pass without failures, every collection that a rule names has the members it should
have. -/
theorem run_fills (honest : store.Honest holds) {pass : Pass} (real : pass.options.dryRun = false)
    (catalog : List Item) (turns : List Nat) (s : σ) :
    let after := (pass.run (pure (.ok catalog)) store turns).run s
    ∀ reports summary, outcome? after.1 = some (.ok (reports, summary)) → summary.failed = [] →
      ∀ name ∈ pass.rules.collections,
        (holds after.2 name).getD .empty = desiredMembers (pass.rules.rulesFor name) catalog := by
  intro after reports summary told none name member
  obtain ⟨names, _, about⟩ := pass.results_told catalog store turns s
  have outcome : outcome? after.1 = _ := pass.outcome?_events catalog (isSome_of_told about)
  rw [outcome] at told
  cases told
  obtain ⟨result, mem, trusty⟩ := flight_trusty honest real catalog turns s name member
  obtain ⟨report, reported, clean⟩ := reported_of_none_failed about none result mem
  exact trusty report reported clean

/-- All rules ask for at least as much in a richer catalog. After a pass without failures, a pass
over a richer catalog has nothing to remove: every member of a collection of the rules stays a
member, whatever is refused this time. -/
theorem run_enriched (rules : RuleSet) {poorer richer : List Item}
    (enriched : Richer poorer richer) :
    (∀ name id, id ∈ desiredMembers (rules.compile.rulesFor name) poorer →
      id ∈ desiredMembers (rules.compile.rulesFor name) richer) ∧
    ∀ {σ : Type} (store : Store (StateM σ)) (holds : σ → String → Option StringSet),
      store.Firm holds →
    ∀ (options again : Options) (turns later : List Nat) (s : σ), options.dryRun = false →
      let first := ((⟨rules.compile, options⟩ : Pass).run (pure (.ok poorer)) store turns).run s
      (∃ reports summary, outcome? first.1 = some (.ok (reports, summary)) ∧
        summary.failed = []) →
      let second :=
        ((⟨rules.compile, again⟩ : Pass).run (pure (.ok richer)) store later).run first.2
      (∃ reports summary, outcome? second.1 = some (.ok (reports, summary)) ∧
        ∀ report ∈ reports, report.plan.toRemove = .empty ∧ report.removed = []) ∧
      ∀ name ∈ rules.compile.collections, ∀ members, holds first.2 name = some members →
        ∀ item ∈ members, item ∈ (holds second.2 name).getD .empty := by
  have grows : ∀ name id, id ∈ desiredMembers (rules.compile.rulesFor name) poorer →
      id ∈ desiredMembers (rules.compile.rulesFor name) richer :=
    fun name id => enriched.desired _
  refine ⟨grows, ?_⟩
  intro σ store holds firm options again turns later s real first smooth second
  obtain ⟨_, _, told, none⟩ := smooth
  have writes : (⟨rules.compile, options⟩ : Pass).options.dryRun = false := real
  have filled : ∀ name ∈ rules.compile.collections, (holds first.2 name).getD .empty =
      desiredMembers (rules.compile.rulesFor name) poorer :=
    run_fills firm.toHonest writes poorer turns s _ _ told none
  let pass : Pass := ⟨rules.compile, again⟩
  obtain ⟨ended, results, named, spared⟩ := pass.flight_spares firm richer later first.2
    fun name member item mem => grows name item (filled name member ▸ mem)
  obtain ⟨names, _, about⟩ := pass.results_told richer store later first.2
  have clear : ∀ report ∈ (ended.map Prod.snd).filterMap Except.toOption,
      report.plan.toRemove = .empty ∧ report.removed = [] := by
    intro report mem
    obtain ⟨entry, listed, told⟩ := List.mem_map.1 (mem_reports_iff.1 mem)
    have spares := (spared entry listed).2 report told
    exact ⟨spares.planned, spares.removed⟩
  rw [results] at clear
  refine ⟨⟨_, _, pass.outcome?_events richer (isSome_of_told about), clear⟩, ?_⟩
  intro name member members held item mem
  obtain ⟨entry, listed, rfl⟩ := List.mem_map.1 (named.symm.subset member)
  exact (spared entry listed).1 item (held ▸ mem)

/-- Both items become richer, and another one is found. It may not be added, and nothing is lost. -/
theorem run_enriched_refused_addition :
    let rules : RuleSet :=
      ⟨[⟨"Thing", "Watchlist", true⟩],
        [⟨"Watchlist", "GENRE \"horror\" OR STUDIO \"Blue\"", false⟩]⟩
    let alien := (Item.titled "B" "Alien").withGenres ["Horror"]
    let poorer : List Item := [.titled "A" "The Thing", alien]
    let richer : List Item :=
      [(Item.titled "C" "Up").withStudio "Blue", (alien.withGenres ["Space"]).withStudio "Red",
        (Item.titled "A" "The Thing").withDirectors ["Someone"]]
    let before : MemoryStore :=
      ⟨.ofList [("Watchlist", .ofList ["B", "D"])], [("Watchlist", some "C")], []⟩
    let first := ((⟨rules.compile, {}⟩ : Pass).run (pure (.ok poorer)) MemoryStore.store [0]).run
      before
    let second := ((⟨rules.compile, { removeEmpty := true }⟩ : Pass).run (pure (.ok richer))
      MemoryStore.store []).run first.2
    Richer poorer richer ∧ first.2.collections.get? "Watchlist" = some (.ofList ["A", "B"]) ∧
      (∃ reports summary, outcome? second.1 = some (.ok (reports, summary)) ∧
        summary.failed = ["Watchlist"] ∧ ∀ report ∈ reports, report.removed = []) ∧
      ∀ item ∈ StringSet.ofList ["A", "B"],
        item ∈ (second.2.collections.get? "Watchlist").getD .empty := by
  intro rules alien poorer richer before first second
  have enriched : Richer poorer richer := by
    intro item mem
    simp only [poorer, List.mem_cons, List.not_mem_nil, or_false] at mem
    rcases mem with rfl | rfl
    · refine ⟨_, .tail _ (.tail _ (.head _)), ?_⟩
      exact (Item.Enriched.builders _ _).2.2.1
    · refine ⟨_, .tail _ (.head _), ?_⟩
      exact (Item.Enriched.builders _ ["Space"]).1.trans
        ((Item.Enriched.builders _ []).2.2.2 rfl "Red")
  have total : ((outcome? first.1).bind Except.toOption).map Prod.snd =
      some ⟨false, 1, 0, [], 1, 1, 0, 0⟩ := by decide +kernel
  have totalAgain : ((outcome? second.1).bind Except.toOption).map Prod.snd =
      some ⟨false, 0, 1, ["Watchlist"], 0, 0, 1, 0⟩ := by decide +kernel
  have filled : first.2.collections.get? "Watchlist" = some (.ofList ["A", "B"]) := by
    decide +kernel
  have named : "Watchlist" ∈ rules.compile.collections := by decide +kernel
  have smooth : ∃ reports summary, outcome? first.1 = some (.ok (reports, summary)) ∧
      summary.failed = [] := by
    obtain ⟨pair, found, same⟩ := Option.map_eq_some_iff.1 total
    obtain ⟨outcome, told, ok⟩ := Option.bind_eq_some_iff.1 found
    cases outcome with
    | error cause => cases ok
    | ok value =>
      cases ok
      exact ⟨_, _, told, congrArg Summary.failed same⟩
  obtain ⟨⟨reports, summary, told, clear⟩, kept⟩ :=
    (run_enriched rules enriched).2 MemoryStore.store _ MemoryStore.firm {}
      { removeEmpty := true } [0] [] before rfl smooth
  rw [told] at totalAgain
  exact ⟨enriched, filled, ⟨reports, summary, told,
    congrArg Summary.failed (Option.some.inj totalAgain), fun report mem => (clear report mem).2⟩,
    kept "Watchlist" named _ filled⟩

end Pass

end SmartCollections
