import SmartCollections.Proofs.Parsing
import SmartCollections.Proofs.StringSet
import SmartCollections.Rule.Compilation

/-!
# What comes of a configured rule

Rules are compiled one by one. Of each comes a rule that selects items, or an idle rule and a report
on it, or the report alone; which of these depends on nothing but the rule itself. What is compiled
and what is reported stay in the order in which the rules are configured.
-/

namespace SmartCollections

namespace RuleSet

def at? (rules : RuleSet) : RuleOrigin → Option (TitleRule ⊕ ExpressionRule)
  | .title index => rules.titleRules[index]?.map .inl
  | .expression index => rules.expressionRules[index]?.map .inr

def candidate? (rules : RuleSet) : RuleOrigin → Option Candidate
  | .title index => rules.titleRules[index]?.map (·.candidate index)
  | .expression index => rules.expressionRules[index]?.map (·.candidate index)

theorem candidate?_congr {rules others : RuleSet} {origin : RuleOrigin}
    (same : others.at? origin = rules.at? origin) :
    others.candidate? origin = rules.candidate? origin := by
  cases origin with
  | title index =>
    have configured : others.titleRules[index]? = rules.titleRules[index]? :=
      Option.map_injective (fun _ _ => Sum.inl.inj) same
    rw [candidate?, candidate?, configured]
  | expression index =>
    have configured : others.expressionRules[index]? = rules.expressionRules[index]? :=
      Option.map_injective (fun _ _ => Sum.inr.inj) same
    rw [candidate?, candidate?, configured]

/-- The places at which rules are configured, title rules first. -/
def origins (rules : RuleSet) : List RuleOrigin :=
  (List.range rules.titleRules.length).map .title ++
    (List.range rules.expressionRules.length).map .expression

end RuleSet

theorem filter_mapIdx_nil {α β : Type} {p : β → Bool} (items : List α) (number : Nat → α → β)
    (passes : ∀ index item, p (number index item) = false) :
    (items.mapIdx number).filter p = [] := by
  refine List.filter_eq_nil_iff.2 fun later mem => ?_
  obtain ⟨index, _, rfl⟩ := List.mem_mapIdx.1 mem
  simp [passes]

/-- Of a list that was numbered, a condition on the number picks what stands at that place. -/
theorem filter_mapIdx {α β : Type} {p : β → Bool} (place : Nat) (items : List α)
    (number : Nat → α → β) (picks : ∀ index item, p (number index item) = (index == place)) :
    (items.mapIdx number).filter p = (items[place]?.map (number place)).toList := by
  induction items generalizing number place with
  | nil => rfl
  | cons item items ih =>
    rw [List.mapIdx_cons]
    cases place with
    | zero =>
      have first : p (number 0 item) = true := picks 0 item
      rw [List.filter_cons_of_pos first,
        filter_mapIdx_nil items _ fun index item => by simp [picks]]
      rfl
    | succ place =>
      rw [List.filter_cons_of_neg (by simp [picks])]
      exact ih place (fun index => number (index + 1)) fun index item => by simp [picks]

namespace RuleSet

/-- There is one candidate for each place. -/
theorem filter_candidates (rules : RuleSet) (origin : RuleOrigin) :
    rules.candidates.filter (·.origin = origin) = (rules.candidate? origin).toList := by
  rw [candidates, List.filter_append]
  cases origin with
  | title place =>
    rw [filter_mapIdx place rules.titleRules, filter_mapIdx_nil rules.expressionRules,
      List.append_nil]
    · rfl
    · intro index rule
      simp [ExpressionRule.candidate]
    · intro index rule
      simp [TitleRule.candidate, Bool.beq_eq_decide_eq]
  | expression place =>
    rw [filter_mapIdx_nil rules.titleRules, filter_mapIdx place rules.expressionRules,
      List.nil_append]
    · rfl
    · intro index rule
      simp [ExpressionRule.candidate, Bool.beq_eq_decide_eq]
    · intro index rule
      simp [TitleRule.candidate]

theorem map_origin_candidates (rules : RuleSet) :
    rules.candidates.map Candidate.origin = rules.origins := by
  have numbered {α : Type} (items : List α) (number : Nat → α → Candidate)
      (place : Nat → RuleOrigin) (keeps : ∀ index item, (number index item).origin = place index) :
      (items.mapIdx number).map Candidate.origin = (List.range items.length).map place :=
    List.ext_getElem (by simp) fun index _ _ => by simp [keeps]
  rw [candidates, origins, List.map_append, numbered rules.titleRules _ .title fun _ _ => rfl,
    numbered rules.expressionRules _ .expression fun _ _ => rfl]

end RuleSet

namespace Candidate

variable {rule : Candidate} {compiled : CompiledRule} {diagnostic : RuleDiagnostic}

theorem compiled?_origin (kept : rule.compiled? = some compiled) :
    compiled.origin = rule.origin := by
  unfold compiled? at kept
  split at kept
  · cases kept
  · split at kept <;> cases kept <;> rfl

theorem diagnostic?_origin (told : rule.diagnostic? = some diagnostic) :
    diagnostic.origin = rule.origin := by
  unfold diagnostic? at told
  split at told <;> cases told
  rfl

theorem diagnostic?_of_predicate (kept : rule.compiled? = some compiled)
    (selects : compiled.predicate.isSome = true) : rule.diagnostic? = none := by
  unfold compiled? at kept
  split at kept
  · cases kept
  · next named =>
    split at kept
    · next meaning =>
      simp [diagnostic?, faults, named, meaning]
    · cases kept
      cases selects

end Candidate

/-- What can come of the rule at a place, by its collection, its text and its flag, if the text
stands for a predicate or for none: what is compiled of it, and what is reported. -/
inductive Fate (origin : RuleOrigin) (collection source : String) (caseSensitive : Bool) :
    Option Predicate → List CompiledRule × List RuleDiagnostic → Prop where
  | valid (predicate : Predicate) (named : Text.allBlank collection = false) :
      Fate origin collection source caseSensitive (some predicate)
        ([⟨origin, collection, some predicate, caseSensitive⟩], [])
  /-- The rule takes part, but selects nothing. -/
  | inert (idle : CompiledRule) (message : String) (messages : List String)
      (named : Text.allBlank collection = false)
      (same : idle.origin = origin ∧ idle.collection = collection)
      (still : ∀ item, idle.selects item = false) :
      Fate origin collection source caseSensitive none
        ([idle], [⟨origin, collection, source, message :: messages⟩])
  /-- The rule has no collection to take part in. -/
  | nameless (predicate? : Option Predicate) (message : String) (messages : List String)
      (blank : Text.allBlank collection = true) :
      Fate origin collection source caseSensitive predicate?
        ([], [⟨origin, collection, source, message :: messages⟩])

/-- A rule of which something is known to be wrong whenever it has no predicate comes to one of the
three ends. -/
theorem Candidate.fate (rule : Candidate)
    (justified : ∀ faults, rule.meaning = .error faults → faults ≠ []) :
    Fate rule.origin rule.collection rule.source rule.caseSensitive rule.meaning.toOption
      (rule.compiled?.toList, rule.diagnostic?.toList) := by
  cases blank : Text.allBlank rule.collection with
  | true =>
    have first : rule.faults = .blankCollection :: rule.faults.tail := by simp [faults, blank]
    rw [compiled?, if_pos blank, diagnostic?, first, if_neg (by simp)]
    exact .nameless _ _ _ blank
  | false =>
    cases meaning : rule.meaning with
    | ok predicate =>
      have none : rule.faults = [] := by simp [faults, blank, meaning]
      rw [compiled?, if_neg (by simp [blank]), meaning, diagnostic?, none]
      exact .valid predicate blank
    | error faults =>
      obtain ⟨fault, more, rfl⟩ := List.exists_cons_of_ne_nil (justified faults meaning)
      have all : rule.faults = fault :: more := by simp [Candidate.faults, blank, meaning]
      rw [compiled?, if_neg (by simp [blank]), meaning, diagnostic?, all, if_neg (by simp)]
      exact .inert _ _ _ blank ⟨rfl, rfl⟩ fun _ => rfl

theorem TitleRule.candidate_fate (rule : TitleRule) (index : Nat) :
    Fate (.title index) rule.collection rule.pattern rule.caseSensitive
      (if rule.pattern = "" then none else some (.contains .title rule.pattern))
      ((rule.candidate index).compiled?.toList, (rule.candidate index).diagnostic?.toList) := by
  have meaning : (rule.candidate index).meaning = if rule.pattern = "" then .error [.emptyPattern]
      else .ok (.contains .title rule.pattern) := by
    simp [candidate, String.isEmpty_iff]
  by_cases empty : rule.pattern = ""
  · rw [if_pos empty] at meaning ⊢
    have ends := (rule.candidate index).fate fun faults failed => by
      cases meaning.symm.trans failed
      exact List.cons_ne_nil _ _
    rwa [meaning] at ends
  · rw [if_neg empty] at meaning ⊢
    have ends := (rule.candidate index).fate fun faults failed => by
      cases meaning.symm.trans failed
    rwa [meaning] at ends

theorem ExpressionRule.candidate_fate (rule : ExpressionRule) (index : Nat) :
    Fate (.expression index) rule.collection rule.expression rule.caseSensitive
      (Predicate.parse rule.expression).toOption
      ((rule.candidate index).compiled?.toList, (rule.candidate index).diagnostic?.toList) := by
  cases parsed : Predicate.parse rule.expression with
  | ok predicate =>
    have meaning : (rule.candidate index).meaning = .ok predicate := by simp [candidate, parsed]
    have ends := (rule.candidate index).fate fun faults failed => by
      cases meaning.symm.trans failed
    rwa [meaning] at ends
  | error errors =>
    have meaning : (rule.candidate index).meaning = .error (errors.map .badExpression) := by
      simp [candidate, parsed]
    have ends := (rule.candidate index).fate fun faults failed => by
      cases meaning.symm.trans failed
      simpa using Predicate.parse_error_ne_nil parsed
    rwa [meaning] at ends

namespace CompiledRules

/-- What was compiled of the rule at a place, and what was reported on it. -/
def comesOf (compiled : CompiledRules) (origin : RuleOrigin) :
    List CompiledRule × List RuleDiagnostic :=
  (compiled.rules.filter (·.origin = origin), compiled.diagnostics.filter (·.origin = origin))

/-- A collection has a group exactly if a rule names it, and all such rules are in it, in order. -/
theorem mem_groups_iff {compiled : CompiledRules} {name : String} {group : List CompiledRule} :
    (name, group) ∈ compiled.groups ↔
      group ≠ [] ∧ group = compiled.rules.filter (·.collection = name) := by
  have named : name ∈ compiled.collections ↔
      compiled.rules.filter (·.collection = name) ≠ [] := by
    rw [collections, StringSet.mem_ofList, List.mem_map, Ne, List.filter_eq_nil_iff]
    simp
  have same : compiled.rulesFor name = compiled.rules.filter (·.collection = name) := by
    simp [rulesFor, Bool.beq_eq_decide_eq]
  rw [groups, List.mem_map]
  constructor
  · rintro ⟨other, member, pair⟩
    obtain ⟨rfl, rfl⟩ := Prod.mk.inj pair
    rw [same]
    exact ⟨named.1 member, rfl⟩
  · rintro ⟨some, rfl⟩
    exact ⟨name, named.2 some, by rw [same]⟩

theorem groups_ascending (compiled : CompiledRules) :
    (compiled.groups.map Prod.fst).Pairwise (· < ·) := by
  have names : compiled.groups.map Prod.fst = compiled.collections.toList := by
    simp [groups, Function.comp_def]
  rw [names]
  exact compiled.collections.ascending

end CompiledRules

section

variable {α β κ : Type} {key : α → κ} {madeKey : β → κ} {make : α → Option β}

/-- What is made of each item goes by the item's own key. -/
theorem filter_filterMap_key [DecidableEq κ]
    (keeps : ∀ {a b}, make a = some b → madeKey b = key a) (items : List α) (k : κ) :
    (items.filterMap make).filter (madeKey · = k) =
      (items.filter (key · = k)).filterMap make := by
  rw [List.filter_filterMap, List.filterMap_filter]
  congr 1
  funext item
  cases made : make item with
  | none => simp
  | some value => simp [Option.filter, keeps made]

/-- What is made of some items is in their order. -/
theorem map_filterMap_sublist (keeps : ∀ {a b}, make a = some b → madeKey b = key a)
    (items : List α) : ((items.filterMap make).map madeKey).Sublist (items.map key) := by
  induction items with
  | nil => exact .slnil
  | cons item items ih =>
    rw [List.map_cons]
    cases made : make item with
    | none =>
      rw [List.filterMap_cons_none made]
      exact ih.cons _
    | some value =>
      rw [List.filterMap_cons_some made, List.map_cons, keeps made]
      exact ih.cons_cons _

theorem filterMap_toList (item : Option α) :
    item.toList.filterMap make = (item.bind make).toList := by
  cases item with
  | none => rfl
  | some item => cases made : make item <;> simp [made]

end

namespace RuleSet

/-- What comes of a rule is told by the rule alone. -/
theorem compile_comesOf (rules : RuleSet) (origin : RuleOrigin) :
    rules.compile.comesOf origin =
      (((rules.candidate? origin).bind Candidate.compiled?).toList,
        ((rules.candidate? origin).bind Candidate.diagnostic?).toList) := by
  rw [← filterMap_toList, ← filterMap_toList, ← filter_candidates,
    ← filter_filterMap_key Candidate.compiled?_origin,
    ← filter_filterMap_key Candidate.diagnostic?_origin]
  rfl

theorem fate (rules : RuleSet) {origin : RuleOrigin} {rule : Candidate}
    (found : rules.candidate? origin = some rule) :
    ∃ predicate?, Fate origin rule.collection rule.source rule.caseSensitive predicate?
      (rules.compile.comesOf origin) := by
  rw [compile_comesOf, found]
  cases origin with
  | title index =>
    obtain ⟨configured, _, rfl⟩ := Option.map_eq_some_iff.1 found
    exact ⟨_, configured.candidate_fate index⟩
  | expression index =>
    obtain ⟨configured, _, rfl⟩ := Option.map_eq_some_iff.1 found
    exact ⟨_, configured.candidate_fate index⟩

/-- Nothing is reported on a rule that selects items. -/
theorem compile_apart (rules : RuleSet) {compiled : CompiledRule}
    (kept : compiled ∈ rules.compile.rules) (selects : compiled.predicate.isSome = true)
    {diagnostic : RuleDiagnostic} (told : diagnostic ∈ rules.compile.diagnostics) :
    diagnostic.origin ≠ compiled.origin := by
  intro same
  have first : compiled ∈ (rules.compile.comesOf compiled.origin).1 :=
    List.mem_filter.2 ⟨kept, by simp⟩
  have second : diagnostic ∈ (rules.compile.comesOf compiled.origin).2 :=
    List.mem_filter.2 ⟨told, by simp [same]⟩
  rw [compile_comesOf] at first second
  obtain ⟨rule, found, keptHere⟩ := Option.bind_eq_some_iff.1 (Option.mem_toList.1 first)
  obtain ⟨_, foundToo, toldHere⟩ := Option.bind_eq_some_iff.1 (Option.mem_toList.1 second)
  cases found.symm.trans foundToo
  rw [Candidate.diagnostic?_of_predicate keptHere selects] at toldHere
  cases toldHere

/-- Of every rule comes what its own text and collection call for, whatever the other rules are.
What is compiled and what is reported keep to the order of the rules, each collection has the
compiled rules that name it, and no rule both selects items and is reported. -/
theorem compile_each (rules : RuleSet) :
    let compiled := rules.compile
    (∀ index rule, rules.titleRules[index]? = some rule →
      Fate (.title index) rule.collection rule.pattern rule.caseSensitive
        (if rule.pattern = "" then none else some (.contains .title rule.pattern))
        (compiled.comesOf (.title index))) ∧
    (∀ index rule, rules.expressionRules[index]? = some rule →
      Fate (.expression index) rule.collection rule.expression rule.caseSensitive
        (Predicate.parse rule.expression).toOption
        (compiled.comesOf (.expression index))) ∧
    (∀ (others : RuleSet) (origin : RuleOrigin), others.at? origin = rules.at? origin →
      others.compile.comesOf origin = compiled.comesOf origin) ∧
    (compiled.rules.map CompiledRule.origin).Sublist rules.origins ∧
    (compiled.diagnostics.map RuleDiagnostic.origin).Sublist rules.origins ∧
    (compiled.groups.map Prod.fst).Pairwise (· < ·) ∧
    (∀ name group, (name, group) ∈ compiled.groups ↔
      group ≠ [] ∧ group = compiled.rules.filter (·.collection = name)) ∧
    ∀ rule ∈ compiled.rules, rule.predicate.isSome = true →
      ∀ diagnostic ∈ compiled.diagnostics, diagnostic.origin ≠ rule.origin := by
  intro compiled
  refine ⟨?_, ?_, ?_, ?_, ?_, ?_, ?_, ?_⟩
  · intro index rule configured
    have found : rules.candidate? (.title index) = some (rule.candidate index) := by
      simp [candidate?, configured]
    rw [compile_comesOf, found]
    exact rule.candidate_fate index
  · intro index rule configured
    have found : rules.candidate? (.expression index) = some (rule.candidate index) := by
      simp [candidate?, configured]
    rw [compile_comesOf, found]
    exact rule.candidate_fate index
  · intro others origin same
    rw [compile_comesOf, compile_comesOf, candidate?_congr same]
  · rw [← map_origin_candidates]
    exact map_filterMap_sublist Candidate.compiled?_origin _
  · rw [← map_origin_candidates]
    exact map_filterMap_sublist Candidate.diagnostic?_origin _
  · exact compiled.groups_ascending
  · exact fun name group => CompiledRules.mem_groups_iff
  · exact fun rule kept selects diagnostic told => rules.compile_apart kept selects told

/-- A rule without a pattern and one without a collection stand between rules that they do not
touch. -/
theorem compile_each_of_four :
    let rules : RuleSet :=
      ⟨[⟨"Thing", "Horror", true⟩, ⟨"", "Horror", false⟩, ⟨"Heat", " ", true⟩],
        [⟨"Crime", "TITLE \"Heat\"", false⟩]⟩
    let others : RuleSet := ⟨[⟨"Alien", "Space", true⟩, ⟨"", "Horror", false⟩], []⟩
    let pattern : TitleRule := ⟨"", "Horror", false⟩
    let expression : ExpressionRule := ⟨"Crime", "TITLE \"Heat\"", false⟩
    let horror : CompiledRule := ⟨.title 0, "Horror", some (.contains .title "Thing"), true⟩
    let report : RuleDiagnostic := ⟨.title 1, "Horror", "", ["match value is empty"]⟩
    (rules.titleRules[1]? = some pattern ∧
      Fate (.title 1) "Horror" "" false none (rules.compile.comesOf (.title 1))) ∧
    (rules.expressionRules[0]? = some expression ∧
      Fate (.expression 0) "Crime" "TITLE \"Heat\"" false (some (.contains .title "Heat"))
        (rules.compile.comesOf (.expression 0))) ∧
    (others.at? (.title 1) = rules.at? (.title 1) ∧
      others.compile.comesOf (.title 1) = rules.compile.comesOf (.title 1)) ∧
    horror ∈ rules.compile.rules ∧ report ∈ rules.compile.diagnostics ∧
    report.origin ≠ horror.origin := by
  intro rules others pattern expression horror report
  obtain ⟨titles, expressions, alone, _, _, _, _, apart⟩ := compile_each rules
  have meant :
      (Predicate.parse expression.expression).toOption = some (.contains .title "Heat") := by
    decide +kernel
  have first := titles 1 pattern rfl
  have second := expressions 0 expression rfl
  rw [meant] at second
  have kept : horror ∈ rules.compile.rules := by decide +kernel
  have told : report ∈ rules.compile.diagnostics := by decide +kernel
  exact ⟨⟨rfl, first⟩, ⟨rfl, second⟩, ⟨rfl, alone others (.title 1) rfl⟩, kept, told,
    apart horror kept rfl report told⟩

end RuleSet

end SmartCollections
