import SmartCollections.Proofs.Compilation
import SmartCollections.Proofs.Difference

/-!
# What the rules of a collection ask for

A collection should have the items that some rule for it asks for. Each rule is judged by its own
text and its own setting, and a rule that is not valid asks for nothing. The order of rules and
items makes no difference, nor does it matter how often they are listed.
-/

namespace SmartCollections

namespace TitleRule

/-- The rule takes part in the selection. -/
def Valid (rule : TitleRule) : Prop := Text.allBlank rule.collection = false ∧ rule.pattern ≠ ""

/-- The rule is for the collection, and its pattern occurs in the title. -/
def Asks (rule : TitleRule) (name : String) (item : Item) : Prop :=
  rule.collection = name ∧ rule.pattern ≠ "" ∧
    valueContains rule.caseSensitive rule.pattern item.title = true

end TitleRule

namespace ExpressionRule

def Valid (rule : ExpressionRule) : Prop :=
  Text.allBlank rule.collection = false ∧ ∃ tree, Predicate.parse rule.expression = .ok tree

/-- The rule is for the collection, and the item satisfies its expression. -/
def Asks (rule : ExpressionRule) (name : String) (item : Item) : Prop :=
  rule.collection = name ∧ ∃ tree, Predicate.parse rule.expression = .ok tree ∧
    tree.eval rule.caseSensitive item = true

end ExpressionRule

namespace RuleSet

def Asks (rules : RuleSet) (name : String) (item : Item) : Prop :=
  (∃ rule ∈ rules.titleRules, rule.Asks name item) ∨
    ∃ rule ∈ rules.expressionRules, rule.Asks name item

/-- The same valid rules are in both. -/
structure Agrees (rules others : RuleSet) : Prop where
  titles : ∀ rule : TitleRule, rule.Valid →
    (rule ∈ rules.titleRules ↔ rule ∈ others.titleRules)
  expressions : ∀ rule : ExpressionRule, rule.Valid →
    (rule ∈ rules.expressionRules ↔ rule ∈ others.expressionRules)

variable {rules others : RuleSet} {name : String} {item : Item}

theorem Agrees.symm (agrees : rules.Agrees others) : others.Agrees rules where
  titles rule valid := (agrees.titles rule valid).symm
  expressions rule valid := (agrees.expressions rule valid).symm

/-- What is asked for a collection with a name is asked for by valid rules. -/
theorem Agrees.asks (agrees : rules.Agrees others) (named : Text.allBlank name = false)
    (asks : rules.Asks name item) : others.Asks name item := by
  rcases asks with ⟨rule, member, asks⟩ | ⟨rule, member, asks⟩
  · have valid : rule.Valid := ⟨asks.1 ▸ named, asks.2.1⟩
    exact .inl ⟨rule, (agrees.titles rule valid).1 member, asks⟩
  · obtain ⟨tree, parsed, _⟩ := asks.2
    have valid : rule.Valid := ⟨asks.1 ▸ named, tree, parsed⟩
    exact .inr ⟨rule, (agrees.expressions rule valid).1 member, asks⟩

end RuleSet

/-- What is compiled of a rule selects the items that satisfy the predicate it stands for. -/
theorem Candidate.compiled?_selects {rule : Candidate} {name : String} {item : Item} :
    (∃ compiled, rule.compiled? = some compiled ∧ compiled.collection = name ∧
      compiled.selects item = true) ↔
    Text.allBlank name = false ∧ rule.collection = name ∧
      ∃ tree, rule.meaning = .ok tree ∧ tree.eval rule.caseSensitive item = true := by
  constructor
  · rintro ⟨compiled, kept, rfl, selects⟩
    unfold compiled? at kept
    split at kept
    · cases kept
    · next named =>
      split at kept
      · next tree meaning =>
        cases kept
        exact ⟨Bool.eq_false_iff.2 named, rfl, tree, meaning, selects⟩
      · cases kept
        cases selects
  · rintro ⟨named, rfl, tree, meaning, satisfied⟩
    refine ⟨⟨rule.origin, rule.collection, some tree, rule.caseSensitive⟩, ?_, rfl, satisfied⟩
    rw [compiled?, if_neg (by simp [named]), meaning]

theorem TitleRule.asks_iff {rule : TitleRule} {index : Nat} {name : String} {item : Item} :
    rule.Asks name item ↔ (rule.candidate index).collection = name ∧
      ∃ tree, (rule.candidate index).meaning = .ok tree ∧
        tree.eval (rule.candidate index).caseSensitive item = true := by
  refine and_congr_right fun _ => ?_
  by_cases empty : rule.pattern = ""
  · simp [candidate, empty]
  · simp [candidate, empty, Predicate.eval, Field.contains, Field.values]

theorem ExpressionRule.asks_iff {rule : ExpressionRule} {index : Nat} {name : String}
    {item : Item} :
    rule.Asks name item ↔ (rule.candidate index).collection = name ∧
      ∃ tree, (rule.candidate index).meaning = .ok tree ∧
        tree.eval (rule.candidate index).caseSensitive item = true := by
  refine and_congr_right fun _ => exists_congr fun tree => and_congr_left fun _ => ?_
  cases parsed : Predicate.parse rule.expression <;> simp [candidate, parsed]

namespace RuleSet

theorem asks_iff {rules : RuleSet} {name : String} {item : Item} :
    rules.Asks name item ↔ ∃ rule ∈ rules.candidates, rule.collection = name ∧
      ∃ tree, rule.meaning = .ok tree ∧ tree.eval rule.caseSensitive item = true := by
  simp only [candidates, List.mem_append, List.mem_mapIdx, or_and_right, exists_or]
  refine or_congr ?_ ?_
  · constructor
    · rintro ⟨rule, member, asks⟩
      obtain ⟨index, bound, rfl⟩ := List.mem_iff_getElem.1 member
      exact ⟨_, ⟨index, bound, rfl⟩, TitleRule.asks_iff.1 asks⟩
    · rintro ⟨_, ⟨index, bound, rfl⟩, asks⟩
      exact ⟨_, List.getElem_mem bound, TitleRule.asks_iff.2 asks⟩
  · constructor
    · rintro ⟨rule, member, asks⟩
      obtain ⟨index, bound, rfl⟩ := List.mem_iff_getElem.1 member
      exact ⟨_, ⟨index, bound, rfl⟩, ExpressionRule.asks_iff.1 asks⟩
    · rintro ⟨_, ⟨index, bound, rfl⟩, asks⟩
      exact ⟨_, List.getElem_mem bound, ExpressionRule.asks_iff.2 asks⟩

/-- The compiled rules for a collection select what the configured ones ask for. A blank name is no
name. -/
theorem compile_selects {rules : RuleSet} {name : String} {item : Item} :
    (∃ rule ∈ rules.compile.rulesFor name, rule.selects item = true) ↔
      Text.allBlank name = false ∧ rules.Asks name item := by
  have unfolded : (∃ rule ∈ rules.compile.rulesFor name, rule.selects item = true) ↔
      ∃ rule ∈ rules.candidates, ∃ compiled, rule.compiled? = some compiled ∧
        compiled.collection = name ∧ compiled.selects item = true := by
    simp only [CompiledRules.rulesFor, compile, List.mem_filter, List.mem_filterMap, beq_iff_eq]
    grind
  rw [unfolded, asks_iff]
  simp only [Candidate.compiled?_selects]
  grind

variable {rules others : RuleSet} {catalog items : List Item} {name : String}

theorem mem_desired {id : String} :
    id ∈ desiredMembers (rules.compile.rulesFor name) catalog ↔
      Text.allBlank name = false ∧ ∃ item ∈ catalog, item.id = id ∧ rules.Asks name item := by
  rw [mem_desiredMembers]
  simp only [compile_selects]
  grind

/-- Only which rules are valid and what is listed is read from the rules and the catalog. -/
theorem Agrees.desired (agrees : rules.Agrees others)
    (same : ∀ item, item ∈ catalog ↔ item ∈ items) :
    desiredMembers (rules.compile.rulesFor name) catalog =
      desiredMembers (others.compile.rulesFor name) items := by
  refine StringSet.ext_mem fun id => ?_
  rw [mem_desired, mem_desired]
  refine and_congr_right fun named => exists_congr fun item => and_congr (same item) ?_
  exact and_congr_right fun _ => ⟨agrees.asks named, agrees.symm.asks named⟩

end RuleSet

end SmartCollections
