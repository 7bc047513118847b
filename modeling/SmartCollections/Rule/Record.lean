import SmartCollections.Document
import SmartCollections.Rule

/-!
Rules as documents. A record may be written as a table, where unknown keys are ignored, or as a list
in the order of its keys; flags may be left out. Written out, a record is a table with all its keys.
-/
namespace SmartCollections

open Document

def TitleRule.ofDocument? (document : Document) : Option TitleRule := do
  match ← record? ["match", "collection", "case_sensitive"] document with
  | [pattern, collection, caseSensitive] =>
    return ⟨← required? text? pattern, ← required? text? collection,
      ← optional? bool? false caseSensitive⟩
  | _ => none

def TitleRule.toDocument (rule : TitleRule) : Document :=
  .table [("match", .text rule.pattern), ("collection", .text rule.collection),
    ("case_sensitive", .bool rule.caseSensitive)]

def ExpressionRule.ofDocument? (document : Document) : Option ExpressionRule := do
  match ← record? ["collection", "expression", "case_sensitive"] document with
  | [collection, expression, caseSensitive] =>
    return ⟨← required? text? collection, ← required? text? expression,
      ← optional? bool? false caseSensitive⟩
  | _ => none

def ExpressionRule.toDocument (rule : ExpressionRule) : Document :=
  .table [("collection", .text rule.collection), ("expression", .text rule.expression),
    ("case_sensitive", .bool rule.caseSensitive)]

namespace RuleSet

/-- The rules under the two keys of a rule set, both of which may be absent. -/
def ofFields? (titleRules expressionRules : Option Document) : Option RuleSet := do
  return ⟨← optional? (list? TitleRule.ofDocument?) [] titleRules,
    ← optional? (list? ExpressionRule.ofDocument?) [] expressionRules⟩

def ofDocument? (document : Document) : Option RuleSet := do
  match ← record? ["title_rules", "expression_rules"] document with
  | [titleRules, expressionRules] => ofFields? titleRules expressionRules
  | _ => none

def toDocument (rules : RuleSet) : Document :=
  .table [("title_rules", .list (rules.titleRules.map TitleRule.toDocument)),
    ("expression_rules", .list (rules.expressionRules.map ExpressionRule.toDocument))]

end RuleSet

end SmartCollections
