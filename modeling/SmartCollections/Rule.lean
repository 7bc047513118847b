/-!
Rules, as they are configured. A title rule puts an item into a collection if the item's title
contains a text; an expression rule, if the item satisfies an expression.
-/
namespace SmartCollections

structure TitleRule where
  /-- The text to look for in titles. -/
  pattern : String
  collection : String
  caseSensitive : Bool
  deriving DecidableEq

structure ExpressionRule where
  collection : String
  expression : String
  caseSensitive : Bool
  deriving DecidableEq

structure RuleSet where
  titleRules : List TitleRule
  expressionRules : List ExpressionRule
  deriving DecidableEq

namespace RuleSet

def empty : RuleSet := ⟨[], []⟩

def size (rules : RuleSet) : Nat := rules.titleRules.length + rules.expressionRules.length

def isEmpty (rules : RuleSet) : Bool := rules.size == 0

end RuleSet

/-- Which list a rule was configured in, and its place there, counted from zero. -/
inductive RuleOrigin where
  | title (index : Nat)
  | expression (index : Nat)
  deriving DecidableEq

/-- The rule's name in messages, where places are counted from one. -/
def RuleOrigin.name : RuleOrigin → String
  | title index => "title rule #" ++ toString (index + 1)
  | expression index => "expression rule #" ++ toString (index + 1)

end SmartCollections
