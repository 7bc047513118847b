import SmartCollections.Predicate.Evaluation
import SmartCollections.Predicate.Parser
import SmartCollections.Rule

/-!
From configured rules to predicates. Each rule is judged by itself. A valid rule becomes a compiled
rule with a predicate. An invalid one is reported, and is kept without a predicate, so that its
collection still takes part; it is kept at all only if it names a collection.
-/
namespace SmartCollections

structure CompiledRule where
  origin : RuleOrigin
  collection : String
  /-- There is none for an inert rule. -/
  predicate : Option Predicate
  caseSensitive : Bool
  deriving DecidableEq

namespace CompiledRule

/-- An inert rule selects nothing. -/
def isInert (rule : CompiledRule) : Bool := rule.predicate.isNone

def selects (rule : CompiledRule) (item : Item) : Bool :=
  match rule.predicate with
  | some predicate => predicate.eval rule.caseSensitive item
  | none => false

end CompiledRule

inductive RuleFault where
  | blankCollection
  | emptyPattern
  | badExpression (error : ParseError)
  deriving DecidableEq

def RuleFault.message : RuleFault → String
  | blankCollection => "collection name is empty"
  | emptyPattern => "match value is empty"
  | badExpression error => error.message

structure RuleDiagnostic where
  origin : RuleOrigin
  collection : String
  /-- The pattern of a title rule, or the expression. -/
  source : String
  messages : List String
  deriving DecidableEq

def RuleDiagnostic.text (diagnostic : RuleDiagnostic) : String :=
  diagnostic.origin.name ++ " (collection \"" ++ diagnostic.collection ++ "\"): " ++
    String.intercalate "; " diagnostic.messages

/-- A configured rule of either kind, with what its text stands for. -/
structure Candidate where
  origin : RuleOrigin
  collection : String
  source : String
  caseSensitive : Bool
  /-- The predicate, or what is wrong with the text. -/
  meaning : Except (List RuleFault) Predicate

def TitleRule.candidate (rule : TitleRule) (index : Nat) : Candidate where
  origin := .title index
  collection := rule.collection
  source := rule.pattern
  caseSensitive := rule.caseSensitive
  meaning :=
    if rule.pattern.isEmpty then .error [.emptyPattern] else .ok (.contains .title rule.pattern)

def ExpressionRule.candidate (rule : ExpressionRule) (index : Nat) : Candidate where
  origin := .expression index
  collection := rule.collection
  source := rule.expression
  caseSensitive := rule.caseSensitive
  meaning := match Predicate.parse rule.expression with
    | .ok predicate => .ok predicate
    | .error errors => .error (errors.map .badExpression)

/-- The rules as candidates, title rules first. -/
def RuleSet.candidates (rules : RuleSet) : List Candidate :=
  rules.titleRules.mapIdx (fun index rule => rule.candidate index) ++
    rules.expressionRules.mapIdx (fun index rule => rule.candidate index)

namespace Candidate

/-- Everything that is wrong with the rule, the collection's name first. -/
def faults (rule : Candidate) : List RuleFault :=
  (if Text.allBlank rule.collection then [.blankCollection] else []) ++
    match rule.meaning with
    | .ok _ => []
    | .error faults => faults

/-- The rule in compiled form, if it names a collection. -/
def compiled? (rule : Candidate) : Option CompiledRule :=
  if Text.allBlank rule.collection then none
  else match rule.meaning with
    | .ok predicate => some ⟨rule.origin, rule.collection, some predicate, rule.caseSensitive⟩
    | .error _ => some ⟨rule.origin, rule.collection, none, false⟩

def diagnostic? (rule : Candidate) : Option RuleDiagnostic :=
  if rule.faults.isEmpty then none
  else some ⟨rule.origin, rule.collection, rule.source, rule.faults.map RuleFault.message⟩

end Candidate

/-- The rules that take part, and the reports on the invalid ones, both in configured order. -/
structure CompiledRules where
  rules : List CompiledRule
  diagnostics : List RuleDiagnostic

namespace CompiledRules

def hasErrors (compiled : CompiledRules) : Bool := !compiled.diagnostics.isEmpty

def collections (compiled : CompiledRules) : StringSet :=
  .ofList (compiled.rules.map CompiledRule.collection)

def rulesFor (compiled : CompiledRules) (collection : String) : List CompiledRule :=
  compiled.rules.filter (·.collection == collection)

/-- Each collection with the rules that name it, by name. -/
def groups (compiled : CompiledRules) : List (String × List CompiledRule) :=
  compiled.collections.toList.map fun collection => (collection, compiled.rulesFor collection)

end CompiledRules

def RuleSet.compile (rules : RuleSet) : CompiledRules :=
  ⟨rules.candidates.filterMap Candidate.compiled?, rules.candidates.filterMap Candidate.diagnostic?⟩

end SmartCollections
