import SmartCollections.Token

/-!
What can be wrong with expression text, and where.
-/
namespace SmartCollections

/-- The most parentheses that may be open at once. -/
def maxDepth : Nat := 64

/-- The most field matches in one expression. -/
def maxOperands : Nat := 512

inductive ParseError.Kind where
  | lexical (fault : LexicalFault)
  | empty
  /-- A keyword has no text after it. -/
  | missingLiteral (field : Field)
  /-- Something else stands where a field match or a group is needed. -/
  | expectedField (found : Token.Kind)
  | unknownField (word : String)
  | strayLiteral (text : String)
  | trailing (found : Token.Kind)
  | unclosedParen
  | tooDeep
  | tooLong
  deriving DecidableEq, Repr

def ParseError.Kind.message : ParseError.Kind → String
  | lexical fault => fault.message
  | empty => "expression is empty"
  | missingLiteral field => "expected a quoted string after " ++ field.keyword
  | expectedField found => "expected a field keyword, found " ++ found.describe
  | unknownField word => "unknown field keyword '" ++ word ++ "'"
  | strayLiteral text => "string \"" ++ text ++ "\" is not preceded by a field keyword"
  | trailing found => "unexpected " ++ found.describe ++ " after complete expression"
  | unclosedParen => "unclosed parenthesis"
  | tooDeep => "parentheses nested more than " ++ toString maxDepth ++ " deep"
  | tooLong => "expression has more than " ++ toString maxOperands ++ " field matches"

structure ParseError where
  kind : ParseError.Kind
  span : Span
  deriving DecidableEq, Repr

def ParseError.message (error : ParseError) : String :=
  error.kind.message ++ " at position " ++ toString error.span.start

end SmartCollections
