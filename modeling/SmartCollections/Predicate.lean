import SmartCollections.Field

/-!
Predicates over a media item, and their written form. The written form uses as few parentheses as
the grammar allows: `AND` binds tighter than `OR`, both lean to the left, so an operand is
parenthesised when it binds more loosely than its operator, or equally loosely on the right.
-/
namespace SmartCollections

inductive Predicate where
  | contains (field : Field) (text : String)
  | and (left right : Predicate)
  | or (left right : Predicate)
  deriving DecidableEq, Repr

namespace Predicate

/-- How tightly the outermost operator binds. -/
def precedence : Predicate → Nat
  | contains _ _ => 2
  | and _ _ => 1
  | or _ _ => 0

/-- The number of field matches in the tree. -/
def size : Predicate → Nat
  | contains _ _ => 1
  | and left right => left.size + right.size
  | or left right => left.size + right.size

/-- Puts parentheses around a written operand that needs them. -/
def wrap (needed : Bool) (written : String) : String :=
  if needed then "(" ++ written ++ ")" else written

def text : Predicate → String
  | contains field literal => field.keyword ++ " \"" ++ literal ++ "\""
  | and left right =>
    wrap (left.precedence < 1) left.text ++ " AND " ++ wrap (right.precedence ≤ 1) right.text
  | or left right =>
    wrap (left.precedence < 0) left.text ++ " OR " ++ wrap (right.precedence ≤ 0) right.text

end Predicate

end SmartCollections
