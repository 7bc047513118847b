import SmartCollections.Collections
import SmartCollections.Rule.Compilation

/-!
What has to change so that a collection has the members its rules select.
-/
namespace SmartCollections

structure Plan where
  collection : String
  /-- The collection existed when the plan was made. -/
  existed : Bool
  create : Bool
  /-- How many members the collection should have. -/
  desired : Nat
  toAdd : StringSet
  toRemove : StringSet
  deriving DecidableEq

namespace Plan

def isNoop (plan : Plan) : Bool := !plan.create && plan.toAdd.isEmpty && plan.toRemove.isEmpty

end Plan

def desiredMembers (rules : List CompiledRule) (catalog : List Item) : StringSet :=
  .ofList ((catalog.filter fun item => rules.any (·.selects item)).map Item.id)

/-- The plan for a collection with the given members, if it exists. A missing collection is created
only if it gets a member. -/
def reconcile (collection : String) (rules : List CompiledRule) (catalog : List Item)
    (current : Option StringSet) : Plan :=
  let desired := desiredMembers rules catalog
  let members := current.getD .empty
  { collection
    existed := current.isSome
    create := current.isNone && !desired.isEmpty
    desired := desired.size
    toAdd := desired \ members
    toRemove := members \ desired }

end SmartCollections
