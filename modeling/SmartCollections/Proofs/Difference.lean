import Mathlib.Data.Set.Basic
import SmartCollections.Plan
import SmartCollections.Proofs.StringSet

/-!
# The difference between two sets

What is missing from a set and what is too much in it is the least difference to another set: every
other difference adds and removes at least as much. A plan is the least difference between the
members that a collection has and those that its rules select, so a plan made after a plan was
carried out has nothing to do.
-/

namespace SmartCollections

namespace StringSet

variable {s t : StringSet}

theorem size_union_of_disjoint (disjoint : ∀ x ∈ t, x ∉ s) : (s ∪ t).size = s.size + t.size := by
  have nodup : (s.toList ++ t.toList).Nodup :=
    List.nodup_append.2 ⟨s.nodup, t.nodup, fun x hx y hy heq => disjoint y hy (heq ▸ hx)⟩
  have perm : (s ∪ t).toList.Perm (s.toList ++ t.toList) :=
    (List.perm_ext_iff_of_nodup (s ∪ t).nodup nodup).2 fun x => by
      rw [List.mem_append]
      exact mem_union
  simpa [size] using perm.length_eq

theorem sdiff_union_of_subset (subset : ∀ x ∈ t, x ∈ s) : s \ t ∪ t = s := by
  refine ext_mem fun x => ?_
  rw [mem_union, mem_sdiff]
  constructor
  · rintro (⟨member, _⟩ | removed)
    · exact member
    · exact subset x removed
  · intro member
    by_cases removed : x ∈ t
    · exact .inr removed
    · exact .inl ⟨member, removed⟩

theorem size_sdiff_add_of_subset (subset : ∀ x ∈ t, x ∈ s) : (s \ t).size + t.size = s.size := by
  rw [← size_union_of_disjoint (s := s \ t), sdiff_union_of_subset subset]
  intro x removed member
  exact (mem_sdiff.1 member).2 removed

/-- Adding what is missing and removing what is too much leads from one set to the other. -/
theorem union_sdiff_sdiff (s t : StringSet) : (s ∪ (t \ s)) \ (s \ t) = t := by
  refine ext_mem fun x => ?_
  simp only [mem_sdiff, mem_union]
  by_cases member : x ∈ s <;> by_cases desired : x ∈ t <;> simp [member, desired]

theorem sdiff_self_eq_empty (s : StringSet) : s \ s = empty :=
  ext_mem fun x => by simp

end StringSet

/-- Adding the one and removing the other leads from `members` to `desired`. -/
def Bridges (members desired : StringSet) (additions removals : Set String) : Prop :=
  ∀ item, item ∈ desired ↔ (item ∈ members ∨ item ∈ additions) ∧ item ∉ removals

namespace Bridges

variable {members desired : StringSet} {additions removals : Set String}

/-- Whatever is missing has to be added. -/
theorem mem_additions (bridges : Bridges members desired additions removals) {item : String}
    (missing : item ∈ desired \ members) : item ∈ additions := by
  obtain ⟨wanted, stranger⟩ := StringSet.mem_sdiff.1 missing
  obtain ⟨member | added, _⟩ := (bridges item).1 wanted
  · exact absurd member stranger
  · exact added

/-- Whatever is too much has to be removed. -/
theorem mem_removals (bridges : Bridges members desired additions removals) {item : String}
    (surplus : item ∈ members \ desired) : item ∈ removals := by
  obtain ⟨member, unwanted⟩ := StringSet.mem_sdiff.1 surplus
  by_contra kept
  exact unwanted ((bridges item).2 ⟨.inl member, kept⟩)

end Bridges

namespace Plan

/-- What a plan leads to, from the members of a collection, if it exists: nothing comes into being
that did not exist and is not created. -/
def result (plan : Plan) (current : Option StringSet) : Option StringSet :=
  if plan.existed || plan.create then
    some ((current.getD .empty ∪ plan.toAdd) \ plan.toRemove)
  else none

/-- The plan is the least difference between the members that a collection has, if it exists, and
the desired ones. It is the only one that adds nothing but strangers and removes nothing but
members. -/
structure Least (current : Option StringSet) (desired : StringSet) (plan : Plan) : Prop where
  reaches : (current.getD .empty ∪ plan.toAdd) \ plan.toRemove = desired
  strangers : ∀ item ∈ plan.toAdd, item ∉ current.getD .empty
  members : ∀ item ∈ plan.toRemove, item ∈ current.getD .empty
  least : ∀ additions removals, Bridges (current.getD .empty) desired additions removals →
    (∀ item ∈ plan.toAdd, item ∈ additions) ∧ ∀ item ∈ plan.toRemove, item ∈ removals
  only : ∀ additions removals : StringSet,
    (current.getD .empty ∪ additions) \ removals = desired →
    (∀ item ∈ additions, item ∉ current.getD .empty) →
    (∀ item ∈ removals, item ∈ current.getD .empty) →
    additions = plan.toAdd ∧ removals = plan.toRemove
  size : plan.desired + plan.toRemove.size = (current.getD .empty).size + plan.toAdd.size
  creates : plan.create = true ↔ current = none ∧ desired ≠ .empty
  fills : plan.create = true → plan.toAdd = desired
  atRest : plan.isNoop = true ↔ current.getD .empty = desired

end Plan

theorem mem_desiredMembers {rules : List CompiledRule} {catalog : List Item} {id : String} :
    id ∈ desiredMembers rules catalog ↔
      ∃ item ∈ catalog, (∃ rule ∈ rules, rule.selects item) ∧ item.id = id := by
  simp [desiredMembers, and_assoc]

section Reconcile

variable (collection : String) (rules : List CompiledRule) (catalog : List Item)
  (current : Option StringSet)

theorem reconcile_toAdd :
    (reconcile collection rules catalog current).toAdd =
      desiredMembers rules catalog \ current.getD .empty := rfl

theorem reconcile_create_iff :
    (reconcile collection rules catalog current).create = true ↔
      current = none ∧ desiredMembers rules catalog ≠ .empty := by
  have created : (reconcile collection rules catalog current).create =
      (current.isNone && !(desiredMembers rules catalog).isEmpty) := rfl
  rw [created, Bool.and_eq_true, Option.isNone_iff_eq_none, Bool.not_eq_true', ← Bool.not_eq_true,
    StringSet.isEmpty_iff]

theorem reconcile_size :
    (reconcile collection rules catalog current).desired +
        (reconcile collection rules catalog current).toRemove.size =
      (current.getD .empty).size + (reconcile collection rules catalog current).toAdd.size := by
  let members := current.getD .empty
  let desired := desiredMembers rules catalog
  have disjoint : ∀ item ∈ desired \ members, item ∉ members := fun item missing =>
    (StringSet.mem_sdiff.1 missing).2
  have subset : ∀ item ∈ members \ desired, item ∈ members ∪ (desired \ members) :=
    fun item surplus => StringSet.mem_union.2 (.inl (StringSet.mem_sdiff.1 surplus).1)
  calc desired.size + (members \ desired).size
    _ = ((members ∪ (desired \ members)) \ (members \ desired)).size +
          (members \ desired).size := by
        rw [StringSet.union_sdiff_sdiff]
    _ = (members ∪ (desired \ members)).size := StringSet.size_sdiff_add_of_subset subset
    _ = members.size + (desired \ members).size := StringSet.size_union_of_disjoint disjoint

/-- There is nothing to do exactly if the members are the desired ones already. A missing collection
counts as one without members. -/
theorem reconcile_isNoop_iff :
    (reconcile collection rules catalog current).isNoop = true ↔
      current.getD .empty = desiredMembers rules catalog := by
  have parts : (reconcile collection rules catalog current).isNoop = true ↔
      ¬ (current = none ∧ desiredMembers rules catalog ≠ .empty) ∧
        desiredMembers rules catalog \ current.getD .empty = .empty ∧
        current.getD .empty \ desiredMembers rules catalog = .empty := by
    rw [← reconcile_create_iff collection, ← StringSet.isEmpty_iff, ← StringSet.isEmpty_iff,
      Plan.isNoop, Bool.and_eq_true, Bool.and_eq_true, Bool.not_eq_true', Bool.not_eq_true,
      and_assoc]
    rfl
  rw [parts]
  constructor
  · rintro ⟨_, noAdd, noRemove⟩
    have bridged := StringSet.union_sdiff_sdiff (current.getD .empty) (desiredMembers rules catalog)
    rw [noAdd, noRemove] at bridged
    rw [← bridged]
    exact StringSet.ext_mem fun item => by simp
  · intro same
    refine ⟨?_, ?_, ?_⟩
    · rintro ⟨rfl, wanted⟩
      exact wanted same.symm
    · rw [same, StringSet.sdiff_self_eq_empty]
    · rw [same, StringSet.sdiff_self_eq_empty]

/-- Carrying out a plan leaves the desired members. -/
theorem reconcile_result :
    ((reconcile collection rules catalog current).result current).getD .empty =
      desiredMembers rules catalog := by
  let plan := reconcile collection rules catalog current
  by_cases there : (plan.existed || plan.create) = true
  · rw [Plan.result, if_pos there]
    exact StringSet.union_sdiff_sdiff _ _
  · rw [Plan.result, if_neg there]
    obtain ⟨notExisted, notCreated⟩ := not_or.1 (mt Bool.or_eq_true_iff.2 there)
    have missing : current = none := Option.not_isSome_iff_eq_none.1 notExisted
    by_contra wanted
    exact notCreated ((reconcile_create_iff collection rules catalog current).2
      ⟨missing, Ne.symm wanted⟩)

/-- A plan is the least difference between the members of a collection and the ids of the items that
some rule selects. A collection is created exactly if it is missing and gets members. Once the plan
is carried out, nothing is left to do. -/
theorem reconcile_least :
    (∀ id, id ∈ desiredMembers rules catalog ↔
      ∃ item ∈ catalog, (∃ rule ∈ rules, rule.selects item) ∧ item.id = id) ∧
    (reconcile collection rules catalog current).Least current (desiredMembers rules catalog) ∧
    (reconcile collection rules catalog
      ((reconcile collection rules catalog current).result current)).isNoop = true := by
  refine ⟨fun id => mem_desiredMembers, ⟨StringSet.union_sdiff_sdiff _ _,
    fun item missing => ?_, fun item surplus => ?_, fun additions removals bridges => ?_,
    fun additions removals bridged strangers inside => ?_,
    reconcile_size collection rules catalog current,
    reconcile_create_iff collection rules catalog current, fun creates => ?_,
    reconcile_isNoop_iff collection rules catalog current⟩, ?_⟩
  · exact (StringSet.mem_sdiff.1 missing).2
  · exact (StringSet.mem_sdiff.1 surplus).1
  · exact ⟨fun item => bridges.mem_additions, fun item => bridges.mem_removals⟩
  · have bridges : Bridges (current.getD .empty) (desiredMembers rules catalog)
        {item | item ∈ additions} {item | item ∈ removals} :=
      fun item => by rw [← bridged, StringSet.mem_sdiff, StringSet.mem_union]; rfl
    refine ⟨StringSet.ext_mem fun item => ⟨fun added => ?_, bridges.mem_additions⟩,
      StringSet.ext_mem fun item => ⟨fun removed => ?_, bridges.mem_removals⟩⟩
    · -- An item that is added and removed would be no member and a member.
      have kept : item ∉ removals := fun removed => strangers item added (inside item removed)
      have wanted := (bridges item).2 ⟨.inr added, kept⟩
      exact StringSet.mem_sdiff.2 ⟨wanted, strangers item added⟩
    · have unwanted : item ∉ desiredMembers rules catalog := fun wanted =>
        ((bridges item).1 wanted).2 removed
      exact StringSet.mem_sdiff.2 ⟨inside item removed, unwanted⟩
  · obtain ⟨rfl, _⟩ := (reconcile_create_iff collection rules catalog current).1 creates
    exact StringSet.ext_mem fun item => by simp [reconcile_toAdd]
  · exact (reconcile_isNoop_iff collection rules catalog _).2
      (reconcile_result collection rules catalog current)

end Reconcile

end SmartCollections
