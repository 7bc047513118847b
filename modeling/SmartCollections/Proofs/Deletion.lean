import SmartCollections.Proofs.Execution

/-!
# What a deletion discards

A plan is made from one lookup. Whether its collection is deleted is decided from the plan and from
the outcome of its changes, and not from the members that the collection has by then. What was added
to the collection after the lookup is deleted with it.
-/

namespace SmartCollections

open MemoryStore

namespace Plan

theorem applyChanges_deletes {plan : Plan} {options : Options} {before : MemoryStore}
    (deleted : (((plan.applyChanges options).run store).run before).1.deleted = true) :
    let ran := ((plan.applyChanges options).run store).run before
    plan.empties = true ∧ ran.1.added = plan.toAdd.toList ∧ ran.1.removed = plan.toRemove.toList ∧
      ∃ between moment,
        Makes (fun _ _ => True) before (plan.toAdd.toList.map (.add plan.collection)) between ∧
        Makes (fun _ _ => True) between (plan.toRemove.toList.map (.remove plan.collection))
          moment ∧
        (store.mutate (.delete plan.collection)).run moment = (.ok (), ran.2) := by
  obtain ⟨_, _, _, notAdded, notRemoved, between, moment, adds, removes, closes⟩ :=
    plan.applyChanges_run options before
  rw [deleted] at closes
  obtain ⟨empties, none, called⟩ := closes.deletion
  obtain ⟨rfl, rfl⟩ := List.append_eq_nil_iff.1 none
  obtain ⟨added, makesAdds⟩ := adds.all_made
  obtain ⟨removed, makesRemoves⟩ := removes.all_made
  exact ⟨empties, added, removed, between, moment, makesAdds, makesRemoves, called⟩

/-- When a plan deletes its collection, all its additions and removals were made before, and are
reported. The members that the collection then has are lost: those that are not among the removals,
of the members at the outset and the additions. For a plan that was made from the members at an
earlier time, these are the members that have been added since. -/
theorem apply_deletes (plan : Plan) {options : Options} (real : options.dryRun = false)
    (before : MemoryStore)
    (deleted : (((plan.apply options).run store).run before).1.deleted = true) :
    let ran := ((plan.apply options).run store).run before
    ran.1.added = plan.toAdd.toList ∧ ran.1.removed = plan.toRemove.toList ∧
    ∃ present lost moment,
      before.collections.get? plan.collection = some present ∧
      Makes (fun _ _ => True) before
        (plan.toAdd.toList.map (.add plan.collection) ++
          plan.toRemove.toList.map (.remove plan.collection)) moment ∧
      moment.collections.get? plan.collection = some lost ∧
      (store.mutate (.delete plan.collection)).run moment = (.ok (), ran.2) ∧
      (∀ item, item ∈ lost ↔ (item ∈ present ∨ item ∈ plan.toAdd) ∧ item ∉ plan.toRemove) ∧
      ∀ rules catalog earlier, plan = reconcile plan.collection rules catalog (some earlier) →
        lost = present \ earlier := by
  have changes : plan.apply options = plan.applyChanges options := by
    cases creates : plan.create with
    | false => simp [apply, real, creates]
    | true =>
      have new : plan.apply options = plan.applyNew := by simp [apply, real, creates]
      rw [new, (plan.applyNew_creates before).2.2.1.deleted] at deleted
      cases deleted
  rw [changes] at deleted ⊢
  obtain ⟨empties, added, removed, between, moment, adds, removes, deletes⟩ :=
    applyChanges_deletes deleted
  have lastly : moment.collections.get? plan.collection ≠ none := by
    intro missing
    have made := mutate_made deletes
    simp [Mutation.collection, Mutation.effect, missing] at made
  have existed := removes.existed lastly (fun _ => rfl) fun _ => ⟨_, rfl⟩
  obtain ⟨present, first⟩ := Option.ne_none_iff_exists'.1
    (adds.existed existed (fun _ => rfl) fun _ => ⟨_, rfl⟩)
  have grown := adds.members first (fun _ => rfl) StringSet.insert fun _ _ => rfl
  have left := removes.members grown (fun _ => rfl) StringSet.erase fun _ _ => rfl
  refine ⟨added, removed, present, plan.meant present, moment, first, adds.append removes,
    left, deletes, fun _ => mem_meant, ?_⟩
  intro rules catalog earlier made
  rw [made] at empties
  obtain ⟨noAdd, all⟩ := reconcile_empties empties
  rw [← made] at noAdd all
  refine StringSet.ext_mem fun item => ?_
  rw [mem_meant, noAdd, all, StringSet.mem_sdiff]
  simp

/-- A member that was added after the plan was made is lost, though another collection refuses all
changes. -/
theorem apply_deletes_stale :
    let rules := (RuleSet.compile ⟨[⟨"Thing", "Horror", true⟩], []⟩).rules
    let catalog : List Item := [.titled "B" "Heat"]
    let plan := reconcile "Horror" rules catalog (some (.ofList ["B"]))
    let options : Options := { removeEmpty := true }
    let before : MemoryStore :=
      ⟨.ofList [("Horror", .ofList ["B", "C"])], [("Crime", none), ("Crime", some "C")], []⟩
    let ran := ((plan.apply options).run store).run before
    options.dryRun = false ∧ ran.1.deleted = true ∧ ran.1.removed = ["B"] ∧
      ∃ moment, moment.collections.get? "Horror" = some (.ofList ["C"]) ∧
        (store.mutate (.delete "Horror")).run moment = (.ok (), ran.2) := by
  intro rules catalog plan options before
  have deleted : (((plan.apply options).run store).run before).1.deleted = true := by
    decide +kernel
  obtain ⟨_, removed, present, lost, moment, first, _, left, deletes, _, since⟩ :=
    apply_deletes plan rfl before deleted
  have held : some present = some (.ofList ["B", "C"]) := first.symm.trans (by decide +kernel)
  have gone : some lost = some (.ofList ["C"]) := by
    rw [since rules catalog (.ofList ["B"]) rfl, Option.some.inj held]
    decide +kernel
  exact ⟨rfl, deleted, removed.trans (by decide +kernel), moment, left.trans gone, deletes⟩

theorem apply_loses_member :
    let plan : Plan := ⟨"C", true, false, 0, .empty, .ofList ["1"]⟩
    let before : MemoryStore := ⟨.ofList [("C", .ofList ["1", "2"])], [], []⟩
    let ran := ((plan.apply { removeEmpty := true }).run store).run before
    let moment := ((store.mutate (.remove "C" "1")).run before).2
    moment.collections.get? "C" = some (.ofList ["2"]) ∧
      (store.mutate (.delete "C")).run moment = (.ok (), ran.2) ∧
      ran.1.deleted = true ∧ ran.1.removed = ["1"] ∧ ran.2.collections.get? "C" = none := by
  refine ⟨?_, rfl, ?_⟩
  · decide +kernel
  · decide +kernel

end Plan

end SmartCollections
