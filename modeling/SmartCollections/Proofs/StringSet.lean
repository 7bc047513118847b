import SmartCollections.StringSet

/-!
# Sets of strings by their members

Every operation on a set is determined by what it does to the members, since a set has only one
representation.
-/

namespace SmartCollections.StringSet

theorem nodup (s : StringSet) : s.toList.Nodup :=
  s.ascending.imp fun {x y} (hlt : x < y) (heq : x = y) => String.lt_irrefl y (heq ▸ hlt)

/-- Sets with the same members are equal. -/
theorem ext_mem {s t : StringSet} (same : ∀ x, x ∈ s ↔ x ∈ t) : s = t := by
  have perm : s.toList.Perm t.toList := (List.perm_ext_iff_of_nodup s.nodup t.nodup).2 same
  apply StringSet.ext
  refine perm.eq_of_pairwise (fun a b _ _ hab hba => ?_) s.ascending t.ascending
  exact absurd (String.lt_trans hab hba) (String.lt_irrefl a)

@[simp]
theorem not_mem_empty (x : String) : x ∉ empty := List.not_mem_nil

@[simp]
theorem mem_insert {s : StringSet} {x y : String} : y ∈ s.insert x ↔ y = x ∨ y ∈ s := mem_place

theorem mem_insertAll {s : StringSet} {xs : List String} {y : String} :
    y ∈ s.insertAll xs ↔ y ∈ s ∨ y ∈ xs := by
  induction xs generalizing s with
  | nil => simp [insertAll]
  | cons x xs ih =>
    have step : s.insertAll (x :: xs) = (s.insert x).insertAll xs := rfl
    rw [step, ih, mem_insert, List.mem_cons]
    grind

@[simp]
theorem mem_ofList {xs : List String} {y : String} : y ∈ ofList xs ↔ y ∈ xs := by
  simp [ofList, mem_insertAll]

@[simp]
theorem mem_union {s t : StringSet} {y : String} : y ∈ s ∪ t ↔ y ∈ s ∨ y ∈ t := mem_insertAll

@[simp]
theorem mem_erase {s : StringSet} {x y : String} : y ∈ s.erase x ↔ y ∈ s ∧ y ≠ x := by
  simp [erase, mem_def]

@[simp]
theorem mem_sdiff {s t : StringSet} {y : String} : y ∈ s \ t ↔ y ∈ s ∧ y ∉ t := by
  have unfolded : y ∈ s \ t ↔ y ∈ s.toList.filter (· ∉ t) := Iff.rfl
  simp [unfolded, mem_def]

/-- The members in ascending order stand for the set itself. -/
@[simp]
theorem ofList_toList (s : StringSet) : ofList s.toList = s :=
  ext_mem fun _ => mem_ofList

theorem isEmpty_iff {s : StringSet} : s.isEmpty = true ↔ s = empty := by
  rw [isEmpty, List.isEmpty_iff]
  exact ⟨fun h => ext h, fun h => h ▸ rfl⟩

theorem size_eq_zero_iff {s : StringSet} : s.size = 0 ↔ s = empty := by
  rw [← isEmpty_iff, isEmpty, size, List.isEmpty_iff, List.length_eq_zero_iff]

end SmartCollections.StringSet
