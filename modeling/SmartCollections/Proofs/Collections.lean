import SmartCollections.Collections
import SmartCollections.Proofs.StringSet

/-!
# Collections by lookup

Collections are determined by what is found under each name. A change looks at one name and puts
something under that name alone: its effect there says all about it.
-/

namespace SmartCollections

namespace Collections

theorem lookup_eq_some_iff {c : Collections} {name : String} {members : StringSet} :
    c.get? name = some members ↔ (name, members) ∈ c.entries := by
  obtain ⟨entries, ascending⟩ := c
  simp only [get?]
  induction entries with
  | nil => simp
  | cons entry rest ih =>
    obtain ⟨key, value⟩ := entry
    simp only [List.map_cons, List.pairwise_cons] at ascending
    by_cases hkey : name = key
    · subst hkey
      have absent : (name, members) ∉ rest := fun hmem =>
        String.lt_irrefl name (ascending.1 name (List.mem_map.2 ⟨_, hmem, rfl⟩))
      simp [absent, eq_comm]
    · simp only [List.lookup_cons, beq_eq_false_iff_ne.2 hkey, ih ascending.2, List.mem_cons,
        Prod.mk.injEq, hkey, false_and, false_or]

/-- The same names with the same members are the same collections. -/
theorem ext_get? {c d : Collections} (same : ∀ name, c.get? name = d.get? name) : c = d := by
  have ordered (e : Collections) : e.entries.Pairwise fun a b => a.1 < b.1 :=
    List.pairwise_map.1 e.ascending
  have nodup (e : Collections) : e.entries.Nodup :=
    (ordered e).imp fun {a b} (hlt : a.1 < b.1) (heq : a = b) =>
      String.lt_irrefl b.1 (heq ▸ hlt)
  have perm : c.entries.Perm d.entries := by
    refine (List.perm_ext_iff_of_nodup (nodup c) (nodup d)).2 fun entry => ?_
    rw [← lookup_eq_some_iff, ← lookup_eq_some_iff, same]
  apply Collections.ext
  refine perm.eq_of_pairwise (fun a b _ _ hab hba => ?_) (ordered c) (ordered d)
  exact absurd (String.lt_trans hab hba) (String.lt_irrefl a.1)

@[simp]
theorem get?_empty (name : String) : empty.get? name = none := rfl

theorem mem_place_iff {name key : String} {members value : StringSet}
    {l : List (String × StringSet)} (ascending : (l.map Prod.fst).Pairwise (· < ·)) :
    (key, value) ∈ place name members l ↔
      (key = name ∧ value = members) ∨ (key ≠ name ∧ (key, value) ∈ l) := by
  induction l with
  | nil => simp [place]
  | cons entry rest ih =>
    obtain ⟨first, found⟩ := entry
    simp only [List.map_cons, List.pairwise_cons, List.mem_map, forall_exists_index, and_imp,
      Prod.forall] at ascending
    have above : (key, value) ∈ rest → first < key := fun hmem => ascending.1 key key value hmem rfl
    simp only [place]
    split
    · next hlt =>
      have stranger : (key, value) ∈ (first, found) :: rest → key ≠ name := by
        intro hmem heq
        subst heq
        rcases List.mem_cons.1 hmem with heq | hmem
        · obtain ⟨rfl, _⟩ := Prod.mk.inj heq
          exact String.lt_irrefl key hlt
        · exact String.lt_irrefl key (String.lt_trans hlt (above hmem))
      simp only [List.mem_cons, Prod.mk.injEq] at stranger ⊢
      grind
    · split
      · next heq =>
        have stranger : (key, value) ∈ rest → key ≠ name := by
          rintro hmem rfl
          exact String.lt_irrefl key (by simpa [heq] using above hmem)
        simp only [List.mem_cons, Prod.mk.injEq]
        grind
      · simp only [List.mem_cons, Prod.mk.injEq, ih ascending.2]
        grind

@[simp]
theorem get?_set (c : Collections) (name other : String) (members : StringSet) :
    (c.set name members).get? other = if other = name then some members else c.get? other := by
  ext value
  rw [lookup_eq_some_iff, set, mem_place_iff c.ascending, ← lookup_eq_some_iff]
  split <;> simp_all [eq_comm]

@[simp]
theorem get?_erase (c : Collections) (name other : String) :
    (c.erase name).get? other = if other = name then none else c.get? other := by
  ext value
  rw [lookup_eq_some_iff, erase, List.mem_filter, ← lookup_eq_some_iff]
  split <;> simp_all

theorem get?_foldl_set (c : Collections) (entries : List (String × StringSet)) (name : String)
    (fresh : (entries.map Prod.fst).Pairwise (· < ·)) :
    (entries.foldl (fun c entry => c.set entry.1 entry.2) c).get? name =
      (entries.lookup name).or (c.get? name) := by
  induction entries generalizing c with
  | nil => simp
  | cons entry rest ih =>
    obtain ⟨key, value⟩ := entry
    simp only [List.map_cons, List.pairwise_cons] at fresh
    rw [List.foldl_cons, ih _ fresh.2, get?_set, List.lookup_cons]
    by_cases hkey : name = key
    · subst hkey
      have absent : rest.lookup name = none := by
        refine List.lookup_eq_none_iff.2 fun entry hmem => ?_
        have hlt := fresh.1 entry.1 (List.mem_map.2 ⟨entry, hmem, rfl⟩)
        simpa using fun heq : name = entry.1 => String.lt_irrefl entry.1 (heq ▸ hlt)
      simp [absent]
    · simp [hkey, beq_eq_false_iff_ne.2 hkey]

/-- The entries, one after another, stand for the collections themselves. -/
@[simp]
theorem ofList_entries (c : Collections) : ofList c.entries = c := by
  refine ext_get? fun name => ?_
  rw [ofList, get?_foldl_set _ _ _ c.ascending, get?_empty, Option.or_none]
  rfl

/-- What stands under a name is replaced, or taken away. -/
def assign (c : Collections) (name : String) : Option StringSet → Collections
  | some members => c.set name members
  | none => c.erase name

@[simp]
theorem get?_assign (c : Collections) (name other : String) (members : Option StringSet) :
    (c.assign name members).get? other = if other = name then members else c.get? other := by
  cases members with
  | none => exact get?_erase c name other
  | some members => exact get?_set c name other members

end Collections

/-- What a change makes of the collection it names, which may not exist. -/
def Mutation.effect : Mutation → Option StringSet → Except HostError (Option StringSet)
  | .create name _, some _ => .error (.alreadyExists name)
  | .create _ items, none => .ok (some (.ofList items))
  | .add _ item, some members => .ok (some (members.insert item))
  | .add name _, none => .error (.notFound name)
  | .remove _ item, some members => .ok (some (members.erase item))
  | .remove name _, none => .error (.notFound name)
  | .delete _, some _ => .ok none
  | .delete name, none => .error (.notFound name)

/-- A change is its effect on the collection it names. -/
theorem Collections.change_eq (c : Collections) (mutation : Mutation) :
    c.change mutation =
      (mutation.effect (c.get? mutation.collection)).map (c.assign mutation.collection) := by
  cases mutation <;> simp only [change, Mutation.collection] <;> split <;> simp_all <;> rfl

end SmartCollections
