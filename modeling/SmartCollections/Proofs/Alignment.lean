import Mathlib.Data.Multiset.AddSub
import SmartCollections.Text.EditDistance

/-!
# Optimal string alignment

The table of edit distances holds what the recursive definition of optimal string alignment says.
That is the least number of edits in an alignment of the two texts, and an alignment can be read
from either end. So the recursion may follow the first characters, while the table follows the last
ones, and a distance of at most one is a single edit.
-/

namespace SmartCollections.Text

/-- The distance of two texts by optimal string alignment, by recursion on their first characters:
one of them is inserted, deleted or substituted, or the first two are swapped. -/
def alignmentDistance : List Char → List Char → Nat
  | [], target => target.length
  | source, [] => source.length
  | x :: xs, y :: ys =>
    let edited := min
      (min (alignmentDistance xs (y :: ys) + 1) (alignmentDistance (x :: xs) ys + 1))
      (alignmentDistance xs ys + if x = y then 0 else 1)
    if ys.head? = some x ∧ xs.head? = some y then
      min edited (alignmentDistance xs.tail ys.tail + 1)
    else edited
  termination_by source target => source.length + target.length

theorem alignmentDistance_nil_left (target : List Char) :
    alignmentDistance [] target = target.length := by rw [alignmentDistance]

theorem alignmentDistance_nil_right (source : List Char) :
    alignmentDistance source [] = source.length := by
  cases source <;> simp [alignmentDistance]

/-- Every first step bounds the distance. -/
theorem alignmentDistance_cons_le (x y : Char) (xs ys : List Char) :
    alignmentDistance (x :: xs) (y :: ys) ≤ alignmentDistance xs (y :: ys) + 1 ∧
      alignmentDistance (x :: xs) (y :: ys) ≤ alignmentDistance (x :: xs) ys + 1 ∧
      alignmentDistance (x :: xs) (y :: ys) ≤ alignmentDistance xs ys + if x = y then 0 else 1 := by
  rw [alignmentDistance]
  split <;> omega

theorem alignmentDistance_insertion_le (c : Char) (source target : List Char) :
    alignmentDistance source (c :: target) ≤ alignmentDistance source target + 1 := by
  cases source with
  | nil => rw [alignmentDistance_nil_left, alignmentDistance_nil_left]; exact Nat.le_refl _
  | cons x source => exact (alignmentDistance_cons_le x c source target).2.1

theorem alignmentDistance_deletion_le (c : Char) (source target : List Char) :
    alignmentDistance (c :: source) target ≤ alignmentDistance source target + 1 := by
  cases target with
  | nil => rw [alignmentDistance_nil_right, alignmentDistance_nil_right]; exact Nat.le_refl _
  | cons y target => exact (alignmentDistance_cons_le c y source target).1

theorem alignmentDistance_swap_le (c d : Char) (source target : List Char) :
    alignmentDistance (c :: d :: source) (d :: c :: target) ≤
      alignmentDistance source target + 1 := by
  rw [alignmentDistance]
  exact (if_pos ⟨rfl, rfl⟩).trans_le (Nat.min_le_right _ _)

/-- The distances of one text to the longer and longer beginnings of another, reversed, of which
`done` is the first one. -/
def distancesFrom (source done : List Char) : List Char → List Nat
  | [] => [alignmentDistance source done]
  | y :: rest => alignmentDistance source done :: distancesFrom source (y :: done) rest

theorem distancesFrom_eq (source done rest : List Char) :
    distancesFrom source done rest =
      alignmentDistance source done :: (distancesFrom source done rest).tail := by
  cases rest <;> rfl

/-- The part of the row two above that starts two columns back. -/
def olderDistances : (source done rest : List Char) → List Nat
  | [], _, _ => []
  | _ :: source, [], rest => distancesFrom source [] rest
  | _ :: source, y :: done, rest => distancesFrom source done (y :: rest)

/-- The cell of the next column, and what the cells after it are made of. -/
theorem distanceCells_cons (x y : Char) (source done rest : List Char) :
    distanceCells x source.head? done.head? (y :: rest) (olderDistances source done (y :: rest))
      (distancesFrom source done (y :: rest)) (alignmentDistance (x :: source) done) =
      alignmentDistance (x :: source) (y :: done) ::
        distanceCells x source.head? (some y) rest (olderDistances source (y :: done) rest)
          (distancesFrom source (y :: done) rest)
          (alignmentDistance (x :: source) (y :: done)) := by
  rw [distancesFrom, distancesFrom_eq source (y :: done), alignmentDistance]
  cases source with
  | nil => simp [distanceCells, olderDistances]
  | cons x' source =>
    cases done with
    | nil => simp [distanceCells, olderDistances, distancesFrom]
    | cons y' done => rfl

/-- A row of the table below the row of `source`: the induction is on the columns that are left. -/
theorem distanceCells_eq (x : Char) (source done rest : List Char) :
    distanceCells x source.head? done.head? rest (olderDistances source done rest)
      (distancesFrom source done rest) (alignmentDistance (x :: source) done) =
      (distancesFrom (x :: source) done rest).tail := by
  induction rest generalizing done with
  | nil => rfl
  | cons y rest ih =>
    rw [distanceCells_cons, distancesFrom, distancesFrom_eq (x :: source) (y :: done), ← ih]
    rfl

theorem lastDistanceRow_eq (target source rest : List Char) :
    lastDistanceRow target source.length source.head? (olderDistances source [] target)
      (distancesFrom source [] target) rest =
      distancesFrom (rest.reverse ++ source) [] target := by
  induction rest generalizing source with
  | nil => rfl
  | cons x rest ih =>
    have cells := distanceCells_eq x source [] target
    have row : (source.length + 1) :: distanceCells x source.head? none target
        (olderDistances source [] target) (distancesFrom source [] target) (source.length + 1) =
        distancesFrom (x :: source) [] target := by
      rw [alignmentDistance_nil_right] at cells
      rw [distancesFrom_eq (x :: source), ← cells, alignmentDistance_nil_right]
      rfl
    have next := ih (x :: source)
    rw [lastDistanceRow, row]
    rw [List.reverse_cons, List.append_assoc, List.singleton_append, ← next]
    rfl

theorem getLastD_distancesFrom (source done rest : List Char) (default : Nat) :
    (distancesFrom source done rest).getLastD default =
      alignmentDistance source (rest.reverse ++ done) := by
  induction rest generalizing done default with
  | nil => rfl
  | cons y rest ih =>
    rw [distancesFrom, List.getLastD_cons, ih, List.reverse_cons, List.append_assoc]
    rfl

/-- The first row of the table holds the lengths of the beginnings. -/
theorem distancesFrom_nil (done rest : List Char) :
    distancesFrom [] done rest = List.range' done.length (rest.length + 1) := by
  induction rest generalizing done with
  | nil => rw [distancesFrom, alignmentDistance_nil_left]; rfl
  | cons y rest ih => rw [distancesFrom, alignmentDistance_nil_left, ih]; rfl

/-- The last cell of the table is the distance of the reversed texts. -/
theorem editDistance_eq_reverse (source target : List Char) :
    editDistance source target = alignmentDistance source.reverse target.reverse := by
  have rows := lastDistanceRow_eq target [] source
  rw [distancesFrom_nil, List.append_nil] at rows
  rw [editDistance, List.range_eq_range', ← List.append_nil target.reverse,
    ← getLastD_distancesFrom, ← rows]
  rfl

/-- The first text becomes the second, from the first to the last character, by so many edits. -/
inductive Aligned : Nat → List Char → List Char → Prop
  | nil : Aligned 0 [] []
  | keep (c : Char) {edits : Nat} {source target : List Char}
      (rest : Aligned edits source target) : Aligned edits (c :: source) (c :: target)
  | insertion (c : Char) {edits : Nat} {source target : List Char}
      (rest : Aligned edits source target) : Aligned (edits + 1) source (c :: target)
  | deletion (c : Char) {edits : Nat} {source target : List Char}
      (rest : Aligned edits source target) : Aligned (edits + 1) (c :: source) target
  | substitution (c d : Char) {edits : Nat} {source target : List Char}
      (rest : Aligned edits source target) : Aligned (edits + 1) (c :: source) (d :: target)
  | swap (c d : Char) {edits : Nat} {source target : List Char}
      (rest : Aligned edits source target) :
      Aligned (edits + 1) (c :: d :: source) (d :: c :: target)

namespace Aligned

variable {edits more : Nat} {source target source' target' : List Char}

theorem refl (text : List Char) : Aligned 0 text text := by
  induction text with
  | nil => exact .nil
  | cons c text ih => exact .keep c ih

theorem insertAll (target : List Char) : Aligned target.length [] target := by
  induction target with
  | nil => exact .nil
  | cons c target ih => exact .insertion c ih

theorem deleteAll (source : List Char) : Aligned source.length source [] := by
  induction source with
  | nil => exact .nil
  | cons c source ih => exact .deletion c ih

theorem append (first : Aligned edits source target) (second : Aligned more source' target') :
    Aligned (edits + more) (source ++ source') (target ++ target') := by
  induction first with
  | nil => rwa [Nat.zero_add]
  | keep c _ ih => exact .keep c ih
  | insertion c _ ih => rw [Nat.add_right_comm]; exact .insertion c ih
  | deletion c _ ih => rw [Nat.add_right_comm]; exact .deletion c ih
  | substitution c d _ ih => rw [Nat.add_right_comm]; exact .substitution c d ih
  | swap c d _ ih => rw [Nat.add_right_comm]; exact .swap c d ih

/-- An alignment can be read from the other end. -/
theorem reverse (aligned : Aligned edits source target) :
    Aligned edits source.reverse target.reverse := by
  induction aligned with
  | nil => exact .nil
  | keep c _ ih => simpa using ih.append (refl [c])
  | insertion c _ ih => simpa using ih.append (insertAll [c])
  | deletion c _ ih => simpa using ih.append (deleteAll [c])
  | substitution c d _ ih => simpa using ih.append (.substitution c d .nil)
  | swap c d _ ih => simpa using ih.append (.swap d c .nil)

/-- An alignment takes at least as many edits as the distance says. -/
theorem distance_le (aligned : Aligned edits source target) :
    alignmentDistance source target ≤ edits := by
  induction aligned with
  | nil => rw [alignmentDistance_nil_left]; exact Nat.le_refl 0
  | keep c _ ih =>
    refine (alignmentDistance_cons_le c c _ _).2.2.trans ?_
    rwa [if_pos rfl]
  | insertion c _ ih => exact (alignmentDistance_insertion_le c _ _).trans (Nat.succ_le_succ ih)
  | deletion c _ ih => exact (alignmentDistance_deletion_le c _ _).trans (Nat.succ_le_succ ih)
  | substitution c d _ ih =>
    refine (alignmentDistance_cons_le c d _ _).2.2.trans (Nat.add_le_add ih ?_)
    split <;> omega
  | swap c d _ ih => exact (alignmentDistance_swap_le c d _ _).trans (Nat.succ_le_succ ih)

theorem least (first : Aligned edits source target) (second : Aligned more source target) :
    Aligned (min edits more) source target := by
  rcases Nat.le_total edits more with fewer | fewer
  · rwa [Nat.min_eq_left fewer]
  · rwa [Nat.min_eq_right fewer]

/-- The least of the alignments that do not begin with a swap. -/
theorem edited {x y : Char} {xs ys : List Char} {deleted inserted kept : Nat}
    (delete : Aligned deleted xs (y :: ys)) (insert : Aligned inserted (x :: xs) ys)
    (keep : Aligned kept xs ys) :
    Aligned (min (min (deleted + 1) (inserted + 1)) (kept + if x = y then 0 else 1))
      (x :: xs) (y :: ys) := by
  refine ((deletion x delete).least (insertion y insert)).least ?_
  split
  · next same => exact same ▸ .keep x keep
  · exact .substitution x y keep

end Aligned

/-- Some alignment takes as many edits as the distance says. -/
theorem aligned_distance (source target : List Char) :
    Aligned (alignmentDistance source target) source target := by
  fun_induction alignmentDistance source target with
  | case1 target => exact .insertAll target
  | case2 source => exact .deleteAll source
  | case3 x xs y ys edited swapped ihDelete ihInsert ih ihSwap =>
    obtain ⟨xs, rfl⟩ := List.head?_eq_some_iff.1 swapped.2
    obtain ⟨ys, rfl⟩ := List.head?_eq_some_iff.1 swapped.1
    exact (ihDelete.edited ihInsert ih).least (.swap x y ihSwap)
  | case4 x xs y ys edited unswapped ihDelete ihInsert ih => exact ihDelete.edited ihInsert ih

theorem alignmentDistance_reverse (source target : List Char) :
    alignmentDistance source.reverse target.reverse = alignmentDistance source target := by
  have forth := (aligned_distance source target).reverse.distance_le
  have back := (aligned_distance source.reverse target.reverse).reverse.distance_le
  rw [List.reverse_reverse, List.reverse_reverse] at back
  exact Nat.le_antisymm forth back

/-- The table computes the distance of optimal string alignment. -/
theorem editDistance_eq (source target : List Char) :
    editDistance source target = alignmentDistance source target :=
  (editDistance_eq_reverse source target).trans (alignmentDistance_reverse source target)

/-- The texts differ by one insertion, deletion or substitution, or by a swap of neighbours. -/
inductive OneEdit : List Char → List Char → Prop
  | insertion (before after : List Char) (c : Char) :
      OneEdit (before ++ after) (before ++ c :: after)
  | deletion (before after : List Char) (c : Char) :
      OneEdit (before ++ c :: after) (before ++ after)
  | substitution (before after : List Char) (c d : Char) :
      OneEdit (before ++ c :: after) (before ++ d :: after)
  | swap (before after : List Char) (c d : Char) :
      OneEdit (before ++ c :: d :: after) (before ++ d :: c :: after)

theorem OneEdit.aligned {source target : List Char} (edit : OneEdit source target) :
    Aligned 1 source target := by
  cases edit with
  | insertion before after c => exact (Aligned.refl before).append (.insertion c (.refl after))
  | deletion before after c => exact (Aligned.refl before).append (.deletion c (.refl after))
  | substitution before after c d =>
    exact (Aligned.refl before).append (.substitution c d (.refl after))
  | swap before after c d => exact (Aligned.refl before).append (.swap c d (.refl after))

theorem OneEdit.cons {source target : List Char} (c : Char) (edit : OneEdit source target) :
    OneEdit (c :: source) (c :: target) := by
  cases edit with
  | insertion before after d => exact .insertion (c :: before) after d
  | deletion before after d => exact .deletion (c :: before) after d
  | substitution before after d e => exact .substitution (c :: before) after d e
  | swap before after d e => exact .swap (c :: before) after d e

theorem Aligned.eq_of_zero {edits : Nat} {source target : List Char}
    (aligned : Aligned edits source target) (none : edits = 0) : source = target := by
  induction aligned with
  | nil => rfl
  | keep c _ ih => rw [ih none]
  | _ => cases none

theorem Aligned.oneEdit {edits : Nat} {source target : List Char}
    (aligned : Aligned edits source target) (few : edits ≤ 1) :
    source = target ∨ OneEdit source target := by
  induction aligned with
  | nil => exact .inl rfl
  | keep c _ ih => exact (ih few).imp (congrArg (c :: ·)) (.cons c)
  | insertion c rest =>
    obtain rfl := rest.eq_of_zero (by omega)
    exact .inr (.insertion [] _ c)
  | deletion c rest =>
    obtain rfl := rest.eq_of_zero (by omega)
    exact .inr (.deletion [] _ c)
  | substitution c d rest =>
    obtain rfl := rest.eq_of_zero (by omega)
    exact .inr (.substitution [] _ c d)
  | swap c d rest =>
    obtain rfl := rest.eq_of_zero (by omega)
    exact .inr (.swap [] _ c d)

/-- A distance of at most one is a single edit or none. -/
theorem editDistance_le_one_iff (source target : List Char) :
    editDistance source target ≤ 1 ↔ source = target ∨ OneEdit source target := by
  rw [editDistance_eq]
  constructor
  · exact (aligned_distance source target).oneEdit
  · rintro (rfl | edit)
    · exact (Aligned.refl source).distance_le.trans (Nat.zero_le 1)
    · exact edit.aligned.distance_le

theorem Aligned.symm {edits : Nat} {source target : List Char}
    (aligned : Aligned edits source target) : Aligned edits target source := by
  induction aligned with
  | nil => exact .nil
  | keep c _ ih => exact .keep c ih
  | insertion c _ ih => exact .deletion c ih
  | deletion c _ ih => exact .insertion c ih
  | substitution c d _ ih => exact .substitution d c ih
  | swap c d _ ih => exact .swap d c ih

/-- Each edit takes away at most one character, whatever the order of the characters is. -/
theorem Aligned.le_add {edits : Nat} {source target : List Char}
    (aligned : Aligned edits source target) :
    ∃ lost : Multiset Char, lost.card ≤ edits ∧ (source : Multiset Char) ≤ ↑target + lost := by
  induction aligned with
  | nil => exact ⟨0, Nat.le_refl 0, Multiset.zero_le _⟩
  | keep c _ ih =>
    obtain ⟨lost, few, le⟩ := ih
    refine ⟨lost, few, ?_⟩
    rw [← Multiset.cons_coe, ← Multiset.cons_coe, Multiset.cons_add]
    exact Multiset.cons_le_cons c le
  | insertion c _ ih =>
    obtain ⟨lost, few, le⟩ := ih
    refine ⟨lost, Nat.le_succ_of_le few, ?_⟩
    rw [← Multiset.cons_coe, Multiset.cons_add]
    exact le.trans (Multiset.le_cons_self _ c)
  | deletion c _ ih =>
    obtain ⟨lost, few, le⟩ := ih
    refine ⟨c ::ₘ lost, (Multiset.card_cons c lost).trans_le (Nat.succ_le_succ few), ?_⟩
    rw [← Multiset.cons_coe, Multiset.add_cons]
    exact Multiset.cons_le_cons c le
  | substitution c d _ ih =>
    obtain ⟨lost, few, le⟩ := ih
    refine ⟨c ::ₘ lost, (Multiset.card_cons c lost).trans_le (Nat.succ_le_succ few), ?_⟩
    rw [← Multiset.cons_coe, ← Multiset.cons_coe, Multiset.add_cons, Multiset.cons_add]
    exact Multiset.cons_le_cons c (le.trans (Multiset.le_cons_self _ d))
  | swap c d _ ih =>
    obtain ⟨lost, few, le⟩ := ih
    refine ⟨lost, Nat.le_succ_of_le few, ?_⟩
    rw [← Multiset.cons_coe, ← Multiset.cons_coe, ← Multiset.cons_coe, ← Multiset.cons_coe,
      Multiset.cons_swap, Multiset.cons_add, Multiset.cons_add]
    exact Multiset.cons_le_cons d (Multiset.cons_le_cons c le)

/-- Two texts near to a third one have most of their characters in common. -/
theorem length_diff_le {first second word : List Char} {edits more : Nat}
    (near : editDistance word first ≤ edits) (nearToo : editDistance word second ≤ more) :
    (first.diff second).length ≤ edits + more := by
  rw [editDistance_eq] at near nearToo
  obtain ⟨lost, few, le⟩ := (aligned_distance word first).symm.le_add
  obtain ⟨lostToo, fewToo, leToo⟩ := (aligned_distance word second).le_add
  have le_both : (first : Multiset Char) ≤ ↑second + (lostToo + lost) := by
    rw [← Multiset.add_assoc]
    exact le.trans (Multiset.add_le_add_right leToo)
  have card := Multiset.card_le_card (Multiset.sub_le_iff_le_add'.2 le_both)
  rw [Multiset.coe_sub, Multiset.coe_card, Multiset.card_add] at card
  omega

end SmartCollections.Text
