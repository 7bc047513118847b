import SmartCollections.Store.File

/-!
# Paths and the steps they lead

A path that ends with a name leads to the folder that the name is in, then to the name, and then
stays where it is. Of its temporary path all this is true as well, and both lead through the same
folders to different names.
-/

namespace SmartCollections

namespace Path

theorem split_ne_nil (chars : List Char) : split chars ≠ [] := by
  cases chars with
  | nil => exact List.cons_ne_nil _ _
  | cons c rest =>
    rw [split]
    split
    · exact List.cons_ne_nil _ _
    · split <;> exact List.cons_ne_nil _ _

theorem split_cons_of_ne {c : Char} (plain : c ≠ '/') {chars part : List Char}
    {parts : List (List Char)} (rest : split chars = part :: parts) :
    split (c :: chars) = (c :: part) :: parts := by
  rw [split, if_neg plain, rest]

theorem split_append_slash (front back : List Char) :
    split (front ++ '/' :: back) = split front ++ split back := by
  induction front with
  | nil => rfl
  | cons c front ih =>
    by_cases slash : c = '/'
    · subst slash
      simp [split, ih]
    · obtain ⟨part, parts, first⟩ := List.exists_cons_of_ne_nil (split_ne_nil front)
      rw [split_cons_of_ne slash first]
      rw [first, List.cons_append] at ih
      rw [List.cons_append, split_cons_of_ne slash ih, List.cons_append]

theorem split_of_plain {chars : List Char} (plain : '/' ∉ chars) : split chars = [chars] := by
  induction chars with
  | nil => rfl
  | cons c chars ih =>
    obtain ⟨different, plain⟩ := not_or.1 (mt List.mem_cons.2 plain)
    exact split_cons_of_ne (Ne.symm different) (ih plain)

/-- The parts of a path that are steps. -/
def parts (chars : List Char) : List (List Char) := (split chars).filter (· ≠ [])

theorem steps_eq_parts (path : String) : steps path = (parts path.toList).map String.ofList := rfl

theorem parts_append_slash (front back : List Char) :
    parts (front ++ '/' :: back) = parts front ++ parts back := by
  rw [parts, split_append_slash, List.filter_append]
  rfl

theorem parts_of_plain {chars : List Char} (plain : '/' ∉ chars) (some : chars ≠ []) :
    parts chars = [chars] := by
  rw [parts, split_of_plain plain]
  simp [some]

/-- A separator at the end of a path leads nowhere. -/
theorem parts_concat_slash (front : List Char) : parts (front ++ ['/']) = parts front := by
  rw [parts_append_slash]
  exact List.append_nil _

/-- A text that the names in it can be put after: there is nothing in it, or a separator at its
end. -/
def Opens (front : List Char) : Prop := front = [] ∨ ∃ folder, front = folder ++ ['/']

theorem Opens.parts_append {front : List Char} (opens : Opens front) (back : List Char) :
    parts (front ++ back) = parts front ++ parts back := by
  rcases opens with rfl | ⟨folder, rfl⟩
  · rfl
  · rw [List.append_assoc, List.singleton_append, parts_append_slash, parts_concat_slash]

theorem trimEnd_suffix (chars : List Char) : trimEnd chars <:+ chars := by
  induction chars using trimEnd.induct with
  | case1 rest none =>
    refine ⟨[], ?_⟩
    rw [trimEnd, if_pos none, List.isEmpty_iff.1 none, List.nil_append]
  | case2 rest some ih =>
    rw [trimEnd, if_neg some]
    exact ih.trans (List.suffix_cons _ _)
  | case3 rest ih =>
    rw [trimEnd]
    exact ih.trans (List.suffix_cons _ _)
  | case4 chars noSlash noDot =>
    refine ⟨[], ?_⟩
    rw [trimEnd.eq_3 chars noSlash noDot, List.nil_append]

/-- What is dropped from the end of a path leads back to where the path without it leads. -/
theorem parts_trimEnd {chars : List Char} (named : (trimEnd chars).head? ≠ some '/') :
    ∃ dots, parts chars.reverse = parts (trimEnd chars).reverse ++ List.replicate dots ['.'] := by
  induction chars using trimEnd.induct with
  | case1 rest none =>
    rw [trimEnd, if_pos none] at named
    exact absurd rfl named
  | case2 rest some ih =>
    rw [trimEnd, if_neg some] at named ⊢
    rw [List.reverse_cons, parts_concat_slash]
    exact ih named
  | case3 rest ih =>
    rw [trimEnd] at named ⊢
    obtain ⟨dots, same⟩ := ih named
    refine ⟨dots + 1, ?_⟩
    rw [List.reverse_cons, parts_concat_slash] at same
    rw [List.reverse_cons, List.reverse_cons, List.append_assoc, List.singleton_append,
      parts_append_slash, same, List.append_assoc, List.replicate_succ']
    rfl
  | case4 chars noSlash noDot =>
    refine ⟨0, ?_⟩
    rw [trimEnd.eq_3 chars noSlash noDot, List.replicate_zero, List.append_nil]

variable {path name : String}

/-- What a last name is: a text without separators, and no reference to a folder. -/
theorem name?_eq_some (named : name? path = some name) :
    name.toList = ((backwards path).takeWhile (· ≠ '/')).reverse ∧
      name ≠ "" ∧ name ≠ "." ∧ name ≠ ".." := by
  simp only [name?] at named
  split at named
  · cases named
  · next proper =>
    cases named
    rw [not_or, not_or] at proper
    exact ⟨String.toList_ofList, proper⟩

theorem name?_plain (named : name? path = some name) : '/' ∉ name.toList := by
  rw [(name?_eq_some named).1, List.mem_reverse]
  intro slash
  simpa using List.all_eq_true.1 List.all_takeWhile _ slash

theorem before_toList (path : String) :
    (before path).toList = ((backwards path).dropWhile (· ≠ '/')).reverse := String.toList_ofList

/-- What a name is in is nothing, or ends with a separator. -/
theorem before_opens (path : String) : Opens (before path).toList := by
  rw [before_toList]
  cases rest : (backwards path).dropWhile (· ≠ '/') with
  | nil => exact .inl rfl
  | cons c folder =>
    have stops := List.head?_dropWhile_not (· ≠ '/') (backwards path)
    rw [rest] at stops
    have slash : c = '/' := by simpa using stops
    exact .inr ⟨folder.reverse, by rw [slash, List.reverse_cons]⟩

theorem backwards_reverse (named : name? path = some name) :
    (backwards path).reverse = (before path).toList ++ name.toList := by
  rw [before_toList, (name?_eq_some named).1, ← List.reverse_append,
    List.takeWhile_append_dropWhile]

theorem name?_ne_nil (named : name? path = some name) : name.toList ≠ [] := by
  simpa using (name?_eq_some named).2.1

/-- A name stands last in what it is the last name of. -/
theorem backwards_head (named : name? path = some name) : (backwards path).head? ≠ some '/' := by
  intro slash
  obtain ⟨rest, shape⟩ := List.head?_eq_some_iff.1 slash
  have chars := (name?_eq_some named).1
  rw [shape] at chars
  exact name?_ne_nil named chars

/-- A path leads through what its folders are, to a name, and then stays there. -/
structure Names (path folder name : String) : Prop where
  start : isAbsolute path = isAbsolute folder
  steps : ∃ dots, steps path = Path.steps folder ++ name :: List.replicate dots "."
  proper : name ≠ "." ∧ name ≠ ".."

theorem isAbsolute_append {front back : String} (plain : '/' ∉ back.toList) :
    isAbsolute (front ++ back) = isAbsolute front := by
  rw [isAbsolute, isAbsolute, String.toList_append]
  cases front.toList with
  | nil =>
    cases chars : back.toList with
    | nil => rfl
    | cons c rest =>
      have different : c ≠ '/' := fun same => plain (by simp [chars, same])
      simp [different]
  | cons c rest => rfl

theorem names_of_named (named : name? path = some name) : Names path (before path) name where
  start := by
    obtain ⟨tail, whole⟩ := List.reverse_prefix.2 (trimEnd_suffix path.toList.reverse)
    have trimmed : (trimEnd path.toList.reverse).reverse = (before path ++ name).toList := by
      rw [String.toList_append]
      exact backwards_reverse named
    rw [trimmed, List.reverse_reverse] at whole
    have same : isAbsolute path = isAbsolute (before path ++ name) := by
      have some : (before path ++ name).toList ≠ [] := by simp [name?_ne_nil named]
      obtain ⟨c, rest, first⟩ := List.exists_cons_of_ne_nil some
      rw [isAbsolute, isAbsolute, ← whole, first]
      rfl
    exact same.trans (isAbsolute_append (name?_plain named))
  steps := by
    obtain ⟨dots, same⟩ := parts_trimEnd (backwards_head named)
    have trimmed : (trimEnd path.toList.reverse).reverse = (before path).toList ++ name.toList :=
      backwards_reverse named
    refine ⟨dots, ?_⟩
    rw [List.reverse_reverse] at same
    rw [steps_eq_parts, same, trimmed, (before_opens path).parts_append,
      parts_of_plain (name?_plain named) (name?_ne_nil named), steps_eq_parts]
    simp
  proper := (name?_eq_some named).2.2

theorem splitName_subset (name : String) : (splitName name).1.toList ⊆ name.toList := by
  have whole := List.takeWhile_append_dropWhile (p := (· ≠ '.')) (l := name.toList.reverse)
  unfold splitName
  dsimp only
  split
  · next stem rest =>
    split
    · exact List.Subset.refl _
    · intro c mem
      rw [String.toList_ofList, List.mem_reverse] at mem
      rw [← List.mem_reverse, ← whole, rest]
      exact List.mem_append_right _ (List.mem_cons_of_mem _ mem)
  · exact List.Subset.refl _

end Path

namespace FileStore

/-- The name of the temporary file. -/
def temporaryName (name : String) : String := (Path.splitName name).1 ++ ".json.tmp"

variable {path name : String}

theorem temporary_eq (named : Path.name? path = some name) :
    temporary path = Path.before path ++ temporaryName name := by
  rw [temporary, Path.withExtension, named]
  simp [temporaryName, String.append_assoc]

theorem temporaryName_ne (name : String) : temporaryName name ≠ name := by
  intro same
  have longer : ∀ stem, (Path.splitName (stem ++ ".json.tmp")).1 = stem ++ ".json" := by
    intro stem
    simp [Path.splitName]
  have split : (Path.splitName name).1 = (Path.splitName name).1 ++ ".json" := by
    rw [← longer]
    exact congrArg (fun name => (Path.splitName name).1) same.symm
  have lengths := congrArg String.length split
  simp at lengths

theorem temporaryName_plain (named : Path.name? path = some name) :
    '/' ∉ (temporaryName name).toList := by
  rw [temporaryName, String.toList_append, List.mem_append, not_or]
  exact ⟨fun mem => Path.name?_plain named (Path.splitName_subset name mem), by decide⟩

/-- The temporary file is in the same folder. -/
theorem names_temporary (named : Path.name? path = some name) :
    Path.Names (temporary path) (Path.before path) (temporaryName name) where
  start := by
    rw [temporary_eq named, Path.isAbsolute_append (temporaryName_plain named)]
  steps := by
    have some : (temporaryName name).toList ≠ [] := by simp [temporaryName]
    refine ⟨0, ?_⟩
    rw [temporary_eq named, Path.steps_eq_parts, String.toList_append,
      (Path.before_opens path).parts_append, Path.parts_of_plain (temporaryName_plain named) some,
      Path.steps_eq_parts]
    simp
  proper := by
    have letter : 'j' ∈ (temporaryName name).toList := by simp [temporaryName]
    refine ⟨fun same => ?_, fun same => ?_⟩
    all_goals
      rw [same] at letter
      revert letter
      decide

/-- The temporary file of a path with a name is another file. -/
theorem temporary_ne (named : Path.name? path = some name) : temporary path ≠ path := by
  intro same
  obtain ⟨dots, leads⟩ := (Path.names_of_named named).steps
  obtain ⟨others, leadsToo⟩ := (names_temporary named).steps
  rw [same, leads, List.append_cancel_left_eq, List.cons.injEq] at leadsToo
  exact temporaryName_ne name leadsToo.1.symm

end FileStore

end SmartCollections
