import SmartCollections.Proofs.Alignment
import SmartCollections.Proofs.Lexing

/-!
# Which words are corrected

A word becomes a keyword exactly if it was meant for one: in upper case it is listed as a synonym,
or it is long enough and at most one edit away. The five keywords are so far apart that no word is
meant for two of them. Upper case makes a sign of nothing but that sign.
-/

namespace SmartCollections

namespace Text

/-- A sign that operators are made of. -/
def isSign (c : Char) : Bool := c == '&' || c == '|'

theorem upperShifts_sign : ∀ row ∈ upperShifts,
    128 ≤ row.first + row.offset ∨ 38 < row.first + row.offset ∧ row.last + row.offset < 124 := by
  decide +kernel

theorem upperExpansions_sign : ∀ row ∈ upperExpansions,
    row.2 ≠ [] ∧ ∀ code ∈ row.2, isSign (.ofNat code) = false := by
  decide +kernel

theorem toUpper_sign : ∀ code < 128, isSign (Char.ofNat code).toUpper = true →
    (Char.ofNat code).toUpper = Char.ofNat code := by
  decide

theorem upperOf_sign {d : Char} (sign : isSign d = true) : upperOf d = [d] := by
  simp only [isSign, Bool.or_eq_true, beq_iff_eq] at sign
  rcases sign with rfl | rfl <;> rfl

theorem eq_toNat_of_ofNat {code : Nat} {c : Char} (same : Char.ofNat code = c)
    (some : c.toNat ≠ 0) : code = c.toNat := by
  by_cases valid : code.isValidChar
  · have read : Char.ofNat code = Char.ofNatAux code valid := dif_pos valid
    rw [← same, read]
    rfl
  · have read : Char.ofNat code = '\x00' := dif_neg valid
    rw [← same, read] at some
    exact absurd rfl some

theorem isSign_ofNat {code : Nat} (sign : isSign (.ofNat code) = true) :
    code = 38 ∨ code = 124 := by
  simp only [isSign, Bool.or_eq_true, beq_iff_eq] at sign
  exact sign.imp (eq_toNat_of_ofNat · (by decide)) (eq_toNat_of_ofNat · (by decide))

theorem isSign_shifted {c : Char} {code : Nat} (shifted : Shift.find? upperShifts c = some code) :
    isSign (.ofNat code) = false := by
  obtain ⟨row, found, rfl⟩ := Option.map_eq_some_iff.1 shifted
  have bounds := List.find?_some found
  simp only [Bool.and_eq_true, decide_eq_true_eq] at bounds
  have row_bounds := upperShifts_sign row (List.mem_of_find?_eq_some found)
  refine Bool.eq_false_iff.2 fun sign => ?_
  have := isSign_ofNat sign
  omega

theorem mem_of_expansion? {table : List (Nat × List Nat)} {c : Char} {form : List Char}
    (expanded : expansion? table c = some form) :
    ∃ row ∈ table, row.2.map Char.ofNat = form := by
  obtain ⟨codes, found, rfl⟩ := Option.map_eq_some_iff.1 expanded
  obtain ⟨before, after, rfl, _⟩ := List.lookup_eq_some_iff.1 found
  exact ⟨_, List.mem_append_right _ List.mem_cons_self, rfl⟩

/-- No other character becomes a sign. -/
theorem mem_upperOf_sign {c d : Char} (sign : isSign d = true) (mem : d ∈ upperOf c) : c = d := by
  unfold upperOf at mem
  split at mem
  · next ascii =>
    obtain rfl := List.mem_singleton.1 mem
    have same := toUpper_sign c.toNat ascii
    rw [Char.ofNat_toNat] at same
    exact (same sign).symm
  · split at mem
    · next form expanded =>
      obtain ⟨row, rowMem, rfl⟩ := mem_of_expansion? expanded
      obtain ⟨code, codeMem, rfl⟩ := List.mem_map.1 mem
      rw [(upperExpansions_sign row rowMem).2 code codeMem] at sign
      cases sign
    · obtain rfl := List.mem_singleton.1 mem
      cases shifted : Shift.find? upperShifts c with
      | none => rfl
      | some code =>
        rw [shifted, Option.map_some, Option.getD_some, isSign_shifted shifted] at sign
        cases sign

theorem upperOf_ne_nil (c : Char) : upperOf c ≠ [] := by
  unfold upperOf
  split
  · exact List.cons_ne_nil _ _
  · split
    · next form expanded =>
      obtain ⟨row, rowMem, rfl⟩ := mem_of_expansion? expanded
      exact fun none => (upperExpansions_sign row rowMem).1 (List.map_eq_nil_iff.1 none)
    · exact List.cons_ne_nil _ _

/-- Only a pair of signs is a pair of signs in upper case. -/
theorem upper_eq_signs_iff {d : Char} (sign : isSign d = true) (text : List Char) :
    upper text = [d, d] ↔ text = [d, d] := by
  constructor
  · intro signs
    have each : ∀ c ∈ text, upperOf c = [c] := by
      intro c mem
      obtain ⟨e, first⟩ := List.exists_mem_of_ne_nil _ (upperOf_ne_nil c)
      have among : e ∈ upper text := List.mem_flatMap.2 ⟨c, mem, first⟩
      obtain rfl : e = d := by simpa [signs] using among
      obtain rfl := mem_upperOf_sign sign first
      exact upperOf_sign sign
    have same : upper text = text.flatMap fun c => [c] := List.flatMap_congr each
    rwa [same, List.flatMap_singleton'] at signs
  · rintro rfl
    simp [upper, upperOf_sign sign]

end Text

open Text

/-- Keywords differ by more than two edits. -/
theorem keywords_apart : ∀ field ∈ Field.all, ∀ other ∈ Field.all, field ≠ other →
    2 < (field.keyword.toList.diff other.keyword.toList).length ∨
      2 < (other.keyword.toList.diff field.keyword.toList).length := by
  decide

theorem Field.mem_all (field : Field) : field ∈ Field.all := by cases field <;> decide

/-- No word is a misspelling of two keywords. -/
theorem keyword_unique {word : List Char} {field other : Field}
    (near : editDistance word field.keyword.toList ≤ 1)
    (nearToo : editDistance word other.keyword.toList ≤ 1) : field = other := by
  by_contra differ
  have forth := length_diff_le near nearToo
  have back := length_diff_le nearToo near
  rcases keywords_apart field field.mem_all other other.mem_all differ with far | far <;> omega

/-- The fields whose keywords are at most one edit away: there is one at most. -/
theorem candidates_eq {word : List Char} {field : Field}
    (near : editDistance word field.keyword.toList ≤ 1) :
    (Field.all.filter fun other => editDistance word other.keyword.toList ≤ 1) = [field] := by
  have single : ∀ other ∈ Field.all,
      decide (editDistance word other.keyword.toList ≤ 1) = decide (other = field) :=
    fun other _ => decide_eq_decide.2
      ⟨fun nearToo => keyword_unique nearToo near, fun same => same ▸ near⟩
  rw [List.filter_congr single]
  cases field <;> rfl

theorem misspelt?_eq_some_iff {word : List Char} {field : Field} :
    misspelt? word = some field ↔ editDistance word field.keyword.toList ≤ 1 := by
  constructor
  · intro found
    unfold misspelt? at found
    split at found
    · next other candidates =>
      obtain rfl := Option.some.inj found
      have mem := List.mem_cons_self (a := other) (l := [])
      rw [← candidates] at mem
      exact of_decide_eq_true (List.mem_filter.1 mem).2
    · cases found
  · intro near
    rw [misspelt?, candidates_eq near]

theorem candidates_length_le (word : List Char) :
    (Field.all.filter fun field => editDistance word field.keyword.toList ≤ 1).length ≤ 1 := by
  cases candidates : Field.all.filter fun field => editDistance word field.keyword.toList ≤ 1 with
  | nil => exact Nat.zero_le 1
  | cons field rest =>
    have mem : field ∈ Field.all.filter fun field =>
        editDistance word field.keyword.toList ≤ 1 := by
      rw [candidates]
      exact List.mem_cons_self
    rw [← candidates, candidates_eq (of_decide_eq_true (List.mem_filter.1 mem).2)]
    exact Nat.le_refl 1

/-- What makes a word stand for a field: in upper case it is one of the synonyms, or it has five
characters or more and is the keyword or one edit away from it. -/
def MeantFor (field : Field) (word : String) : Prop :=
  (String.ofList (upper word.toList), field) ∈ synonyms ∨
    minCorrectedLength ≤ (upper word.toList).length ∧
      (upper word.toList = field.keyword.toList ∨ OneEdit (upper word.toList) field.keyword.toList)

theorem lookup_synonyms : ∀ entry ∈ synonyms, synonyms.lookup entry.1 = some entry.2 := by decide

/-- A synonym that is near a keyword is one of the same field. -/
theorem synonyms_near : ∀ entry ∈ synonyms, ∀ field ∈ Field.all,
    editDistance entry.1.toList field.keyword.toList ≤ 1 → entry.2 = field := by
  decide

theorem lookup_synonyms_iff {word : String} {field : Field} :
    synonyms.lookup word = some field ↔ (word, field) ∈ synonyms := by
  constructor
  · intro found
    obtain ⟨before, after, split, _⟩ := List.lookup_eq_some_iff.1 found
    rw [split]
    exact List.mem_append_right _ List.mem_cons_self
  · exact fun mem => lookup_synonyms (word, field) mem

theorem meantFor_iff {field : Field} {word : String} : MeantFor field word ↔
    synonyms.lookup (String.ofList (upper word.toList)) = some field ∨
      minCorrectedLength ≤ (upper word.toList).length ∧
        misspelt? (upper word.toList) = some field := by
  rw [MeantFor, lookup_synonyms_iff, misspelt?_eq_some_iff, editDistance_le_one_iff]

/-- No word is meant for two fields. -/
theorem MeantFor.unique {field other : Field} {word : String} (meant : MeantFor field word)
    (meantToo : MeantFor other word) : field = other := by
  have mixed {field other : Field}
      (listed : (String.ofList (upper word.toList), field) ∈ synonyms)
      (near : upper word.toList = other.keyword.toList ∨
        OneEdit (upper word.toList) other.keyword.toList) : field = other := by
    refine synonyms_near _ listed other other.mem_all ?_
    rw [String.toList_ofList]
    exact (editDistance_le_one_iff _ _).2 near
  rcases meant with listed | ⟨_, near⟩ <;> rcases meantToo with listedToo | ⟨_, nearToo⟩
  · have found := lookup_synonyms _ listed
    rw [lookup_synonyms _ listedToo] at found
    exact (Option.some.inj found).symm
  · exact mixed listed nearToo
  · exact (mixed listedToo near).symm
  · exact keyword_unique ((editDistance_le_one_iff _ _).2 near)
      ((editDistance_le_one_iff _ _).2 nearToo)

/-- The field that a word was meant for. -/
def meant? (word : String) : Option Field :=
  (synonyms.lookup (String.ofList (upper word.toList))).or
    (if minCorrectedLength ≤ (upper word.toList).length then misspelt? (upper word.toList)
      else none)

theorem meant?_eq_some_iff {word : String} {field : Field} :
    meant? word = some field ↔ MeantFor field word := by
  have near_iff : (if minCorrectedLength ≤ (upper word.toList).length then
      misspelt? (upper word.toList) else none) = some field ↔
      minCorrectedLength ≤ (upper word.toList).length ∧
        misspelt? (upper word.toList) = some field := by
    split <;> simp_all
  rw [meant?, Option.or_eq_some_iff, near_iff]
  constructor
  · rintro (listed | ⟨_, near⟩)
    · exact meantFor_iff.2 (.inl listed)
    · exact meantFor_iff.2 (.inr near)
  · intro meant
    cases listed : synonyms.lookup (String.ofList (upper word.toList)) with
    | some other =>
      have known : MeantFor other word := meantFor_iff.2 (.inl listed)
      exact .inl (congrArg some (known.unique meant))
    | none =>
      rw [meantFor_iff, listed] at meant
      exact .inr ⟨rfl, meant.resolve_left nofun⟩

theorem upper_eq_and_iff (word : String) : upper word.toList = ['&', '&'] ↔ word = "&&" :=
  (upper_eq_signs_iff rfl _).trans (@String.toList_inj word "&&")

theorem upper_eq_or_iff (word : String) : upper word.toList = ['|', '|'] ↔ word = "||" :=
  (upper_eq_signs_iff rfl _).trans (@String.toList_inj word "||")

/-- A pair of signs is no synonym, and too short for a misspelling. -/
theorem not_meantFor_signs {word : String} (signs : word = "&&" ∨ word = "||") (field : Field) :
    ¬ MeantFor field word := by
  have noSynonym : ∀ entry ∈ synonyms, entry.1 ≠ "&&" ∧ entry.1 ≠ "||" := by decide
  rintro (listed | ⟨long, _⟩)
  · have apart := noSynonym _ listed
    rcases signs with rfl | rfl
    · exact apart.1 rfl
    · exact apart.2 rfl
  · rcases signs with rfl | rfl <;> exact absurd long (by decide)

theorem correct?_eq (word : String) : correct? word =
    if word = "&&" then some .and else if word = "||" then some .or
      else (meant? word).map .field := by
  unfold correct?
  simp only [upper_eq_and_iff, upper_eq_or_iff, meant?]
  split
  · rfl
  · split
    · rfl
    · split
      · next field listed => rw [listed]; rfl
      · next unlisted =>
        rw [unlisted, Option.none_or]
        split <;> rfl

theorem correct?_and_iff (word : String) : correct? word = some .and ↔ word = "&&" := by
  rw [correct?_eq]
  split
  · next signs => exact iff_of_true rfl signs
  · next noSigns => split <;> simp [noSigns]

theorem correct?_or_iff (word : String) : correct? word = some .or ↔ word = "||" := by
  rw [correct?_eq]
  split
  · next signs => simp [signs]
  · split <;> simp_all

theorem correct?_field_iff (word : String) (field : Field) :
    correct? word = some (.field field) ↔ MeantFor field word := by
  rw [correct?_eq]
  split
  · next signs => simp [not_meantFor_signs (.inl signs)]
  · split
    · next signs => simp [not_meantFor_signs (.inr signs)]
    · rw [← meant?_eq_some_iff]
      cases meant? word <;> simp

theorem correct?_eq_none_iff (word : String) : correct? word = none ↔
    word ≠ "&&" ∧ word ≠ "||" ∧ ∀ field, ¬ MeantFor field word := by
  rw [Ne, Ne, ← correct?_and_iff, ← correct?_or_iff]
  simp only [← correct?_field_iff]
  constructor
  · intro none
    simp [none]
  · rintro ⟨noAnd, noOr, noField⟩
    refine Option.eq_none_iff_forall_ne_some.2 fun kind corrected => ?_
    rcases correct?_cases corrected with rfl | rfl | ⟨field, rfl⟩
    · exact noAnd corrected
    · exact noOr corrected
    · exact noField field corrected

/-- A word is left alone if it is not corrected to anything else. -/
theorem corrected_eq_self_iff (word : String) :
    (∀ span, (⟨.word word, span⟩ : Token).corrected = ⟨.word word, span⟩) ↔
      correct? word = none := by
  constructor
  · intro alone
    have kind : (correct? word).getD (.word word) = .word word :=
      congrArg Token.kind (alone ⟨0, 0⟩)
    refine Option.eq_none_iff_forall_ne_some.2 fun other corrected => ?_
    rw [corrected, Option.getD_some] at kind
    rcases correct?_cases corrected with rfl | rfl | ⟨field, rfl⟩ <;> cases kind
  · intro none span
    simp [Token.corrected, none]

/-- The edit distance is the one of optimal string alignment, and one at most where there is a
single edit or none. So a word is corrected to a keyword exactly if it was meant for it, which it is
for one keyword at most, only a pair of signs is corrected to an operator, and every other word is
left alone. -/
theorem corrections_exact :
    (∀ source target : List Char,
      editDistance source target = alignmentDistance source target ∧
        (editDistance source target ≤ 1 ↔ source = target ∨ OneEdit source target)) ∧
    ∀ word : String,
      (∀ field, correct? word = some (.field field) ↔ MeantFor field word) ∧
      (∀ field other, MeantFor field word → MeantFor other word → field = other) ∧
      (Field.all.filter fun field =>
        editDistance (upper word.toList) field.keyword.toList ≤ 1).length ≤ 1 ∧
      (correct? word = some .and ↔ word = "&&") ∧
      (correct? word = some .or ↔ word = "||") ∧
      ((∀ span, (⟨.word word, span⟩ : Token).corrected = ⟨.word word, span⟩) ↔
        word ≠ "&&" ∧ word ≠ "||" ∧ ∀ field, ¬ MeantFor field word) := by
  refine ⟨fun source target =>
      ⟨editDistance_eq source target, editDistance_le_one_iff source target⟩,
    fun word => ⟨correct?_field_iff word, fun _ _ => MeantFor.unique, candidates_length_le _,
      correct?_and_iff word, correct?_or_iff word, ?_⟩⟩
  rw [corrected_eq_self_iff, correct?_eq_none_iff]

end SmartCollections
