import SmartCollections.Proofs.Difference

/-!
# Matches with and without regard to case

Lower case is taken of whole texts, and a capital sigma looks beyond a text that it is part of. A
text may so be lowered in one way by itself and in another where it occurs. Texts to which this
cannot happen are steady: what they match with regard to case, they match without.
-/

namespace SmartCollections.Text

/-- Reading away from a sigma, whether the first character that is not passed over is a letter with
case. There may be no such character. -/
def near? (text : List Char) : Option Bool :=
  (text.find? fun c => !isCaseIgnorable c).map isCasedLetter

theorem meetsLetter_cons (c : Char) (text : List Char) :
    meetsLetter (c :: text) = if isCaseIgnorable c then meetsLetter text else isCasedLetter c := by
  cases passed : isCaseIgnorable c <;> simp [meetsLetter, passed]

theorem near?_cons (c : Char) (text : List Char) :
    near? (c :: text) = if isCaseIgnorable c then near? text else some (isCasedLetter c) := by
  cases passed : isCaseIgnorable c <;> simp [near?, passed]

/-- What is beyond a text counts if all of the text is passed over. -/
theorem meetsLetter_append (text beyond : List Char) :
    meetsLetter (text ++ beyond) = (near? text).getD (meetsLetter beyond) := by
  induction text with
  | nil => rfl
  | cons c text ih =>
    rw [List.cons_append, meetsLetter_cons, near?_cons, ih]
    split <;> rfl

theorem meetsLetter_eq (text : List Char) : meetsLetter text = (near? text).getD false := by
  have alone := meetsLetter_append text []
  rwa [List.append_nil] at alone

/-- What becomes of a part of a text in lower case, given the reversed text before it and the text
after it. -/
def lowerAmid (before : List Char) : List Char → List Char → List Char
  | [], _ => []
  | c :: rest, after => lowerBetween before c (rest ++ after) ++ lowerAmid (c :: before) rest after

theorem lowerOnto_eq (done before text : List Char) :
    lowerOnto done before text = done.reverse ++ lowerAmid before text [] := by
  induction text generalizing done before with
  | nil => simp [lowerOnto, lowerAmid]
  | cons c text ih => simp [lowerOnto, lowerAmid, ih]

theorem lower_eq (text : List Char) : lower text = lowerAmid [] text [] := lowerOnto_eq [] [] text

theorem lowerAmid_append (before first second after : List Char) :
    lowerAmid before (first ++ second) after =
      lowerAmid before first (second ++ after) ++
        lowerAmid (first.reverse ++ before) second after := by
  induction first generalizing before with
  | nil => rfl
  | cons c first ih => simp [lowerAmid, ih]

/-- The part of a lowered text that a part of the text becomes. -/
theorem lowerAmid_infix (before text after : List Char) :
    lowerAmid before.reverse text after <:+: lower (before ++ text ++ after) := by
  refine ⟨lowerAmid [] before (text ++ after),
    lowerAmid (text.reverse ++ before.reverse) after [], ?_⟩
  rw [lower_eq, List.append_assoc before, lowerAmid_append [] before, lowerAmid_append _ text]
  simp

/-- What there is before and after a capital sigma, within a text, decides how it is lowered. -/
def settled (before after : List Char) : Bool :=
  near? before = some false || near? after = some true ||
    (near? before = some true && near? after = some false)

theorem lowerBetween_settled {before after : List Char} (known : settled before after)
    (further beyond : List Char) :
    lowerBetween (before ++ further) 'Σ' (after ++ beyond) = lowerBetween before 'Σ' after := by
  simp only [lowerBetween, if_true, meetsLetter_append, meetsLetter_eq before,
    meetsLetter_eq after]
  simp only [settled, Bool.or_eq_true, Bool.and_eq_true, decide_eq_true_eq] at known
  rcases known with (left | right) | ⟨left, right⟩
  · simp [left]
  · simp [right]
  · simp [left, right]

/-- Each capital sigma of a text is settled, given the reversed text before it. -/
def steadyAmid (before : List Char) : List Char → Bool
  | [] => true
  | c :: rest => (c != 'Σ' || settled before rest) && steadyAmid (c :: before) rest

/-- A text is lowered in the same way wherever it occurs. -/
def steady (text : List Char) : Bool := steadyAmid [] text

theorem lowerAmid_steady {before text : List Char} (known : steadyAmid before text)
    (further beyond : List Char) :
    lowerAmid (before ++ further) text beyond = lowerAmid before text [] := by
  induction text generalizing before with
  | nil => rfl
  | cons c rest ih =>
    simp only [steadyAmid, Bool.and_eq_true] at known
    have first : lowerBetween (before ++ further) c (rest ++ beyond) =
        lowerBetween before c rest := by
      by_cases sigma : c = 'Σ'
      · subst sigma
        exact lowerBetween_settled (by simpa using known.1) further beyond
      · simp [lowerBetween, sigma]
    simp only [lowerAmid, List.append_nil, first]
    rw [← ih known.2, List.cons_append]

theorem exists_unsettled {before text : List Char} (unknown : steadyAmid before text = false) :
    ∃ first rest, text = first ++ 'Σ' :: rest ∧ settled (first.reverse ++ before) rest = false := by
  induction text generalizing before with
  | nil => cases unknown
  | cons c text ih =>
    simp only [steadyAmid, Bool.and_eq_false_iff, Bool.or_eq_false_iff] at unknown
    rcases unknown with ⟨sigma, here⟩ | later
    · refine ⟨[], text, ?_, here⟩
      simpa using sigma
    · obtain ⟨first, rest, rfl, there⟩ := ih later
      exact ⟨c :: first, rest, rfl, by simpa using there⟩

/-- Where no sigma takes a form by its new surroundings, the form is not found more often. A letter
on the open side of an unsettled sigma changes its form, and no other sigma changes into the form
that is lost: so the lowered text cannot occur in the lowered longer text. -/
theorem count_lowerAmid_le {form : Char} {further beyond : List Char}
    (fewer : ∀ before after,
      (lowerBetween (before ++ further) 'Σ' (after ++ beyond)).count form ≤
        (lowerBetween before 'Σ' after).count form)
    (before text after : List Char) :
    (lowerAmid (before ++ further) text (after ++ beyond)).count form ≤
      (lowerAmid before text after).count form := by
  induction text generalizing before with
  | nil => exact Nat.le_refl _
  | cons c rest ih =>
    have first : (lowerBetween (before ++ further) c (rest ++ (after ++ beyond))).count form ≤
        (lowerBetween before c (rest ++ after)).count form := by
      by_cases sigma : c = 'Σ'
      · subst sigma
        rw [← List.append_assoc]
        exact fewer before (rest ++ after)
      · simp [lowerBetween, sigma]
    simp only [lowerAmid, List.count_append]
    exact Nat.add_le_add first (ih (c :: before))

/-- Where a sigma loses the form, it is found less often. -/
theorem count_lowerAmid_lt {form : Char} {further beyond first rest : List Char}
    (fewer : ∀ before after,
      (lowerBetween (before ++ further) 'Σ' (after ++ beyond)).count form ≤
        (lowerBetween before 'Σ' after).count form)
    (lost : (lowerBetween (first.reverse ++ further) 'Σ' (rest ++ beyond)).count form <
      (lowerBetween first.reverse 'Σ' rest).count form) :
    (lowerAmid further (first ++ 'Σ' :: rest) beyond).count form <
      (lower (first ++ 'Σ' :: rest)).count form := by
  have before := count_lowerAmid_le fewer [] first ('Σ' :: rest)
  have after := count_lowerAmid_le fewer ('Σ' :: first.reverse) rest []
  rw [lower_eq, lowerAmid_append, lowerAmid_append]
  simp only [lowerAmid, List.count_append, List.append_nil, List.nil_append,
    List.cons_append] at before after ⊢
  omega

theorem meetsLetter_a : meetsLetter ['a'] = true := by decide +kernel

theorem lowerBetween_a (before after : List Char) : lowerBetween before 'a' after = ['a'] := by
  rw [lowerBetween, if_neg (by decide)]
  rfl

/-- A letter put in front of a text makes a sigma final that had no letter before it. -/
theorem not_infix_behind_letter {first rest : List Char} (before : near? first.reverse = none)
    (after : near? rest ≠ some true) :
    ¬ lower (first ++ 'Σ' :: rest) <:+: lower ('a' :: (first ++ 'Σ' :: rest)) := by
  intro occurs
  have fewer : ∀ before after,
      (lowerBetween (before ++ ['a']) 'Σ' (after ++ [])).count 'σ' ≤
        (lowerBetween before 'Σ' after).count 'σ' := by
    intro before after
    simp only [lowerBetween, if_true, meetsLetter_append, meetsLetter_a, List.append_nil,
      meetsLetter_eq before]
    cases near? before <;> cases meetsLetter after <;> simp
  have alone : meetsLetter rest = false := by
    rw [meetsLetter_eq]
    cases met : near? rest with
    | none => rfl
    | some cased => cases cased <;> simp_all
  have lost : (lowerBetween (first.reverse ++ ['a']) 'Σ' (rest ++ [])).count 'σ' <
      (lowerBetween first.reverse 'Σ' rest).count 'σ' := by
    simp only [lowerBetween, if_true, meetsLetter_append, meetsLetter_a, List.append_nil,
      meetsLetter_eq first.reverse, before, alone]
    decide
  have counts := count_lowerAmid_lt fewer lost
  have found := occurs.sublist.count_le 'σ'
  have same : (lower ('a' :: (first ++ 'Σ' :: rest))).count 'σ' =
      (lowerAmid ['a'] (first ++ 'Σ' :: rest) []).count 'σ' := by
    rw [lower_eq, lowerAmid, lowerBetween_a, List.count_append]
    exact Nat.zero_add _
  omega

/-- A letter put behind a text makes a sigma that was final one that is not. -/
theorem not_infix_before_letter {first rest : List Char}
    (before : near? first.reverse = some true) (after : near? rest = none) :
    ¬ lower (first ++ 'Σ' :: rest) <:+: lower (first ++ 'Σ' :: rest ++ ['a']) := by
  intro occurs
  have fewer : ∀ before after,
      (lowerBetween (before ++ []) 'Σ' (after ++ ['a'])).count 'ς' ≤
        (lowerBetween before 'Σ' after).count 'ς' := by
    intro before after
    simp only [lowerBetween, if_true, meetsLetter_append, meetsLetter_a, List.append_nil,
      meetsLetter_eq after]
    cases near? after <;> cases meetsLetter before <;> simp
  have lost : (lowerBetween (first.reverse ++ []) 'Σ' (rest ++ ['a'])).count 'ς' <
      (lowerBetween first.reverse 'Σ' rest).count 'ς' := by
    simp only [lowerBetween, if_true, List.append_nil, meetsLetter_append, meetsLetter_a,
      meetsLetter_eq first.reverse, meetsLetter_eq rest, before, after]
    decide
  have counts := count_lowerAmid_lt fewer lost
  have found := occurs.sublist.count_le 'ς'
  have same : (lower (first ++ 'Σ' :: rest ++ ['a'])).count 'ς' =
      (lowerAmid [] (first ++ 'Σ' :: rest) ['a']).count 'ς' := by
    rw [lower_eq, lowerAmid_append, lowerAmid, lowerAmid, lowerBetween_a, List.count_append]
    rfl
  omega

/-- Steady texts, and only those, occur in lower case wherever they occur. -/
theorem steady_iff (text : List Char) :
    steady text ↔ ∀ hay, text <:+: hay → lower text <:+: lower hay := by
  constructor
  · rintro known hay ⟨before, after, rfl⟩
    have same := lowerAmid_steady known before.reverse after
    rw [List.nil_append] at same
    rw [lower_eq text, ← same]
    exact lowerAmid_infix before text after
  · intro occurs
    refine eq_true_of_ne_false fun unknown => ?_
    obtain ⟨first, rest, rfl, unsettled⟩ := exists_unsettled unknown
    rw [List.append_nil] at unsettled
    have behind := occurs ('a' :: (first ++ 'Σ' :: rest)) (List.suffix_cons ..).isInfix
    have ahead := occurs (first ++ 'Σ' :: rest ++ ['a']) (List.prefix_append ..).isInfix
    simp only [settled, Bool.or_eq_false_iff, Bool.and_eq_false_iff, decide_eq_false_iff_not]
      at unsettled
    obtain ⟨⟨notFalse, notTrue⟩, open'⟩ := unsettled
    cases before : near? first.reverse with
    | none => exact not_infix_behind_letter before notTrue behind
    | some cased =>
      have letter : cased = true := by
        cases cased <;> simp_all
      have none : near? rest = none := by
        cases after : near? rest with
        | none => rfl
        | some met => cases met <;> simp_all
      exact not_infix_before_letter (before.trans (congrArg some letter)) none ahead

example : steady "Σ".toList = false ∧ steady "ΑΣ ΕΣΤΙ".toList = true := by decide +kernel

end SmartCollections.Text

namespace SmartCollections

open Text

/-- What the field matches of a predicate look for. -/
def Predicate.texts : Predicate → List String
  | contains _ text => [text]
  | and left right => left.texts ++ right.texts
  | or left right => left.texts ++ right.texts

/-- Steady texts are the ones found without regard to case in every value they are found in. -/
theorem steady_iff_valueContains (text : String) :
    steady text.toList ↔
      ∀ value, valueContains true text value → valueContains false text value := by
  simp only [steady_iff, valueContains, if_true, Bool.false_eq_true, if_false, occursIn_iff]
  refine ⟨fun kept value => kept value.toList, fun kept hay occurs => ?_⟩
  have value := kept (String.ofList hay)
  rw [String.toList_ofList] at value
  exact value occurs

namespace Predicate

theorem eval_steady {predicate : Predicate} (known : ∀ text ∈ predicate.texts, steady text.toList)
    {item : Item} (holds : predicate.eval true item) : predicate.eval false item := by
  induction predicate with
  | contains field text =>
    simp only [eval, Field.contains, List.any_eq_true] at holds ⊢
    obtain ⟨value, mem, found⟩ := holds
    have textKnown := known text (List.mem_singleton_self _)
    exact ⟨value, mem, (steady_iff_valueContains text).1 textKnown value found⟩
  | and left right ihLeft ihRight =>
    simp only [texts, List.forall_mem_append, eval, Bool.and_eq_true] at known holds ⊢
    exact ⟨ihLeft known.1 holds.1, ihRight known.2 holds.2⟩
  | or left right ihLeft ihRight =>
    simp only [texts, List.forall_mem_append, eval, Bool.or_eq_true] at known holds ⊢
    exact holds.imp (ihLeft known.1) (ihRight known.2)

theorem eval_titled (caseSensitive : Bool) (text id title : String) :
    (contains .title text).eval caseSensitive (.titled id title) =
      valueContains caseSensitive text title := by
  simp [eval, Field.contains, Field.values, Item.titled]

/-- Over texts that are steady, and over no others, every predicate that an item satisfies with
regard to case is one that it satisfies without, and a rule that gives up the regard to case keeps
every item of every catalog. -/
theorem steady_texts_iff (vocabulary : List String) :
    ((∀ text ∈ vocabulary, steady text.toList) ↔
      ∀ predicate : Predicate, predicate.texts ⊆ vocabulary →
        ∀ item, predicate.eval true item → predicate.eval false item) ∧
    ((∀ text ∈ vocabulary, steady text.toList) ↔
      ∀ rule : CompiledRule, (∀ predicate ∈ rule.predicate, predicate.texts ⊆ vocabulary) →
        ∀ catalog, ∀ id ∈ desiredMembers [{ rule with caseSensitive := true }] catalog,
          id ∈ desiredMembers [{ rule with caseSensitive := false }] catalog) := by
  refine ⟨⟨fun known predicate among item => ?_, fun kept text mem => ?_⟩,
    ⟨fun known rule among catalog id => ?_, fun kept text mem => ?_⟩⟩
  · exact eval_steady fun text mem => known text (among mem)
  · refine (steady_iff_valueContains text).2 fun title => ?_
    have item := kept (.contains .title text) (by simpa [texts] using mem) (.titled "" title)
    rwa [eval_titled, eval_titled] at item
  · simp only [mem_desiredMembers, List.mem_singleton, exists_eq_left]
    rintro ⟨item, listed, selected, named⟩
    refine ⟨item, listed, ?_, named⟩
    cases inert : rule.predicate with
    | none => simp [CompiledRule.selects, inert] at selected
    | some predicate =>
      simp only [CompiledRule.selects, inert] at selected ⊢
      exact eval_steady (fun text mem => known text (among predicate inert mem)) selected
  · -- A catalog of one item, and a rule that looks for the text in titles.
    refine (steady_iff_valueContains text).2 fun title found => ?_
    have catalog := kept ⟨.title 0, "", some (.contains .title text), true⟩
      (by simpa [texts] using mem) [.titled "" title] ""
    simp only [mem_desiredMembers, List.mem_singleton, exists_eq_left, CompiledRule.selects,
      eval_titled] at catalog
    exact (catalog ⟨found, rfl⟩).1

/-- A capital sigma is found at the end of a Greek word with regard to case, and is not found there
without. -/
theorem eval_loses_final_sigma :
    let predicate : Predicate := .contains .title "Σ"
    let item : Item := .titled "1" "ΑΣ"
    predicate.eval true item = true ∧ predicate.eval false item = false ∧
      "1" ∈ desiredMembers [⟨.title 0, "C", some predicate, true⟩] [item] ∧
      "1" ∉ desiredMembers [⟨.title 0, "C", some predicate, false⟩] [item] := by
  decide +kernel

end Predicate

end SmartCollections
