import SmartCollections.Proofs.Concatenation
import SmartCollections.Proofs.Respelling

/-!
# Layout and the case of letters

Outside literals the case of ASCII letters does not matter to what a text says, nor how much blank
stands between its words, nor whether any stands at a parenthesis or a quote. A text that is changed
in such a way has the same tokens, but for the case of its words, and a parser that only tells of
words makes the same moves on it. Whether a change is between quotes depends on the quotes before
it, so a text can be cut only where those are even in number.
-/

namespace SmartCollections

open Text

/-- A parenthesis or a quote. -/
def isMark (c : Char) : Bool := c == '"' || c == '(' || c == ')'

/-- A mark stands here, or the text starts. -/
def Loose (before after : List Char) : Prop :=
  before = [] ∨ (∃ c ∈ before.getLast?, isMark c = true) ∨ ∃ c ∈ after.head?, isMark c = true

/-- A change of a text that is not to matter. -/
inductive Relaid : List Char → List Char → Prop
  /-- The case of an ASCII letter outside literals. -/
  | recased {before after : List Char} {c d : Char} (outside : endsQuoted before = false)
      (same : c.toUpper = d.toUpper) : Relaid (before ++ c :: after) (before ++ d :: after)
  /-- A gap between words, which stays a gap. -/
  | respaced {before gap other after : List Char} (outside : endsQuoted before = false)
      (some : gap ≠ [] ∧ other ≠ []) (blank : ∀ c ∈ gap ++ other, isBlank c = true) :
      Relaid (before ++ gap ++ after) (before ++ other ++ after)
  /-- A gap that is not needed, so there may be none before or after the change. -/
  | loosened {before gap other after : List Char} (outside : endsQuoted before = false)
      (loose : Loose before after) (blank : ∀ c ∈ gap ++ other, isBlank c = true) :
      Relaid (before ++ gap ++ after) (before ++ other ++ after)
  /-- A gap at the end of the text, be it after a quote that is never closed. -/
  | ended {before gap other : List Char} (blank : ∀ c ∈ gap ++ other, isBlank c = true) :
      Relaid (before ++ gap) (before ++ other)

theorem isBreak_of_isMark {c : Char} (mark : isMark c = true) : isBreak c = true := by
  simp only [isMark, Bool.or_eq_true, beq_iff_eq] at mark
  rcases mark with (rfl | rfl) | rfl <;> decide

theorem Loose.cut {before after : List Char} (loose : Loose before after) : Cut before after := by
  intro c last d first
  rcases loose with rfl | ⟨e, mem, mark⟩ | ⟨e, mem, mark⟩
  · cases last
  · obtain rfl := Option.mem_unique last mem
    exact joined_break_left (isBreak_of_isMark mark) d
  · obtain rfl := Option.mem_unique first mem
    exact joined_break_right (isBreak_of_isMark mark) c

section Blank

variable {before gap after : List Char}

theorem lexicalKinds_blank (blank : ∀ c ∈ gap, isBlank c = true) (after : List Char) :
    lexicalKinds (gap ++ after) = lexicalKinds after := by
  induction gap with
  | nil => rfl
  | cons c gap ih =>
    obtain ⟨first, others⟩ := List.forall_mem_cons.1 blank
    rw [List.cons_append, lexicalKinds, firstLexeme_blank first]
    exact ih others

/-- Between two texts there may be any gap, and none at all where there is a cut. -/
theorem lexicalKinds_gap (closed : endsQuoted before = false)
    (blank : ∀ c ∈ gap, isBlank c = true) (apart : gap = [] → Cut before after) :
    lexicalKinds (before ++ gap ++ after) = lexicalKinds before ++ lexicalKinds after := by
  have cut : Cut before (gap ++ after) := by
    cases gap with
    | nil => exact apart rfl
    | cons c gap =>
      refine cut_of_isBreak ?_
      rintro d ⟨⟩
      exact isBreak_of_isBlank (blank c List.mem_cons_self)
  rw [List.append_assoc, lexicalKinds_cut closed cut, lexicalKinds_blank blank]

/-- A gap at the end makes no difference, be it a part of an unclosed literal. -/
theorem lexicalKinds_ended (blank : ∀ c ∈ gap, isBlank c = true) (before : List Char) :
    lexicalKinds (before ++ gap) = lexicalKinds before := by
  have noQuote : '"' ∉ gap := fun quote => absurd (blank _ quote) (by decide)
  cases odd : endsQuoted before with
  | false =>
    have cut : gap = [] → Cut before [] := fun _ _ _ _ => nofun
    have ends := lexicalKinds_gap odd blank cut
    rwa [List.append_nil, lexicalKinds, List.append_nil] at ends
  | true =>
    obtain ⟨first, inner, rfl, even, unclosed⟩ := split_of_endsQuoted odd
    have ends {inner : List Char} (unclosed : '"' ∉ inner) :
        lexicalKinds (first ++ '"' :: inner) =
          lexicalKinds first ++ [.invalid .unterminatedLiteral] := by
      have cut : Cut first ('"' :: inner) := cut_of_isBreak (by rintro d ⟨⟩; decide)
      rw [lexicalKinds_cut even cut, ← tokensFrom_kinds 0 ('"' :: inner),
        tokensFrom_unclosed 0 unclosed]
      rfl
    rw [List.append_assoc, List.cons_append, ends unclosed, ends (by simp [unclosed, noQuote])]

end Blank

/-- The text in ASCII capitals, but for what stands between quotes. -/
def capitals (quoted : Bool) : List Char → List Char
  | [] => []
  | c :: rest => (if quoted then c else c.toUpper) :: capitals (quoted != (c == '"')) rest

/-- The word in ASCII capitals. -/
def capitalized (word : String) : String := .ofList (word.toList.map Char.toUpper)

theorem toUpper_eq_self_or_ascii (c : Char) : c.toUpper = c ∨ c.toNat < 128 := by
  by_cases lower : c.val ≥ 'a'.val ∧ c.val ≤ 'z'.val
  · have bound : c.toNat ≤ 122 := UInt32.le_iff_toNat_le.1 lower.2
    exact .inr (by omega)
  · exact .inl (dif_neg lower)

theorem asciiCodes_toUpper : ∀ code < 128,
    (Char.ofNat code).toUpper.toUpper = (Char.ofNat code).toUpper ∧
      (Char.ofNat code).toUpper.toNat < 128 ∧
      isWordCharacter (Char.ofNat code).toUpper = isWordCharacter (.ofNat code) ∧
      (isWordCharacter (.ofNat code) = false → (Char.ofNat code).toUpper = .ofNat code) := by
  decide +kernel

theorem ascii_toUpper {c : Char} (ascii : c.toNat < 128) :
    c.toUpper.toUpper = c.toUpper ∧ c.toUpper.toNat < 128 ∧
      isWordCharacter c.toUpper = isWordCharacter c ∧
      (isWordCharacter c = false → c.toUpper = c) := by
  have table := asciiCodes_toUpper c.toNat ascii
  rwa [Char.ofNat_toNat] at table

section Upper

variable (c : Char)

theorem toUpper_toUpper : c.toUpper.toUpper = c.toUpper := by
  rcases toUpper_eq_self_or_ascii c with same | ascii
  · rw [same, same]
  · exact (ascii_toUpper ascii).1

theorem isWordCharacter_toUpper : isWordCharacter c.toUpper = isWordCharacter c := by
  rcases toUpper_eq_self_or_ascii c with same | ascii
  · rw [same]
  · exact (ascii_toUpper ascii).2.2.1

theorem toUpper_of_no_word {c : Char} (noWord : isWordCharacter c = false) : c.toUpper = c := by
  rcases toUpper_eq_self_or_ascii c with same | ascii
  · exact same
  · exact (ascii_toUpper ascii).2.2.2 noWord

theorem toUpper_eq_iff {c d : Char} (noWord : isWordCharacter d = false) :
    c.toUpper = d ↔ c = d := by
  constructor
  · intro same
    rw [← same, isWordCharacter_toUpper] at noWord
    rwa [toUpper_of_no_word noWord] at same
  · rintro rfl
    exact toUpper_of_no_word noWord

theorem upperOf_toUpper : upperOf c.toUpper = upperOf c := by
  rcases toUpper_eq_self_or_ascii c with same | ascii
  · rw [same]
  · rw [upperOf, if_pos (ascii_toUpper ascii).2.1, toUpper_toUpper, upperOf, if_pos ascii]

end Upper

theorem upper_capitals (word : List Char) : upper (word.map Char.toUpper) = upper word := by
  rw [upper, upper, List.flatMap_map]
  exact List.flatMap_congr fun c _ => upperOf_toUpper c

theorem toList_capitalized (word : String) :
    (capitalized word).toList = word.toList.map Char.toUpper := by
  rw [capitalized, String.toList_ofList]

theorem sameKeyword_capitalized (word keyword : String) :
    sameKeyword (capitalized word) keyword = sameKeyword word keyword := by
  have again : Char.toUpper ∘ Char.toUpper = Char.toUpper := funext toUpper_toUpper
  rw [sameKeyword, sameKeyword, toList_capitalized, List.map_map, again]

theorem classify_capitalized (word : String) :
    classify (capitalized word) = (classify word).respelt capitalized := by
  simp only [classify, Field.ofKeyword?, sameKeyword_capitalized]
  repeat' split
  all_goals rfl

theorem correct?_capitalized (word : String) : correct? (capitalized word) = correct? word := by
  simp only [correct?, toList_capitalized, upper_capitals]

theorem corrected_respelt (kind : Token.Kind) :
    (kind.respelt capitalized).corrected = kind.corrected.respelt capitalized := by
  cases kind with
  | word word =>
    simp only [Token.Kind.respelt, Token.Kind.corrected, correct?_capitalized]
    cases found : correct? word with
    | none => rfl
    | some kind => rcases correct?_cases found with rfl | rfl | ⟨field, rfl⟩ <;> rfl
  | _ => rfl

theorem capitals_append {before : List Char} (closed : endsQuoted before = false)
    (after : List Char) :
    capitals false (before ++ after) = capitals false before ++ capitals false after := by
  have general (quoted : Bool) : capitals quoted (before ++ after) =
      capitals quoted before ++ capitals (quoted != endsQuoted before) after := by
    clear closed
    induction before generalizing quoted with
    | nil => simp [capitals, endsQuoted]
    | cons c before ih =>
      rw [List.cons_append, capitals, ih, capitals, List.cons_append, endsQuoted_cons]
      cases quoted <;> cases endsQuoted before <;> simp
  rw [general, closed]
  rfl

/-- Runs of characters are as long in capitals. -/
theorem capitals_run {p : Char → Bool} (noQuote : p '"' = false)
    (same : ∀ c, p c.toUpper = p c) (text : List Char) :
    (capitals false text).takeWhile p = (text.takeWhile p).map Char.toUpper ∧
      (capitals false text).dropWhile p = capitals false (text.dropWhile p) := by
  induction text with
  | nil => exact ⟨rfl, rfl⟩
  | cons c text ih =>
    cases inside : p c with
    | false => simp [capitals, same, inside]
    | true =>
      have outside : (c == '"') = false := beq_eq_false_iff_ne.2 fun quote => by
        rw [quote, noQuote] at inside
        cases inside
      simp [capitals, same, inside, outside, ih]

/-- A literal is the same in capitals. -/
theorem capitals_literal (text : List Char) :
    (capitals true text).takeWhile (· ≠ '"') = text.takeWhile (· ≠ '"') ∧
      (capitals true text).dropWhile (· ≠ '"') = match text.dropWhile (· ≠ '"') with
        | [] => []
        | c :: rest => c :: capitals false rest := by
  induction text with
  | nil => exact ⟨rfl, rfl⟩
  | cons c text ih =>
    by_cases quote : c = '"'
    · subst quote
      exact ⟨rfl, rfl⟩
    · have inside : (c == '"') = false := beq_eq_false_iff_ne.2 quote
      simpa [capitals, quote, inside] using ih

theorem firstLexeme_word {c : Char} (word : isWordCharacter c = true) (rest : List Char) :
    firstLexeme c rest = ⟨some (classify (.ofList (c :: rest.takeWhile isWordCharacter))),
      c :: rest.takeWhile isWordCharacter, rest.dropWhile isWordCharacter⟩ := by
  have visible : ¬ isBlank c = true := fun blank => by
    rw [isWordCharacter_of_isBlank blank] at word
    cases word
  have ordinary := isOrdinary_of_isWordCharacter word
  simp only [isOrdinary, Bool.and_eq_true, bne_iff_ne] at ordinary
  have noSign : ¬ (c = '&' ∨ c = '|') := by rintro (rfl | rfl) <;> revert word <;> decide
  rw [firstLexeme, if_neg visible, if_neg ordinary.1.1, if_neg ordinary.1.2, if_neg ordinary.2,
    if_neg noSign, if_pos word]

/-- A first piece in capitals. -/
theorem firstLexeme_capitals (c : Char) (rest : List Char) :
    (firstLexeme c.toUpper (capitals (c == '"') rest)).kind =
        (firstLexeme c rest).kind.map (Token.Kind.respelt capitalized) ∧
      (firstLexeme c.toUpper (capitals (c == '"') rest)).rest =
        capitals false (firstLexeme c rest).rest := by
  by_cases word : isWordCharacter c = true
  · have noQuote : (c == '"') = false :=
      beq_eq_false_iff_ne.2 fun quote => absurd word (by rw [quote]; decide)
    obtain ⟨taken, left⟩ := capitals_run (by decide) isWordCharacter_toUpper rest
    rw [noQuote, firstLexeme_word word, firstLexeme_word (by rwa [isWordCharacter_toUpper]), taken,
      left, Option.map_some, ← classify_capitalized, capitalized, String.toList_ofList]
    exact ⟨rfl, rfl⟩
  · have same := toUpper_of_no_word (Bool.eq_false_iff.2 word)
    rw [same]
    by_cases quote : c = '"'
    · subst quote
      obtain ⟨taken, left⟩ := capitals_literal rest
      rw [firstLexeme_quote, firstLexeme_quote, beq_self_eq_true, taken, left]
      cases rest.dropWhile (· ≠ '"') <;> exact ⟨rfl, rfl⟩
    rw [beq_eq_false_iff_ne.2 quote]
    unfold firstLexeme
    simp only [if_neg quote, if_neg word]
    split
    · exact ⟨rfl, rfl⟩
    split
    · exact ⟨rfl, rfl⟩
    split
    · exact ⟨rfl, rfl⟩
    split
    · have alike (d : Char) : decide (d.toUpper = c) = decide (d = c) :=
        decide_eq_decide.2 (toUpper_eq_iff (Bool.eq_false_iff.2 word))
      obtain ⟨taken, left⟩ :=
        capitals_run (p := (· = c)) (decide_eq_false (Ne.symm quote)) alike rest
      rw [taken, left, Option.map_some, Token.Kind.respelt, capitalized, String.toList_ofList,
        List.map_cons, same]
      exact ⟨rfl, rfl⟩
    · exact ⟨rfl, rfl⟩

/-- The tokens of a text in capitals are those of the text, with their words in capitals. -/
theorem lexicalKinds_capitals (text : List Char) : lexicalKinds (capitals false text) =
    (lexicalKinds text).map (Token.Kind.respelt capitalized) := by
  fun_induction lexicalKinds text with
  | case1 => simp [capitals, lexicalKinds]
  | case2 c rest ih =>
    obtain ⟨kind, left⟩ := firstLexeme_capitals c rest
    have split : capitals false (c :: rest) = c.toUpper :: capitals (c == '"') rest := by
      simp [capitals]
    rw [split, lexicalKinds, kind, left, ih, List.map_append]
    cases (firstLexeme c rest).kind <;> rfl

/-- A change leaves the tokens as they are, but for the case of words. -/
theorem Relaid.kinds {text other : List Char} (relaid : Relaid text other) :
    (lexicalKinds text).map (Token.Kind.respelt capitalized) =
      (lexicalKinds other).map (Token.Kind.respelt capitalized) := by
  cases relaid with
  | @recased before after c d outside same =>
    have quote : (c == '"') = (d == '"') := by
      have noWord : isWordCharacter '"' = false := by decide
      rw [Bool.eq_iff_iff, beq_iff_eq, beq_iff_eq, ← toUpper_eq_iff noWord, same,
        toUpper_eq_iff noWord]
    have letter (c : Char) :
        capitals false (c :: after) = c.toUpper :: capitals (c == '"') after := by
      simp [capitals]
    rw [← lexicalKinds_capitals, ← lexicalKinds_capitals, capitals_append outside,
      capitals_append outside, letter, letter, same, quote]
  | @respaced before gap other after outside some blank =>
    obtain ⟨blank, blankToo⟩ := List.forall_mem_append.1 blank
    rw [lexicalKinds_gap outside blank fun none => absurd none some.1,
      lexicalKinds_gap outside blankToo fun none => absurd none some.2]
  | @loosened before gap other after outside loose blank =>
    obtain ⟨blank, blankToo⟩ := List.forall_mem_append.1 blank
    rw [lexicalKinds_gap outside blank fun _ => loose.cut,
      lexicalKinds_gap outside blankToo fun _ => loose.cut]
  | @ended before gap other blank =>
    obtain ⟨blank, blankToo⟩ := List.forall_mem_append.1 blank
    rw [lexicalKinds_ended blank, lexicalKinds_ended blankToo]

theorem lexicalKinds_relaid {text other : List Char}
    (relaid : Relation.ReflTransGen Relaid text other) :
    (lexicalKinds text).map (Token.Kind.respelt capitalized) =
      (lexicalKinds other).map (Token.Kind.respelt capitalized) := by
  induction relaid with
  | refl => rfl
  | tail _ step ih => exact ih.trans step.kinds

namespace Predicate

theorem kinds_relaid {text other : String}
    (relaid : Relation.ReflTransGen Relaid text.toList other.toList) :
    (kinds text).map (Token.Kind.respelt capitalized) =
      (kinds other).map (Token.Kind.respelt capitalized) := by
  have corrected (kinds : List Token.Kind) :
      (kinds.map Token.Kind.corrected).map (Token.Kind.respelt capitalized) =
        (kinds.map (Token.Kind.respelt capitalized)).map Token.Kind.corrected := by
    rw [List.map_map, List.map_map]
    exact List.map_congr_left fun kind _ => (corrected_respelt kind).symm
  rw [kinds_eq, kinds_eq, corrected, corrected, lexicalKinds_relaid relaid]

/-- Changes that are not to matter, as many as there are, make no difference to the tree of a text,
nor to the kinds of its faults, but for the case of the words in them. -/
theorem parse_relaid {text other : String}
    (relaid : Relation.ReflTransGen Relaid text.toList other.toList) :
    (∀ tree, parse text = .ok tree → parse other = .ok tree) ∧
    ∀ errors, parse text = .error errors → ∃ others, parse other = .error others ∧
      others.map (·.kind.respelt capitalized) = errors.map (·.kind.respelt capitalized) :=
  parse_respelt (kinds_relaid relaid)

/-- A gap before a quote is dropped, a letter of a word that is too much becomes a capital, a blank
becomes a wide one, and the literal that is never closed gets a gap at its end. -/
theorem parse_relaid_unclosed :
    let text := "Títle \"é\" ıbc \"x"
    let other := "Títle\"é\" ıBc\u3000\"x "
    Relation.ReflTransGen Relaid text.toList other.toList ∧
    parse text = .error [⟨.trailing (.word "ıbc"), ⟨12, 16⟩⟩,
      ⟨.lexical .unterminatedLiteral, ⟨17, 19⟩⟩] ∧
    ∃ others, parse other = .error others ∧ others.map (·.kind.respelt capitalized) =
      [.trailing (.word "ıBC"), .lexical .unterminatedLiteral] := by
  intro text other
  have dropped : Relaid text.toList "Títle\"é\" ıbc \"x".toList := by
    have step := @Relaid.loosened "Títle".toList [' '] [] "\"é\" ıbc \"x".toList (by decide)
      (.inr (.inr ⟨'"', by decide, rfl⟩)) (List.all_eq_true.1 rfl)
    simpa [text] using step
  have recased : Relaid "Títle\"é\" ıbc \"x".toList "Títle\"é\" ıBc \"x".toList := by
    have step := @Relaid.recased "Títle\"é\" ı".toList "c \"x".toList 'b' 'B' (by decide) rfl
    simpa using step
  have respaced : Relaid "Títle\"é\" ıBc \"x".toList "Títle\"é\" ıBc\u3000\"x".toList := by
    have step := @Relaid.respaced "Títle\"é\" ıBc".toList [' '] ['\u3000'] "\"x".toList (by decide)
      (by simp) (List.all_eq_true.1 rfl)
    simpa using step
  have ended : Relaid "Títle\"é\" ıBc\u3000\"x".toList other.toList := by
    have step := @Relaid.ended "Títle\"é\" ıBc\u3000\"x".toList [] [' '] (List.all_eq_true.1 rfl)
    simpa [other] using step
  have relaid : Relation.ReflTransGen Relaid text.toList other.toList :=
    .head dropped (.head recased (.head respaced (.single ended)))
  have rejected : parse text = .error [⟨.trailing (.word "ıbc"), ⟨12, 16⟩⟩,
      ⟨.lexical .unterminatedLiteral, ⟨17, 19⟩⟩] := by
    decide +kernel
  obtain ⟨others, found, alike⟩ := (parse_relaid relaid).2 _ rejected
  exact ⟨relaid, rejected, others, found, alike.trans (by decide +kernel)⟩

end Predicate

end SmartCollections
