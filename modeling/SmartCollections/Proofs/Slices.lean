import SmartCollections.Proofs.Strays

/-!
# Tokens and their slices of the text

Nothing of a text is lost in its tokens. Each token stands for the slice of the text that its span
covers, which is as long as it can be and says what the token is; and what no span covers is blank.
What makes a slice as long as it can be is a fact about its two ends, so reading keeps in mind that
it always stands where no run of characters goes on.
-/

namespace SmartCollections

open Text

theorem blankRanges_no_word : ∀ range ∈ blankRanges, ∀ further < range.2 + 1 - range.1,
    isWordCharacter (.ofNat (range.1 + further)) = false := by
  decide +kernel

theorem isWordCharacter_of_isBlank {c : Char} (blank : isBlank c = true) :
    isWordCharacter c = false := by
  obtain ⟨range, mem, inside⟩ := List.any_eq_true.1 blank
  simp only [Bool.and_eq_true, decide_eq_true_eq] at inside
  have no_word := blankRanges_no_word range mem (c.toNat - range.1) (by omega)
  rwa [Nat.add_sub_cancel' inside.1, Char.ofNat_toNat] at no_word

theorem isBreak_of_isBlank {c : Char} (blank : isBlank c = true) : isBreak c = true := by
  have noAnd : c ≠ '&' := by rintro rfl; revert blank; decide
  have noOr : c ≠ '|' := by rintro rfl; revert blank; decide
  simp [isBreak, noAnd, noOr, isWordCharacter_of_isBlank blank]

/-- No run of characters goes on from the one text to the other. -/
def Cut (before after : List Char) : Prop :=
  ∀ c ∈ before.getLast?, ∀ d ∈ after.head?, joined c d = false

/-- The slice holds such characters only, and the characters around it are none. -/
structure MaximalRun (p : Char → Bool) (before slice after : List Char) : Prop where
  some : slice ≠ []
  all : ∀ c ∈ slice, p c = true
  first : ∀ c ∈ before.getLast?, p c = false
  last : ∀ c ∈ after.head?, p c = false

/-- Between the text before it and the text after it, the slice makes such a token. Keywords and
operators are words that differ from their spelling in the case of ASCII letters only. -/
inductive Justified (before : List Char) : List Char → List Char → Token.Kind → Prop
  | literal {after : List Char} (text : String) (whole : '"' ∉ text.toList) :
      Justified before ('"' :: (text.toList ++ ['"'])) after (.literal text)
  | unterminated (text : List Char) (unclosed : '"' ∉ text) :
      Justified before ('"' :: text) [] (.invalid .unterminatedLiteral)
  | unexpected {after : List Char} (c : Char) (visible : isBlank c = false)
      (noWord : isWordCharacter c = false) (noMark : c ∉ ['"', '(', ')', '&', '|']) :
      Justified before [c] after (.invalid (.unexpectedChar c))
  | openParen {after : List Char} : Justified before ['('] after .openParen
  | closeParen {after : List Char} : Justified before [')'] after .closeParen
  | signs {slice after : List Char} (c : Char) (sign : c = '&' ∨ c = '|')
      (run : MaximalRun (· = c) before slice after) :
      Justified before slice after (.word (.ofList slice))
  | and {slice after : List Char} (run : MaximalRun isWordCharacter before slice after)
      (spelt : slice.map Char.toUpper = "AND".toList) : Justified before slice after .and
  | or {slice after : List Char} (run : MaximalRun isWordCharacter before slice after)
      (spelt : slice.map Char.toUpper = "OR".toList) : Justified before slice after .or
  | field {slice after : List Char} (field : Field)
      (run : MaximalRun isWordCharacter before slice after)
      (spelt : slice.map Char.toUpper = field.keyword.toList) :
      Justified before slice after (.field field)
  | word {slice after : List Char} (run : MaximalRun isWordCharacter before slice after)
      (noAnd : slice.map Char.toUpper ≠ "AND".toList) (noOr : slice.map Char.toUpper ≠ "OR".toList)
      (noKeyword : ∀ field : Field, slice.map Char.toUpper ≠ field.keyword.toList) :
      Justified before slice after (.word (.ofList slice))

section Run

variable {before slice after : List Char}

theorem Cut.word {c : Char} {rest : List Char} (cut : Cut before (c :: rest))
    (word : isWordCharacter c = true) : ∀ e ∈ before.getLast?, isWordCharacter e = false := by
  intro e mem
  have apart := cut e mem c rfl
  simp only [joined, word, Bool.and_true, Bool.or_eq_false_iff] at apart
  exact apart.1

theorem Cut.sign {c : Char} {rest : List Char} (cut : Cut before (c :: rest))
    (sign : c = '&' ∨ c = '|') : ∀ e ∈ before.getLast?, decide (e = c) = false := by
  intro e mem
  refine decide_eq_false fun same => ?_
  subst same
  have apart := cut e mem e rfl
  rcases sign with rfl | rfl <;> revert apart <;> decide

theorem keyword_capitals (field : Field) :
    field.keyword.toList.map Char.toUpper = field.keyword.toList := by
  cases field <;> rfl

/-- A run of word characters is classified by its ASCII capitals. -/
theorem justified_classify (run : MaximalRun isWordCharacter before slice after) :
    Justified before slice after (classify (.ofList slice)) := by
  have same_iff (keyword : String) : sameKeyword (.ofList slice) keyword = true ↔
      slice.map Char.toUpper = keyword.toList.map Char.toUpper := by
    rw [sameKeyword, String.toList_ofList, beq_iff_eq]
  unfold classify
  split
  · next isAnd => exact .and run ((same_iff "AND").1 isAnd)
  · next noAnd =>
    split
    · next isOr => exact .or run ((same_iff "OR").1 isOr)
    · next noOr =>
      split
      · next field found =>
        have spelt : sameKeyword (.ofList slice) field.keyword = true := by
          simpa using List.find?_some found
        exact .field field run (((same_iff field.keyword).1 spelt).trans (keyword_capitals field))
      · next none =>
        refine .word run (mt (same_iff "AND").2 noAnd) (mt (same_iff "OR").2 noOr) ?_
        intro field same
        have mem : field ∈ Field.all := by cases field <;> decide
        refine List.find?_eq_none.1 none field mem ((same_iff field.keyword).2 ?_)
        exact same.trans (keyword_capitals field).symm

/-- A run that is taken as far as it goes is as long as it can be. -/
theorem maximalRun {p : Char → Bool} {c : Char} (rest : List Char) (first : p c = true)
    (left : ∀ e ∈ before.getLast?, p e = false) :
    MaximalRun p before (c :: rest.takeWhile p) (rest.dropWhile p) where
  some := List.cons_ne_nil _ _
  all := List.forall_mem_cons.2 ⟨first, fun _ => List.mem_takeWhile_imp⟩
  first := left
  last d mem := by
    have stop := List.head?_dropWhile_not p rest
    rw [Option.mem_def.1 mem] at stop
    exact stop

end Run

/-- The first token of a text is justified, if no run goes on from the text before it. -/
theorem firstLexeme_justified {before rest : List Char} {c : Char} {kind : Token.Kind}
    (cut : Cut before (c :: rest)) (found : (firstLexeme c rest).kind = some kind) :
    Justified before (firstLexeme c rest).chars (firstLexeme c rest).rest kind := by
  have noQuote : '"' ∉ rest.takeWhile (· ≠ '"') := by
    intro quote
    simpa using List.mem_takeWhile_imp quote
  revert found
  unfold firstLexeme
  split
  · nofun
  next visible =>
  split
  · next quote =>
    subst quote
    dsimp only
    cases closes : rest.dropWhile (· ≠ '"') with
    | nil =>
      rintro ⟨⟩
      exact .unterminated _ noQuote
    | cons quote others =>
      rintro ⟨⟩
      obtain rfl : quote = '"' := by
        have stop := List.head?_dropWhile_not (· ≠ '"') rest
        rw [closes] at stop
        simpa using stop
      have literal : Justified before _ others _ :=
        .literal (.ofList (rest.takeWhile (· ≠ '"'))) (by rwa [String.toList_ofList])
      rwa [String.toList_ofList] at literal
  next noQuote' =>
  split
  · next opening =>
    rintro ⟨⟩
    exact opening ▸ .openParen
  next noOpening =>
  split
  · next closing =>
    rintro ⟨⟩
    exact closing ▸ .closeParen
  next noClosing =>
  split
  · next sign =>
    rintro ⟨⟩
    exact .signs c sign (maximalRun rest (decide_eq_true rfl) (cut.sign sign))
  next noSign =>
  split
  · next word =>
    rintro ⟨⟩
    exact justified_classify (maximalRun rest word (cut.word word))
  · next noWord =>
    rintro ⟨⟩
    refine .unexpected c (Bool.eq_false_iff.2 visible) (Bool.eq_false_iff.2 noWord) ?_
    simp_all

/-- No run goes on behind a token. -/
theorem Justified.cut {before slice after : List Char} {kind : Token.Kind}
    (justified : Justified before slice after kind) : Cut slice after := by
  intro c mem d next
  have last : c ∈ slice := List.mem_of_mem_getLast? mem
  have word (run : MaximalRun isWordCharacter before slice after) : joined c d = false := by
    have inside := run.all c last
    have outside := run.last d next
    have differ : c ≠ d := fun same => by
      rw [same, outside] at inside
      cases inside
    simp [joined, outside, differ]
  cases justified with
  | literal text =>
    rw [← List.cons_append, List.getLast?_concat] at mem
    obtain rfl := Option.some.inj mem
    exact joined_break_left (by decide) d
  | unterminated => cases next
  | unexpected e visible noWord noMark =>
    obtain rfl : e = c := by simpa using mem
    refine joined_break_left ?_ d
    simp_all [isBreak]
  | openParen | closeParen =>
    cases mem
    exact joined_break_left (by decide) d
  | signs e sign run =>
    obtain rfl : c = e := of_decide_eq_true (run.all c last)
    have differ : d ≠ c := of_decide_eq_false (run.last d next)
    have noWord : isWordCharacter c = false := by rcases sign with rfl | rfl <;> decide
    simp [joined, noWord, differ.symm]
  | and run | or run | field _ run | word run => exact word run

theorem firstLexeme_cut {before rest : List Char} {c : Char} (cut : Cut before (c :: rest)) :
    Cut (before ++ (firstLexeme c rest).chars) (firstLexeme c rest).rest := by
  have last : (before ++ (firstLexeme c rest).chars).getLast? =
      (firstLexeme c rest).chars.getLast? := by
    rw [List.getLast?_append]
    cases empty : (firstLexeme c rest).chars.getLast? with
    | none => exact absurd (List.getLast?_eq_none_iff.1 empty) (firstLexeme_chars_ne_nil c rest)
    | some d => rfl
  rw [Cut, last]
  cases found : (firstLexeme c rest).kind with
  | some kind => exact (firstLexeme_justified cut found).cut
  | none =>
    have blank : isBlank c = true := by
      by_contra visible
      exact firstLexeme_kind_ne_none visible rest found
    rw [firstLexeme_blank blank]
    rintro d ⟨⟩ e _
    exact joined_break_left (isBreak_of_isBlank blank) e

/-- The slice of each token, for a text after another one from which no run goes on. -/
theorem mem_tokensFrom_justified (start : Nat) (text : List Char) : ∀ before : List Char,
    byteLength before = start → Cut before text → ∀ token ∈ tokensFrom start text,
      ∃ first slice last, before ++ text = first ++ slice ++ last ∧
        token.span = ⟨byteLength first, byteLength (first ++ slice)⟩ ∧
        Justified first slice last token.kind := by
  fun_induction tokensFrom start text with
  | case1 start => exact fun _ _ _ token mem => absurd mem List.not_mem_nil
  | case2 start c rest lexeme stop ih =>
    intro before size cut token mem
    subst size
    have split : before ++ c :: rest = before ++ lexeme.chars ++ lexeme.rest := by
      rw [List.append_assoc, firstLexeme_append]
    have further : byteLength (before ++ lexeme.chars) = stop := byteLength_append _ _
    rcases List.mem_append.1 mem with first | later
    · obtain ⟨kind, found, rfl⟩ := Option.map_eq_some_iff.1 (Option.mem_toList.1 first)
      exact ⟨before, lexeme.chars, lexeme.rest, split, by rw [further],
        firstLexeme_justified cut found⟩
    · rw [split]
      exact ih (before ++ lexeme.chars) further (firstLexeme_cut cut) token later

/-- A character is blank, or a token covers it. -/
theorem covered_of_visible (start : Nat) (text : List Char) :
    ∀ first c last, text = first ++ c :: last → isBlank c = false →
      ∃ token ∈ tokensFrom start text, token.span.start ≤ start + byteLength first ∧
        start + byteLength first < token.span.stop := by
  fun_induction tokensFrom start text with
  | case1 start => exact fun first c last split => absurd split (by simp)
  | case2 start d rest lexeme stop ih =>
    intro first c last split visible
    have pieces : lexeme.chars ++ lexeme.rest = first ++ c :: last := by
      rw [firstLexeme_append, split]
    have unfolded : tokensFrom start (d :: rest) =
        (lexeme.kind.map fun kind => ⟨kind, ⟨start, stop⟩⟩).toList ++
          tokensFrom stop lexeme.rest := by
      rw [tokensFrom]
    rw [← unfolded]
    have later (more : List Char) (whole : first = lexeme.chars ++ more)
        (left : lexeme.rest = more ++ c :: last) :
        ∃ token ∈ tokensFrom start (d :: rest), token.span.start ≤ start + byteLength first ∧
          start + byteLength first < token.span.stop := by
      obtain ⟨token, mem, before, after⟩ := ih more c last left visible
      have further : start + byteLength first = stop + byteLength more := by
        rw [whole, byteLength_append, ← Nat.add_assoc]
      rw [unfolded, further]
      exact ⟨token, List.mem_append_right _ mem, before, after⟩
    rcases List.append_eq_append_iff.1 pieces with ⟨more, whole, left⟩ | ⟨more, whole, left⟩
    · exact later more whole left
    · cases more with
      | nil => exact later [] (by simpa using whole.symm) (by simpa using left.symm)
      | cons e more =>
        obtain ⟨rfl, -⟩ := List.cons.inj left
        have covers : byteLength (firstLexeme d rest).chars =
            byteLength first + (c.utf8Size + byteLength more) := by
          rw [← byteLength_cons, ← byteLength_append]
          exact congrArg byteLength whole
        have some := c.utf8Size_pos
        cases found : lexeme.kind with
        | some kind =>
          exact ⟨_, mem_tokensFrom_first start found, Nat.le_add_right _ _, by dsimp only; omega⟩
        | none =>
          -- A blank is a piece by itself.
          have blank : isBlank d = true := by
            by_contra noBlank
            exact firstLexeme_kind_ne_none noBlank rest found
          have single : lexeme.chars = [d] := congrArg Lexeme.chars (firstLexeme_blank blank rest)
          rw [single] at whole
          cases first with
          | nil =>
            obtain rfl := (List.cons.inj whole).1
            rw [blank] at visible
            cases visible
          | cons e first => simp at whole

/-- The tokens of a text end with one that closes it, and the others are real ones. Their spans
follow one another, each covers a slice of the text that says what the token is, and all that is not
covered is blank. -/
theorem tokenize_lossless (text : String) :
    ∃ tokens, tokenize text = tokens ++ [⟨.eof, ⟨text.utf8ByteSize, text.utf8ByteSize⟩⟩] ∧
      (∀ token ∈ tokens, token.kind ≠ .eof ∧ token.span.start < token.span.stop ∧
        ∃ before slice after : String, text = before ++ slice ++ after ∧
          token.span = ⟨before.utf8ByteSize, (before ++ slice).utf8ByteSize⟩ ∧
          Justified before.toList slice.toList after.toList token.kind) ∧
      (tokenize text).Pairwise (fun first second => first.span.stop ≤ second.span.start) ∧
      ∀ (before : String) (c : Char) (after : String),
        text = before ++ String.singleton c ++ after → isBlank c = false →
          ∃ token ∈ tokens, token.span.start ≤ before.utf8ByteSize ∧
            before.utf8ByteSize < token.span.stop := by
  refine ⟨lexicalTokens text.toList, rfl, fun token mem => ?_, ?_,
    fun before c after split visible => ?_⟩
  · rw [lexicalTokens_eq] at mem
    obtain ⟨first, slice, last, split, span, justified⟩ :=
      mem_tokensFrom_justified 0 text.toList [] rfl nofun token mem
    refine ⟨fun atEnd => ?_, (mem_tokensFrom mem).2.1, .ofList first, .ofList slice,
      .ofList last, ?_, ?_, ?_⟩
    · rw [atEnd] at justified
      cases justified
    · rw [← String.ofList_append, ← String.ofList_append, ← split, List.nil_append,
        String.ofList_toList]
    · rw [span, ← byteLength_toList, ← byteLength_toList, String.toList_append,
        String.toList_ofList, String.toList_ofList]
    · simpa only [String.toList_ofList] using justified
  · rw [tokenize, lexicalTokens_eq]
    refine List.pairwise_append.2 ⟨tokensFrom_ordered 0 _, List.pairwise_singleton _ _, ?_⟩
    intro token mem last isLast
    obtain rfl := List.mem_singleton.1 isLast
    have inside := (mem_tokensFrom mem).2.2
    rwa [Nat.zero_add, byteLength_toList] at inside
  · have pieces : text.toList = before.toList ++ c :: after.toList := by simp [split]
    have covered := covered_of_visible 0 text.toList before.toList c after.toList pieces visible
    rwa [Nat.zero_add, byteLength_toList, ← lexicalTokens_eq] at covered

end SmartCollections
