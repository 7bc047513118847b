import Mathlib.Data.List.TakeWhile
import SmartCollections.Proofs.Parsing

/-!
# Tokens and the characters they stand for

Where tokens stand in a text does not matter to what it says. Their kinds can be read off the text
piece by piece, so what holds of every first piece holds of the text: its literals are free of
quotes, and its parentheses are the parentheses outside literals.
-/

namespace SmartCollections

open Text

/-- The kinds of the tokens of a text. -/
def lexicalKinds : List Char → List Token.Kind
  | [] => []
  | c :: rest =>
    (firstLexeme c rest).kind.toList ++ lexicalKinds (firstLexeme c rest).rest
  termination_by text => text.length
  decreasing_by exact length_firstLexeme_rest_lt c rest

theorem readTokens_kinds (done : Array Token) (start : Nat) (text : List Char) :
    (readTokens done start text).toList.map Token.kind =
      done.toList.map Token.kind ++ lexicalKinds text := by
  fun_induction readTokens done start text with
  | case1 done start => simp [lexicalKinds]
  | case2 done start c rest lexeme stop next ih =>
    rw [ih, lexicalKinds, ← List.append_assoc]
    congr 1
    simp only [next, lexeme]
    cases (firstLexeme c rest).kind <;> simp

theorem lexicalTokens_kinds (text : List Char) :
    (lexicalTokens text).map Token.kind = lexicalKinds text := by
  simp [lexicalTokens, readTokens_kinds]

/-- What correction makes of a token of this kind. -/
def Token.Kind.corrected : Token.Kind → Token.Kind
  | .word text => (correct? text).getD (.word text)
  | kind => kind

theorem Token.corrected_kind (token : Token) : token.corrected.kind = token.kind.corrected := by
  obtain ⟨kind, span⟩ := token
  cases kind <;> rfl

theorem Predicate.kinds_eq (text : String) :
    kinds text = (lexicalKinds text.toList).map Token.Kind.corrected := by
  rw [kinds, sentence, tokenize, List.map_append, List.map_singleton, List.dropLast_concat,
    List.map_map, ← lexicalTokens_kinds, List.map_map]
  exact List.map_congr_left fun token _ => token.corrected_kind

/-- A word is corrected to an operator or a keyword, if at all. -/
theorem correct?_cases {word : String} {kind : Token.Kind} (corrected : correct? word = some kind) :
    kind = .and ∨ kind = .or ∨ ∃ field, kind = .field field := by
  unfold correct? at corrected
  dsimp only at corrected
  split at corrected
  · exact .inl (Option.some.inj corrected).symm
  · split at corrected
    · exact .inr (.inl (Option.some.inj corrected).symm)
    · split at corrected
      · next field _ => exact .inr (.inr ⟨field, (Option.some.inj corrected).symm⟩)
      · split at corrected
        · obtain ⟨field, _, rfl⟩ := Option.map_eq_some_iff.1 corrected
          exact .inr (.inr ⟨field, rfl⟩)
        · cases corrected

/-- No literal comes from correction. -/
theorem Token.Kind.literal_of_corrected {kind : Token.Kind} {text : String}
    (corrected : kind.corrected = .literal text) : kind = .literal text := by
  cases kind with
  | word word =>
    simp only [Token.Kind.corrected] at corrected
    cases found : correct? word with
    | none => simp [found] at corrected
    | some kind =>
      rw [found, Option.getD_some] at corrected
      subst corrected
      rcases correct?_cases found with h | h | ⟨field, h⟩ <;> cases h
  | _ => exact corrected

theorem firstLexeme_literal {c : Char} {rest : List Char} {text : String}
    (literal : (firstLexeme c rest).kind = some (.literal text)) : '"' ∉ text.toList := by
  have word : ∀ word, classify word ≠ .literal text := by
    intro word
    unfold classify
    repeat' split
    all_goals nofun
  unfold firstLexeme at literal
  repeat' split at literal
  all_goals simp only [Option.some.injEq, Token.Kind.literal.injEq, reduceCtorEq] at literal
  · rw [← literal, String.toList_ofList]
    intro quote
    simpa using List.mem_takeWhile_imp quote
  · exact absurd literal (word _)

/-- No literal holds a quote. -/
theorem quote_not_mem_literal {text : List Char} {literal : String}
    (mem : .literal literal ∈ lexicalKinds text) : '"' ∉ literal.toList := by
  fun_induction lexicalKinds text with
  | case1 => cases mem
  | case2 c rest ih =>
    rcases List.mem_append.1 mem with first | later
    · exact firstLexeme_literal (Option.mem_toList.1 first)
    · exact ih later

/-- The parentheses of a text that are not between quotes. -/
def brackets (quoted : Bool) : List Char → List Char
  | [] => []
  | c :: rest =>
    if c = '"' then brackets (!quoted) rest
    else if !quoted && (c == '(' || c == ')') then c :: brackets quoted rest
    else brackets quoted rest

/-- The parenthesis that a token is. -/
def Token.Kind.bracket? : Token.Kind → Option Char
  | .openParen => some '('
  | .closeParen => some ')'
  | _ => none

theorem Token.Kind.corrected_bracket? (kind : Token.Kind) :
    kind.corrected.bracket? = kind.bracket? := by
  cases kind with
  | word word =>
    simp only [Token.Kind.corrected]
    cases found : correct? word with
    | none => rfl
    | some kind => rcases correct?_cases found with rfl | rfl | ⟨field, rfl⟩ <;> rfl
  | _ => rfl

theorem classify_bracket? (word : String) : (classify word).bracket? = none := by
  unfold classify
  repeat' split
  all_goals rfl

/-- A character that makes no difference to what is quoted, and is no parenthesis. -/
def isOrdinary (c : Char) : Bool := c != '"' && c != '(' && c != ')'

theorem brackets_ordinary {chars rest : List Char}
    (ordinary : ∀ c ∈ chars, isOrdinary c = true) :
    brackets false (chars ++ rest) = brackets false rest := by
  induction chars with
  | nil => rfl
  | cons c chars ih =>
    have first := ordinary c List.mem_cons_self
    simp only [isOrdinary, Bool.and_eq_true, bne_iff_ne] at first
    rw [List.cons_append, brackets, if_neg first.1.1, if_neg (by simp [first.1.2, first.2])]
    exact ih fun c hc => ordinary c (List.mem_cons_of_mem _ hc)

theorem brackets_quoted {chars : List Char} (noQuote : '"' ∉ chars) (rest : List Char) :
    brackets true (chars ++ rest) = brackets true rest := by
  induction chars with
  | nil => rfl
  | cons c chars ih =>
    obtain ⟨first, others⟩ := not_or.1 (mt List.mem_cons.2 noQuote)
    rw [List.cons_append, brackets, if_neg (Ne.symm first), if_neg (by simp)]
    exact ih others

theorem isOrdinary_of_isBlank {c : Char} (blank : isBlank c = true) : isOrdinary c = true := by
  have quote : c ≠ '"' := by rintro rfl; revert blank; decide
  have opening : c ≠ '(' := by rintro rfl; revert blank; decide
  have closing : c ≠ ')' := by rintro rfl; revert blank; decide
  simp [isOrdinary, quote, opening, closing]

theorem isOrdinary_of_isWordCharacter {c : Char} (word : isWordCharacter c = true) :
    isOrdinary c = true := by
  have quote : c ≠ '"' := by rintro rfl; revert word; decide
  have opening : c ≠ '(' := by rintro rfl; revert word; decide
  have closing : c ≠ ')' := by rintro rfl; revert word; decide
  simp [isOrdinary, quote, opening, closing]

theorem brackets_dropWhile {p : Char → Bool} (ordinary : ∀ c, p c = true → isOrdinary c = true)
    (text : List Char) : brackets false (text.dropWhile p) = brackets false text := by
  have run : ∀ c ∈ text.takeWhile p, isOrdinary c = true := fun c hc =>
    ordinary c (List.mem_takeWhile_imp hc)
  rw [← brackets_ordinary run, List.takeWhile_append_dropWhile]

/-- There is nothing to see until the quote that ends the literal. -/
theorem brackets_literal (text : List Char) :
    brackets true text = match text.dropWhile (· ≠ '"') with
      | [] => []
      | _ :: rest => brackets false rest := by
  have noQuote : '"' ∉ text.takeWhile (· ≠ '"') := by
    intro quote
    simpa using List.mem_takeWhile_imp quote
  have skipped := brackets_quoted noQuote (text.dropWhile (· ≠ '"'))
  rw [List.takeWhile_append_dropWhile] at skipped
  rw [skipped]
  cases left : text.dropWhile (· ≠ '"') with
  | nil => rfl
  | cons c rest =>
    have quote := List.head?_dropWhile_not (· ≠ '"') text
    rw [left] at quote
    obtain rfl : c = '"' := by simpa using quote
    rfl

/-- The parentheses of a first piece are those of its token. -/
theorem brackets_firstLexeme (c : Char) (rest : List Char) :
    brackets false (c :: rest) =
      (firstLexeme c rest).kind.toList.filterMap Token.Kind.bracket? ++
        brackets false (firstLexeme c rest).rest := by
  have plain : isOrdinary c = true → brackets false (c :: rest) = brackets false rest := by
    intro ordinary
    have single : ∀ d ∈ [c], isOrdinary d = true := by simpa using ordinary
    exact brackets_ordinary single
  unfold firstLexeme
  split
  · next blank => exact plain (isOrdinary_of_isBlank blank)
  split
  · next quote =>
    subst quote
    have opened : brackets false ('"' :: rest) = brackets true rest := rfl
    rw [opened, brackets_literal]
    cases rest.dropWhile (· ≠ '"') <;> rfl
  split
  · next opening =>
    subst opening
    rfl
  split
  · next closing =>
    subst closing
    rfl
  next noQuote noOpening noClosing =>
  have ordinary : isOrdinary c = true := by simp [isOrdinary, noQuote, noOpening, noClosing]
  split
  · have same : ∀ d, decide (d = c) = true → isOrdinary d = true := by
      intro d hd
      rwa [of_decide_eq_true hd]
    exact (plain ordinary).trans (brackets_dropWhile same rest).symm
  split
  · have word := brackets_dropWhile (fun _ => isOrdinary_of_isWordCharacter) rest
    simp only [Option.toList_some, List.filterMap_cons, classify_bracket?, List.filterMap_nil,
      List.nil_append, word]
    exact plain ordinary
  · exact plain ordinary

/-- The parentheses of a text, except for those in literals, are its parenthesis tokens. -/
theorem brackets_eq (text : List Char) :
    brackets false text = (lexicalKinds text).filterMap Token.Kind.bracket? := by
  fun_induction lexicalKinds text with
  | case1 => rfl
  | case2 c rest ih => rw [brackets_firstLexeme, ih, List.filterMap_append]

end SmartCollections
