import Mathlib.Data.List.Infix
import SmartCollections.Proofs.Lexing

/-!
# Written predicates

The written form of a predicate uses parentheses only where reading it without them would put it
together in another way. It is read back as the predicate itself, unless a literal holds a quote or
the text is beyond a limit.
-/

namespace SmartCollections

open Text

namespace Predicate

/-- The texts that the field matches of a predicate look for. -/
def literals : Predicate → List String
  | contains _ literal => [literal]
  | and left right => left.literals ++ right.literals
  | or left right => left.literals ++ right.literals

/-- At no point of the text are more than `room` parentheses open, those in literals not counted. -/
def Nested (room : Nat) (text : String) : Prop :=
  ∀ before, before <+: brackets false text.toList → before.count '(' ≤ before.count ')' + room

instance (room : Nat) (text : String) : Decidable (Nested room text) :=
  decidable_of_iff (∀ before ∈ (brackets false text.toList).inits,
    before.count '(' ≤ before.count ')' + room) (by simp only [Nested, List.mem_inits])

theorem Derives.literal_mem {level : Level} {kinds : List Token.Kind} {tree : Predicate}
    (derives : Derives level kinds tree) {literal : String} (mem : literal ∈ tree.literals) :
    .literal literal ∈ kinds := by
  induction derives with
  | term _ ih => exact ih mem
  | factor _ ih => exact ih mem
  | or _ _ ihLeft ihRight =>
    rcases List.mem_append.1 mem with left | right
    · exact List.mem_append_left _ (ihLeft left)
    · exact List.mem_append_right _ (List.mem_cons_of_mem _ (ihRight right))
  | and _ _ ihLeft ihRight =>
    rcases List.mem_append.1 mem with left | right
    · exact List.mem_append_left _ (ihLeft left)
    · exact List.mem_append_right _ (List.mem_cons_of_mem _ (ihRight right))
  | contains field text =>
    obtain rfl := List.mem_singleton.1 mem
    simp
  | group _ ih => exact List.mem_append_left _ (List.mem_cons_of_mem _ (ih mem))

theorem Derives.count_fields {level : Level} {kinds : List Token.Kind} {tree : Predicate}
    (derives : Derives level kinds tree) : kinds.countP isField = tree.size := by
  induction derives with
  | term _ ih => exact ih
  | factor _ ih => exact ih
  | or _ _ ihLeft ihRight => simp [size, isField, ihLeft, ihRight]
  | and _ _ ihLeft ihRight => simp [size, isField, ihLeft, ihRight]
  | contains field text => rfl
  | group _ ih => simp [isField, ih]

theorem count_brackets (kinds : List Token.Kind) :
    (kinds.filterMap Token.Kind.bracket?).count '(' = kinds.count .openParen ∧
      (kinds.filterMap Token.Kind.bracket?).count ')' = kinds.count .closeParen := by
  induction kinds with
  | nil => exact ⟨rfl, rfl⟩
  | cons kind kinds ih =>
    obtain ⟨opening, closing⟩ := ih
    cases kind <;>
      simp [Token.Kind.bracket?, List.filterMap_cons, opening, closing]

theorem brackets_eq_kinds (text : String) :
    brackets false text.toList = (kinds text).filterMap Token.Kind.bracket? := by
  rw [brackets_eq, kinds_eq, List.filterMap_map]
  congr 1
  exact funext fun kind => kind.corrected_bracket?.symm

/-- Parentheses can be counted in the text or among the tokens. -/
theorem nested_iff {room : Nat} {text : String} :
    Nested room text ↔ ∀ before, before <+: kinds text →
      before.count .openParen ≤ before.count .closeParen + room := by
  rw [Nested, brackets_eq_kinds]
  constructor
  · intro nested before isPrefix
    have counted := nested _ (isPrefix.filterMap Token.Kind.bracket?)
    rwa [(count_brackets before).1, (count_brackets before).2] at counted
  · intro nested before isPrefix
    obtain ⟨tokens, tokensPrefix, rfl⟩ := List.prefix_filterMap_iff.1 isPrefix
    rw [(count_brackets tokens).1, (count_brackets tokens).2]
    exact nested tokens tokensPrefix

theorem fits_iff {text : String} {tree : Predicate} {room : Nat}
    (derives : Derives .expression (kinds text) tree) :
    Fits room 0 (kinds text) ↔ tree.size ≤ maxOperands ∧ Nested room text := by
  rw [nested_iff]
  constructor
  · intro fits
    refine ⟨?_, fits.depth⟩
    have := fits.length
    rwa [Nat.zero_add, derives.count_fields] at this
  · rintro ⟨short, shallow⟩
    refine ⟨shallow, ?_⟩
    rwa [Nat.zero_add, derives.count_fields]

/-- Puts parentheses around the tokens of an operand that needs them. -/
def enclose (needed : Bool) (kinds : List Token.Kind) : List Token.Kind :=
  if needed then .openParen :: kinds ++ [.closeParen] else kinds

/-- The tokens that a predicate is written with. -/
def signs : Predicate → List Token.Kind
  | contains field literal => [.field field, .literal literal]
  | and left right =>
    enclose (left.precedence < 1) left.signs ++ .and :: enclose (right.precedence ≤ 1) right.signs
  | or left right =>
    enclose (left.precedence < 0) left.signs ++ .or :: enclose (right.precedence ≤ 0) right.signs

/-- The level of phrases that bind at least as tightly as the precedence says. -/
def Level.of : Nat → Level
  | 0 => .expression
  | 1 => .term
  | _ => .factor

theorem Derives.looser {precedence tighter : Nat} {kinds : List Token.Kind} {tree : Predicate}
    (derives : Derives (.of tighter) kinds tree) (le : precedence ≤ tighter) :
    Derives (.of precedence) kinds tree := by
  induction le with
  | refl => exact derives
  | @step tighter _ ih =>
    refine ih ?_
    match tighter with
    | 0 => exact .term derives
    | 1 => exact .factor derives
    | _ + 2 => exact derives

/-- An operand that is enclosed if it binds more loosely than it should is a phrase of the level
that it should be of. -/
theorem Derives.enclose {tree : Predicate} {kinds : List Token.Kind}
    (derives : Derives (.of tree.precedence) kinds tree) (precedence : Nat) :
    Derives (.of precedence) (enclose (tree.precedence < precedence) kinds) tree := by
  by_cases loose : tree.precedence < precedence
  · have grouped : Derives (.of (precedence + 2)) (.openParen :: kinds ++ [.closeParen]) tree :=
      .group (derives.looser (Nat.zero_le _))
    rw [Predicate.enclose, if_pos (decide_eq_true loose)]
    exact grouped.looser (by omega)
  · rw [Predicate.enclose, if_neg (by simpa using loose)]
    exact derives.looser (Nat.le_of_not_lt loose)

/-- What a predicate is written with is a sentence, and the predicate is its tree. -/
theorem signs_derive (tree : Predicate) : Derives (.of tree.precedence) tree.signs tree := by
  induction tree with
  | contains field literal => exact .contains field literal
  | and left right ihLeft ihRight =>
    have operand := ihRight.enclose 2
    simp only [Nat.lt_succ_iff] at operand
    exact .and (ihLeft.enclose 1) operand
  | or left right ihLeft ihRight =>
    have operand := ihRight.enclose 1
    simp only [Nat.lt_succ_iff] at operand
    exact .or (ihLeft.enclose 0) operand

end Predicate

/-- Whatever follows, the characters are read as tokens of these kinds. -/
def Spells (chars : List Char) (kinds : List Token.Kind) : Prop :=
  ∀ rest, lexicalKinds (chars ++ rest) = kinds ++ lexicalKinds rest

theorem isUpper_bounds {c : Char} (upper : c.isUpper = true) : 65 ≤ c.toNat ∧ c.toNat ≤ 90 := by
  have both : 'A'.val ≤ c.val ∧ c.val ≤ 'Z'.val := of_decide_eq_true upper
  exact ⟨UInt32.le_iff_toNat_le.1 both.1, UInt32.le_iff_toNat_le.1 both.2⟩

theorem isWordCharacter_of_isUpper {c : Char} (upper : c.isUpper = true) :
    isWordCharacter c = true := by
  have ascii : c.toNat < 128 := by
    have := isUpper_bounds upper
    omega
  have letter : (c.isUpper || c.isLower) = true := by rw [upper, Bool.true_or]
  have alphanumeric : (c.isAlpha || c.isDigit) = true := Bool.or_eq_true_iff.2 (.inl letter)
  rw [isWordCharacter, if_pos ascii, Bool.or_eq_true]
  exact .inl alphanumeric

theorem not_isBlank_of_isUpper {c : Char} (upper : c.isUpper = true) : ¬ isBlank c = true := by
  have bounds := isUpper_bounds upper
  simp [isBlank, covers, blankRanges]
  omega

namespace Spells

variable {chars others : List Char} {kinds more : List Token.Kind}

theorem append (first : Spells chars kinds) (second : Spells others more) :
    Spells (chars ++ others) (kinds ++ more) := by
  intro rest
  rw [List.append_assoc, first, second, List.append_assoc]

theorem single {c : Char} (kind : Option Token.Kind)
    (lexeme : ∀ rest, firstLexeme c rest = ⟨kind, [c], rest⟩) : Spells [c] kind.toList := by
  intro rest
  rw [List.singleton_append, lexicalKinds, lexeme]

theorem space : Spells [' '] [] := single none fun _ => rfl

theorem openParen : Spells ['('] [.openParen] := single (some .openParen) fun _ => rfl

theorem closeParen : Spells [')'] [.closeParen] := single (some .closeParen) fun _ => rfl

theorem literal {text : String} (noQuote : '"' ∉ text.toList) :
    Spells ('"' :: text.toList ++ ['"']) [.literal text] := by
  intro rest
  have plain : ∀ c ∈ text.toList, decide (c ≠ '"') = true := fun c hc =>
    decide_eq_true fun heq => noQuote (heq ▸ hc)
  have lexeme : firstLexeme '"' (text.toList ++ '"' :: rest) =
      ⟨some (.literal text), '"' :: text.toList ++ ['"'], rest⟩ := by
    have notBlank : ¬ isBlank '"' = true := by decide
    unfold firstLexeme
    rw [if_neg notBlank, if_pos rfl]
    dsimp only
    rw [List.takeWhile_append_of_pos plain, List.dropWhile_append_of_pos plain]
    simp
  rw [List.append_assoc, List.cons_append, List.singleton_append, lexicalKinds, lexeme]
  rfl

/-- A word in capital letters ends at a space. -/
theorem capitals {word : String} {c : Char} {letters : List Char}
    (spelt : word.toList = c :: letters) (upper : word.toList.all Char.isUpper = true) :
    Spells (word.toList ++ [' ']) [classify word] := by
  intro rest
  have capital := List.all_eq_true.1 upper
  have letter : ∀ d ∈ c :: letters, isWordCharacter d = true := fun d hd =>
    isWordCharacter_of_isUpper (capital d (spelt ▸ hd))
  have others : ∀ d ∈ letters, isWordCharacter d = true := fun d hd =>
    letter d (List.mem_cons_of_mem _ hd)
  have lexeme : firstLexeme c (letters ++ ' ' :: rest) =
      ⟨some (classify word), word.toList, ' ' :: rest⟩ := by
    have first := capital c (spelt ▸ List.mem_cons_self)
    have ordinary := isOrdinary_of_isWordCharacter (letter c List.mem_cons_self)
    simp only [isOrdinary, Bool.and_eq_true, bne_iff_ne] at ordinary
    have noSymbol : ¬ (c = '&' ∨ c = '|') := by
      rintro (rfl | rfl) <;> cases first
    have space : isWordCharacter ' ' = false := rfl
    unfold firstLexeme
    rw [if_neg (not_isBlank_of_isUpper first), if_neg ordinary.1.1, if_neg ordinary.1.2,
      if_neg ordinary.2, if_neg noSymbol, if_pos (letter c List.mem_cons_self),
      List.takeWhile_append_of_pos others, List.dropWhile_append_of_pos others,
      List.takeWhile_cons_of_neg (by simp [space]), List.dropWhile_cons_of_neg (by simp [space]),
      List.append_nil, ← spelt]
    dsimp only
    rw [String.ofList_toList]
  have blank := space rest
  rw [List.append_assoc, spelt, List.cons_append, List.singleton_append, lexicalKinds, lexeme,
    Option.toList_some]
  exact congrArg ([classify word] ++ ·) blank

theorem wrap {written : String} (needed : Bool) (spells : Spells written.toList kinds) :
    Spells (Predicate.wrap needed written).toList (Predicate.enclose needed kinds) := by
  cases needed with
  | false => exact spells
  | true =>
    have grouped := (openParen.append spells).append closeParen
    simpa [Predicate.wrap, Predicate.enclose] using grouped

end Spells

namespace Predicate

theorem keyword_spells (field : Field) :
    Spells (field.keyword.toList ++ [' ']) [.field field] := by
  have spelt : classify field.keyword = .field field := by cases field <;> decide +kernel
  rw [← spelt]
  cases field <;> exact .capitals rfl (by decide)

/-- Two operands with an operator between them. -/
theorem operator_spells {first second : List Char} {left right : List Token.Kind} {word : String}
    {sign : Token.Kind} (sign_spells : Spells (word.toList ++ [' ']) [sign])
    (leftSpells : Spells first left) (rightSpells : Spells second right) :
    Spells (first ++ (' ' :: word.toList ++ [' ']) ++ second) (left ++ sign :: right) := by
  have joined := ((leftSpells.append .space).append sign_spells).append rightSpells
  simpa using joined

/-- The written predicate is read as its tokens. -/
theorem text_spells {tree : Predicate}
    (noQuote : ∀ literal ∈ tree.literals, '"' ∉ literal.toList) :
    Spells tree.text.toList tree.signs := by
  induction tree with
  | contains field literal =>
    have keyword := keyword_spells field
    have quoted := keyword.append (.literal (noQuote literal (List.mem_singleton.2 rfl)))
    simpa [text, signs] using quoted
  | and left right ihLeft ihRight =>
    have first := ihLeft fun l hl => noQuote l (List.mem_append_left _ hl)
    have second := ihRight fun l hl => noQuote l (List.mem_append_right _ hl)
    have sign : Spells ("AND".toList ++ [' ']) [.and] := .capitals rfl (by decide)
    have joined := operator_spells sign (first.wrap (left.precedence < 1))
      (second.wrap (right.precedence ≤ 1))
    simpa [text, signs] using joined
  | or left right ihLeft ihRight =>
    have first := ihLeft fun l hl => noQuote l (List.mem_append_left _ hl)
    have second := ihRight fun l hl => noQuote l (List.mem_append_right _ hl)
    have sign : Spells ("OR".toList ++ [' ']) [.or] := .capitals rfl (by decide)
    have joined := operator_spells sign (first.wrap (left.precedence < 0))
      (second.wrap (right.precedence ≤ 0))
    simpa [text, signs] using joined

/-- No word is among the tokens that a predicate is written with, so there is nothing to correct. -/
theorem signs_corrected (tree : Predicate) :
    tree.signs.map Token.Kind.corrected = tree.signs := by
  have enclosed (needed : Bool) {kinds : List Token.Kind}
      (same : kinds.map Token.Kind.corrected = kinds) :
      (enclose needed kinds).map Token.Kind.corrected = enclose needed kinds := by
    cases needed <;> simp [enclose, same, Token.Kind.corrected]
  induction tree with
  | contains field literal => rfl
  | and left right ihLeft ihRight =>
    simp [signs, enclosed _ ihLeft, enclosed _ ihRight, Token.Kind.corrected]
  | or left right ihLeft ihRight =>
    simp [signs, enclosed _ ihLeft, enclosed _ ihRight, Token.Kind.corrected]

theorem kinds_text {tree : Predicate}
    (noQuote : ∀ literal ∈ tree.literals, '"' ∉ literal.toList) : kinds tree.text = tree.signs := by
  have read := text_spells noQuote []
  have nothing : lexicalKinds [] = [] := by rw [lexicalKinds]
  rw [nothing, List.append_nil, List.append_nil] at read
  rw [kinds_eq, read, signs_corrected]

/-- A literal of a tree that was read is a literal of the text. -/
theorem quote_not_mem_of_parse {text : String} {tree : Predicate} (parsed : parse text = .ok tree)
    {literal : String} (mem : literal ∈ tree.literals) : '"' ∉ literal.toList := by
  have derives := (parse_eq_ok_iff.1 parsed).1
  have token := derives.literal_mem mem
  rw [kinds_eq] at token
  obtain ⟨kind, present, corrected⟩ := List.mem_map.1 token
  rw [kind.literal_of_corrected corrected] at present
  exact quote_not_mem_literal present

/-- What is within the limits is read back from its written form. -/
theorem parse_text {tree : Predicate} (noQuote : ∀ literal ∈ tree.literals, '"' ∉ literal.toList)
    (short : tree.size ≤ maxOperands) (shallow : Nested maxDepth tree.text) :
    parse tree.text = .ok tree := by
  have derives : Derives .expression (kinds tree.text) tree := by
    rw [kinds_text noQuote]
    exact tree.signs_derive.looser (Nat.zero_le _)
  exact parse_eq_ok_iff.2 ⟨derives, (fits_iff derives).2 ⟨short, shallow⟩⟩

/-- A predicate is read back from its written form exactly if no literal holds a quote, there are at
most 512 field matches, and at most 64 parentheses are open at once. -/
theorem parse_text_iff (tree : Predicate) :
    parse tree.text = .ok tree ↔
      (∀ literal ∈ tree.literals, '"' ∉ literal.toList) ∧ tree.size ≤ 512 ∧
        Nested 64 tree.text := by
  constructor
  · intro parsed
    obtain ⟨derives, fits⟩ := parse_eq_ok_iff.1 parsed
    exact ⟨fun literal mem => quote_not_mem_of_parse parsed mem, (fits_iff derives).1 fits⟩
  · rintro ⟨noQuote, short, shallow⟩
    exact parse_text noQuote short shallow

/-- With a quote in a literal, the written form may well be a sentence, but it is another one. -/
example : (parse (contains .title "a\" OR TITLE \"b").text).toOption =
    some (.or (.contains .title "a") (.contains .title "b")) := by
  decide +kernel

end Predicate

end SmartCollections
