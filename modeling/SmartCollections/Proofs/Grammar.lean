import SmartCollections.Predicate.Parser

/-!
# The grammar of expressions

    expression := term (OR term)*
    term       := factor (AND factor)*
    factor     := FIELD LITERAL | "(" expression ")"

A derivation carries its tree. Repetition is written as recursion on the left, which is what makes
both operators lean to the left; a pair of parentheses leaves no node. Sentences may be longer and
deeper than the limits allow.
-/

namespace SmartCollections.Predicate

inductive Level where
  | expression
  | term
  | factor

/-- The kinds of tokens form a phrase of the level, and this is its tree. -/
inductive Derives : Level → List Token.Kind → Predicate → Prop where
  | term {kinds : List Token.Kind} {tree : Predicate} (single : Derives .term kinds tree) :
      Derives .expression kinds tree
  | or {left right : List Token.Kind} {first second : Predicate}
      (before : Derives .expression left first) (after : Derives .term right second) :
      Derives .expression (left ++ .or :: right) (.or first second)
  | factor {kinds : List Token.Kind} {tree : Predicate} (single : Derives .factor kinds tree) :
      Derives .term kinds tree
  | and {left right : List Token.Kind} {first second : Predicate}
      (before : Derives .term left first) (after : Derives .factor right second) :
      Derives .term (left ++ .and :: right) (.and first second)
  | contains (field : Field) (text : String) :
      Derives .factor [.field field, .literal text] (.contains field text)
  | group {kinds : List Token.Kind} {tree : Predicate} (inner : Derives .expression kinds tree) :
      Derives .factor (.openParen :: kinds ++ [.closeParen]) tree

theorem Derives.ne_nil {level : Level} {kinds : List Token.Kind} {tree : Predicate}
    (derives : Derives level kinds tree) : kinds ≠ [] := by
  induction derives with
  | term _ ih => exact ih
  | or _ _ _ _ => simp
  | factor _ ih => exact ih
  | and _ _ _ _ => simp
  | contains field text => simp
  | group _ _ => simp

/-- The token can stand in an expression. -/
def isExpected : Token.Kind → Bool
  | .word _ | .invalid _ | .eof => false
  | _ => true

theorem Derives.expected {level : Level} {kinds : List Token.Kind} {tree : Predicate}
    (derives : Derives level kinds tree) : ∀ kind ∈ kinds, isExpected kind = true := by
  induction derives with
  | term _ ih => exact ih
  | factor _ ih => exact ih
  | or _ _ ihLeft ihRight =>
    exact List.forall_mem_append.2 ⟨ihLeft, List.forall_mem_cons.2 ⟨rfl, ihRight⟩⟩
  | and _ _ ihLeft ihRight =>
    exact List.forall_mem_append.2 ⟨ihLeft, List.forall_mem_cons.2 ⟨rfl, ihRight⟩⟩
  | contains field text => simp [isExpected]
  | group _ ih =>
    exact List.forall_mem_append.2 ⟨List.forall_mem_cons.2 ⟨rfl, ih⟩, by simp [isExpected]⟩

def isField : Token.Kind → Bool
  | .field _ => true
  | _ => false

/-- At no point are more than `room` more parentheses open than at the start, and with the
`operands` keywords before them there are not too many keywords. -/
structure Fits (room operands : Nat) (kinds : List Token.Kind) : Prop where
  depth (before : List Token.Kind) : before <+: kinds →
    before.count .openParen ≤ before.count .closeParen + room
  length : operands + kinds.countP isField ≤ maxOperands

/-- The first token that is beyond a limit, as the fault that it is. -/
def breach? : (room operands : Nat) → List Token → Option ParseError
  | _, _, [] => none
  | room, operands, ⟨.openParen, span⟩ :: rest =>
    match room with
    | 0 => some ⟨.tooDeep, span⟩
    | room + 1 => breach? room operands rest
  | room, operands, ⟨.closeParen, _⟩ :: rest => breach? (room + 1) operands rest
  | room, operands, ⟨.field _, span⟩ :: rest =>
    if operands = maxOperands then some ⟨.tooLong, span⟩ else breach? room (operands + 1) rest
  | room, operands, _ :: rest => breach? room operands rest

/-- The number of keywords among tokens. -/
def fields (tokens : List Token) : Nat := (tokens.map Token.kind).countP isField

/-- A token that is neither a parenthesis nor a keyword. -/
def isPlain : Token.Kind → Bool
  | .openParen | .closeParen | .field _ => false
  | _ => true

theorem breach?_plain {token : Token} (plain : isPlain token.kind = true) (room operands : Nat)
    (rest : List Token) : breach? room operands (token :: rest) = breach? room operands rest := by
  obtain ⟨kind, span⟩ := token
  cases kind <;> simp_all [isPlain, breach?]

theorem fields_plain {token : Token} (plain : isPlain token.kind = true) (rest : List Token) :
    fields (token :: rest) = fields rest := by
  obtain ⟨kind, span⟩ := token
  cases kind <;> simp_all [isPlain, fields, isField]

theorem fields_append (first second : List Token) :
    fields (first ++ second) = fields first + fields second := by
  simp [fields]

theorem fields_field (field : Field) (span : Span) (rest : List Token) :
    fields (⟨.field field, span⟩ :: rest) = fields rest + 1 := by
  simp [fields, List.countP_cons, isField]

theorem fields_group (inner : List Token) (opening closing : Span) :
    fields (⟨.openParen, opening⟩ :: inner ++ [⟨.closeParen, closing⟩]) = fields inner := by
  simp [fields, isField]

/-- Tokens spelt as two phrases with a sign between them fall into two groups with a token between
them. -/
theorem split_at_sign {tokens : List Token} {left right : List Token.Kind} {sign : Token.Kind}
    (spelt : tokens.map Token.kind = left ++ sign :: right) :
    ∃ first token second, tokens = first ++ token :: second ∧ first.map Token.kind = left ∧
      token.kind = sign ∧ second.map Token.kind = right := by
  obtain ⟨first, others, rfl, hfirst, hothers⟩ := List.map_eq_append_iff.1 spelt
  obtain ⟨token, second, rfl, htoken, hsecond⟩ := List.map_eq_cons_iff.1 hothers
  exact ⟨first, token, second, rfl, hfirst, htoken, hsecond⟩

/-- Tokens spelt as a keyword and a literal. -/
theorem split_match {tokens : List Token} {field : Field} {text : String}
    (spelt : tokens.map Token.kind = [.field field, .literal text]) :
    ∃ place span, tokens = [⟨.field field, place⟩, ⟨.literal text, span⟩] := by
  obtain ⟨⟨_, place⟩, others, rfl, rfl, later⟩ := List.map_eq_cons_iff.1 spelt
  obtain ⟨⟨_, span⟩, none, rfl, rfl, nothing⟩ := List.map_eq_cons_iff.1 later
  obtain rfl := List.map_eq_nil_iff.1 nothing
  exact ⟨place, span, rfl⟩

/-- Tokens spelt as a phrase in parentheses. -/
theorem split_group {tokens : List Token} {kinds : List Token.Kind}
    (spelt : tokens.map Token.kind = .openParen :: kinds ++ [.closeParen]) :
    ∃ opening inner closing,
      tokens = ⟨.openParen, opening⟩ :: inner ++ [⟨.closeParen, closing⟩] ∧
        inner.map Token.kind = kinds := by
  obtain ⟨first, ⟨_, closing⟩, second, rfl, hfirst, rfl, hsecond⟩ := split_at_sign spelt
  obtain ⟨⟨_, opening⟩, inner, rfl, rfl, hinner⟩ := List.map_eq_cons_iff.1 hfirst
  obtain rfl := List.map_eq_nil_iff.1 hsecond
  exact ⟨opening, inner, closing, rfl, hinner⟩

/-- The limits go on after the tokens with the room that there was before them. -/
def Balanced (tokens : List Token) : Prop :=
  ∀ room operands rest, breach? room operands (tokens ++ rest) =
    (breach? room operands tokens).or (breach? room (operands + fields tokens) rest)

theorem Balanced.join {first second : List Token} {token : Token} (balanced : Balanced first)
    (plain : isPlain token.kind = true) (then_ : Balanced second) :
    Balanced (first ++ token :: second) := by
  intro room operands rest
  rw [List.append_assoc, balanced, balanced, List.cons_append, breach?_plain plain,
    breach?_plain plain, then_, fields_append, fields_plain plain, Option.or_assoc, Nat.add_assoc]

theorem Balanced.group {inner : List Token} (balanced : Balanced inner) (opening closing : Span) :
    Balanced (⟨.openParen, opening⟩ :: inner ++ [⟨.closeParen, closing⟩]) := by
  intro room operands rest
  rw [fields_group, List.append_assoc]
  cases room with
  | zero => rfl
  | succ room =>
    simp only [List.cons_append, breach?]
    rw [balanced, balanced, Option.or_assoc]
    rfl

/-- A phrase closes all parentheses that it opens. -/
theorem Derives.balanced {level : Level} {kinds : List Token.Kind} {tree : Predicate}
    (derives : Derives level kinds tree) {tokens : List Token}
    (spelt : tokens.map Token.kind = kinds) : Balanced tokens := by
  induction derives generalizing tokens with
  | term _ ih => exact ih spelt
  | or _ _ ihLeft ihRight =>
    obtain ⟨first, token, second, rfl, hfirst, htoken, hsecond⟩ := split_at_sign spelt
    exact (ihLeft hfirst).join (by rw [htoken]; rfl) (ihRight hsecond)
  | factor _ ih => exact ih spelt
  | and _ _ ihLeft ihRight =>
    obtain ⟨first, token, second, rfl, hfirst, htoken, hsecond⟩ := split_at_sign spelt
    exact (ihLeft hfirst).join (by rw [htoken]; rfl) (ihRight hsecond)
  | contains field text =>
    obtain ⟨place, span, rfl⟩ := split_match spelt
    intro room operands rest
    by_cases full : operands = maxOperands
    · simp [breach?, full]
    · simp [breach?, full, fields, List.countP_cons, isField]
  | group _ ih =>
    obtain ⟨opening, inner, closing, rfl, hinner⟩ := split_group spelt
    exact (ih hinner).group opening closing

namespace Fits

variable {room operands : Nat} {kinds : List Token.Kind}

theorem nil_iff : Fits room operands [] ↔ operands ≤ maxOperands := by
  constructor
  · intro fits
    exact fits.length
  · intro few
    refine ⟨fun before isPrefix => ?_, few⟩
    simp [List.prefix_nil.1 isPrefix]

/-- What the limits say from the second token on. -/
theorem cons_iff {kind : Token.Kind} :
    Fits room operands (kind :: kinds) ↔
      (∀ before, before <+: kinds → (kind :: before).count .openParen ≤
        (kind :: before).count .closeParen + room) ∧
      operands + (kind :: kinds).countP isField ≤ maxOperands := by
  constructor
  · intro fits
    refine ⟨fun before isPrefix => fits.depth _ ?_, fits.length⟩
    exact List.cons_prefix_cons.2 ⟨rfl, isPrefix⟩
  · rintro ⟨depth, length⟩
    refine ⟨fun before isPrefix => ?_, length⟩
    rcases List.prefix_cons_iff.1 isPrefix with rfl | ⟨rest, rfl, restPrefix⟩
    · simp
    · exact depth rest restPrefix

theorem plain_iff {kind : Token.Kind} (plain : isPlain kind = true) :
    Fits room operands (kind :: kinds) ↔ Fits room operands kinds := by
  have counts : kind ≠ .openParen ∧ kind ≠ .closeParen ∧ isField kind = false := by
    cases kind <;> simp_all [isPlain, isField]
  obtain ⟨noOpen, noClose, noField⟩ := counts
  rw [cons_iff, List.countP_cons_of_neg (by simp [noField])]
  simp only [List.count_cons_of_ne noOpen, List.count_cons_of_ne noClose]
  exact ⟨fun h => ⟨h.1, h.2⟩, fun h => ⟨h.depth, h.length⟩⟩

theorem not_openParen : ¬ Fits 0 operands (.openParen :: kinds) := by
  intro fits
  have first := fits.depth [.openParen] (List.cons_prefix_cons.2 ⟨rfl, List.nil_prefix⟩)
  simp at first

theorem openParen_iff :
    Fits (room + 1) operands (.openParen :: kinds) ↔ Fits room operands kinds := by
  rw [cons_iff, List.countP_cons_of_neg (by simp [isField])]
  constructor
  · rintro ⟨depth, length⟩
    refine ⟨fun before isPrefix => ?_, length⟩
    have := depth before isPrefix
    simp only [List.count_cons_self, List.count_cons_of_ne, ne_eq, reduceCtorEq,
      not_false_eq_true] at this
    omega
  · intro fits
    refine ⟨fun before isPrefix => ?_, fits.length⟩
    have := fits.depth before isPrefix
    simp only [List.count_cons_self, List.count_cons_of_ne, ne_eq, reduceCtorEq,
      not_false_eq_true]
    omega

theorem closeParen_iff :
    Fits room operands (.closeParen :: kinds) ↔ Fits (room + 1) operands kinds := by
  rw [cons_iff, List.countP_cons_of_neg (by simp [isField])]
  constructor
  · rintro ⟨depth, length⟩
    refine ⟨fun before isPrefix => ?_, length⟩
    have := depth before isPrefix
    simp only [List.count_cons_self, List.count_cons_of_ne, ne_eq, reduceCtorEq,
      not_false_eq_true] at this
    omega
  · intro fits
    refine ⟨fun before isPrefix => ?_, fits.length⟩
    have := fits.depth before isPrefix
    simp only [List.count_cons_self, List.count_cons_of_ne, ne_eq, reduceCtorEq,
      not_false_eq_true]
    omega

theorem field_iff {field : Field} :
    Fits room operands (.field field :: kinds) ↔ Fits room (operands + 1) kinds := by
  rw [cons_iff, List.countP_cons_of_pos (by rfl)]
  constructor
  · rintro ⟨depth, length⟩
    refine ⟨fun before isPrefix => ?_, by omega⟩
    simpa [List.count_cons] using depth before isPrefix
  · rintro ⟨depth, length⟩
    refine ⟨fun before isPrefix => ?_, by omega⟩
    simpa [List.count_cons] using depth before isPrefix

end Fits

/-- Nothing is beyond a limit exactly if the limits are kept. -/
theorem breach?_eq_none_iff {room operands : Nat} {tokens : List Token}
    (few : operands ≤ maxOperands) :
    breach? room operands tokens = none ↔ Fits room operands (tokens.map Token.kind) := by
  induction tokens generalizing room operands with
  | nil => simp [breach?, Fits.nil_iff, few]
  | cons token tokens ih =>
    obtain ⟨kind, span⟩ := token
    rw [List.map_cons]
    by_cases plain : isPlain kind = true
    · rw [breach?_plain plain, Fits.plain_iff plain]
      exact ih few
    · cases kind with
      | openParen =>
        cases room with
        | zero => exact iff_of_false nofun Fits.not_openParen
        | succ room =>
          rw [breach?, Fits.openParen_iff]
          exact ih few
      | closeParen =>
        rw [breach?, Fits.closeParen_iff]
        exact ih few
      | field field =>
        rw [breach?, Fits.field_iff]
        by_cases full : operands = maxOperands
        · refine iff_of_false (by simp [full]) fun fits => ?_
          have := fits.length
          omega
        · rw [if_neg full]
          exact ih (by omega)
      | _ => simp [isPlain] at plain

/-- A token that is beyond a limit: with the tokens before it, it would open one parenthesis more
than there is room for, or be one keyword more than there may be. -/
inductive Exceeds (room operands : Nat) (before : List Token) : Token → ParseError → Prop where
  | tooDeep (span : Span)
      (full : (before.map Token.kind).count .openParen =
        (before.map Token.kind).count .closeParen + room) :
      Exceeds room operands before ⟨.openParen, span⟩ ⟨.tooDeep, span⟩
  | tooLong (field : Field) (span : Span) (full : operands + fields before = maxOperands) :
      Exceeds room operands before ⟨.field field, span⟩ ⟨.tooLong, span⟩

namespace Exceeds

variable {room operands : Nat} {before : List Token} {token : Token} {error : ParseError}

theorem plain {first : Token} (isPlain : isPlain first.kind = true)
    (exceeds : Exceeds room operands before token error) :
    Exceeds room operands (first :: before) token error := by
  have counts : first.kind ≠ .openParen ∧ first.kind ≠ .closeParen := by
    obtain ⟨kind, span⟩ := first
    constructor <;> rintro rfl <;> cases isPlain
  cases exceeds with
  | tooDeep span full =>
    refine .tooDeep span ?_
    simpa [List.count_cons, counts] using full
  | tooLong field span full =>
    refine .tooLong field span ?_
    rwa [fields_plain isPlain]

theorem openParen (exceeds : Exceeds room operands before token error) (opening : Span) :
    Exceeds (room + 1) operands (⟨.openParen, opening⟩ :: before) token error := by
  cases exceeds with
  | tooDeep span full =>
    refine .tooDeep span ?_
    simp only [List.map_cons, List.count_cons, beq_iff_eq, reduceCtorEq, if_true, if_false]
    omega
  | tooLong field span full => exact .tooLong field span full

theorem closeParen (exceeds : Exceeds (room + 1) operands before token error) (closing : Span) :
    Exceeds room operands (⟨.closeParen, closing⟩ :: before) token error := by
  cases exceeds with
  | tooDeep span full =>
    refine .tooDeep span ?_
    simp only [List.map_cons, List.count_cons, beq_iff_eq, reduceCtorEq, if_true, if_false]
    omega
  | tooLong field span full => exact .tooLong field span full

theorem field (exceeds : Exceeds room (operands + 1) before token error) (keyword : Field)
    (place : Span) : Exceeds room operands (⟨.field keyword, place⟩ :: before) token error := by
  cases exceeds with
  | tooDeep span full =>
    refine .tooDeep span ?_
    simpa [List.count_cons] using full
  | tooLong field span full =>
    refine .tooLong field span ?_
    rw [fields_field]
    omega

end Exceeds

/-- What is beyond a limit is the first token with which a limit is not kept. -/
theorem breach?_eq_some {room operands : Nat} {tokens : List Token} {error : ParseError}
    (breach : breach? room operands tokens = some error) :
    ∃ before token after, tokens = before ++ token :: after ∧ breach? room operands before = none ∧
      Exceeds room operands before token error := by
  induction tokens generalizing room operands with
  | nil => simp [breach?] at breach
  | cons first tokens ih =>
    obtain ⟨kind, span⟩ := first
    by_cases plain : isPlain kind = true
    · rw [breach?_plain plain] at breach
      obtain ⟨before, token, after, rfl, fits, exceeds⟩ := ih breach
      refine ⟨⟨kind, span⟩ :: before, token, after, rfl, ?_, exceeds.plain plain⟩
      rwa [breach?_plain plain]
    · cases kind with
      | openParen =>
        cases room with
        | zero =>
          cases breach
          exact ⟨[], _, tokens, rfl, rfl, .tooDeep span rfl⟩
        | succ room =>
          rw [breach?] at breach
          obtain ⟨before, token, after, rfl, fits, exceeds⟩ := ih breach
          exact ⟨⟨.openParen, span⟩ :: before, token, after, rfl, fits, exceeds.openParen span⟩
      | closeParen =>
        rw [breach?] at breach
        obtain ⟨before, token, after, rfl, fits, exceeds⟩ := ih breach
        exact ⟨⟨.closeParen, span⟩ :: before, token, after, rfl, fits, exceeds.closeParen span⟩
      | field field =>
        rw [breach?] at breach
        by_cases full : operands = maxOperands
        · rw [if_pos full] at breach
          cases breach
          exact ⟨[], _, tokens, rfl, rfl, .tooLong field span full⟩
        · rw [if_neg full] at breach
          obtain ⟨before, token, after, rfl, fits, exceeds⟩ := ih breach
          refine ⟨⟨.field field, span⟩ :: before, token, after, rfl, ?_, exceeds.field field span⟩
          rwa [breach?, if_neg full]
      | _ => simp [isPlain] at plain

end SmartCollections.Predicate
