import SmartCollections.Proofs.Canonical
import SmartCollections.Proofs.Cuts

/-!
# Texts put together

A text without lexical faults that is followed by a break is read as it is read alone, and what
follows it is read as it is read alone, but for where it stands. So the tokens of two expressions
with an operator between them are the tokens of both, those of the second one moved.
-/

namespace SmartCollections

open Text

/-- The range of bytes that lies so many bytes further on. -/
def Span.moved (bytes : Nat) (span : Span) : Span := ⟨span.start + bytes, span.stop + bytes⟩

def Token.moved (bytes : Nat) (token : Token) : Token := ⟨token.kind, token.span.moved bytes⟩

def Predicate.ParseError.moved (bytes : Nat) (error : ParseError) : ParseError :=
  ⟨error.kind, error.span.moved bytes⟩

namespace Token

variable (bytes : Nat)

theorem corrected_moved (token : Token) :
    (token.moved bytes).corrected = token.corrected.moved bytes := by
  obtain ⟨kind, span⟩ := token
  cases kind <;> rfl

theorem kind_comp_moved : Token.kind ∘ Token.moved bytes = Token.kind := rfl

end Token

/-- Where a text starts matters to nothing but where its tokens stand. -/
theorem tokensFrom_moved (start bytes : Nat) (text : List Char) :
    tokensFrom (start + bytes) text = (tokensFrom start text).map (Token.moved bytes) := by
  fun_induction tokensFrom start text with
  | case1 start => exact tokensFrom_nil _
  | case2 start c rest lexeme stop ih =>
    have further : start + bytes + byteLength lexeme.chars = stop + bytes := by
      simp only [stop]
      omega
    rw [tokensFrom, further, ih, List.map_append]
    congr 1
    cases lexeme.kind with
    | none => rfl
    | some kind => rfl

/-- A text without lexical faults is read as it is read alone, if a break comes next, and so is what
follows it. -/
theorem tokensFrom_append {start : Nat} {text tail : List Char}
    (sound : ∀ token ∈ tokensFrom start text, Predicate.isFault token.kind = false)
    (breaks : ∀ d ∈ tail.head?, isBreak d = true) :
    tokensFrom start (text ++ tail) =
      tokensFrom start text ++ tokensFrom (start + byteLength text) tail :=
  tokensFrom_cut start (endsQuoted_of_sound sound) (cut_of_isBreak breaks)

theorem tokensFrom_kinds (start : Nat) (text : List Char) :
    (tokensFrom start text).map Token.kind = lexicalKinds text := by
  have moved := tokensFrom_moved 0 start text
  rw [Nat.zero_add] at moved
  rw [moved, List.map_map, Token.kind_comp_moved, ← lexicalTokens_eq, lexicalTokens_kinds]

theorem lexicalKinds_cut {before after : List Char} (closed : endsQuoted before = false)
    (cut : Cut before after) :
    lexicalKinds (before ++ after) = lexicalKinds before ++ lexicalKinds after := by
  rw [← tokensFrom_kinds 0, tokensFrom_cut 0 closed cut, List.map_append, tokensFrom_kinds,
    tokensFrom_kinds]

theorem lexicalKinds_append {text tail : List Char}
    (sound : ∀ token ∈ tokensFrom 0 text, Predicate.isFault token.kind = false)
    (breaks : ∀ d ∈ tail.head?, isBreak d = true) :
    lexicalKinds (text ++ tail) = lexicalKinds text ++ lexicalKinds tail :=
  lexicalKinds_cut (endsQuoted_of_sound sound) (cut_of_isBreak breaks)

theorem tokensFrom_space (start : Nat) (text : List Char) :
    tokensFrom start (' ' :: text) = tokensFrom (start + 1) text :=
  tokensFrom_of_firstLexeme (firstLexeme_blank (by decide) text) start

theorem tokensFrom_or (start : Nat) (text : List Char) :
    tokensFrom start (" OR ".toList ++ text) =
      ⟨.or, ⟨start + 1, start + 3⟩⟩ :: tokensFrom (start + 4) text := by
  have word : tokensFrom 0 "OR".toList = [⟨.or, ⟨0, 2⟩⟩] := by decide +kernel
  have placed : tokensFrom (start + 1) "OR".toList = [⟨.or, ⟨start + 1, start + 3⟩⟩] := by
    have moved := tokensFrom_moved 0 (start + 1) "OR".toList
    rw [Nat.zero_add, word] at moved
    simpa [Token.moved, Span.moved, Nat.add_comm] using moved
  have sound : ∀ token ∈ tokensFrom (start + 1) "OR".toList,
      Predicate.isFault token.kind = false := by
    rw [placed]
    exact fun token mem => List.mem_singleton.1 mem ▸ rfl
  have breaks : ∀ d ∈ (' ' :: text).head?, isBreak d = true := by
    rintro d ⟨⟩
    decide
  have split : " OR ".toList ++ text = ' ' :: ("OR".toList ++ ' ' :: text) := rfl
  rw [split, tokensFrom_space, tokensFrom_append sound breaks, placed, tokensFrom_space]
  rfl

namespace Predicate

variable {first second : String} {tree : Predicate}

/-- The tokens of an expression, an operator and any text are those of the expression, the operator,
and those of the text, further on. -/
theorem sentence_or (accepted : parse first = .ok tree) (second : String) :
    sentence (first ++ " OR " ++ second) =
      sentence first ++ ⟨.or, ⟨first.utf8ByteSize + 1, first.utf8ByteSize + 3⟩⟩ ::
        (sentence second).map (Token.moved (first.utf8ByteSize + 4)) := by
  have breaks : ∀ d ∈ (" OR ".toList ++ second.toList).head?, isBreak d = true := by
    rintro d ⟨⟩
    decide
  have moved := tokensFrom_moved 0 (first.utf8ByteSize + 4) second.toList
  rw [Nat.zero_add] at moved
  rw [sentence_eq, sentence_eq, sentence_eq, String.toList_append, String.toList_append,
    List.append_assoc, tokensFrom_append (tokensFrom_faultless accepted) breaks, Nat.zero_add,
    byteLength_toList, tokensFrom_or, moved, List.map_append, List.map_cons, List.map_map,
    List.map_map]
  congr 2
  exact List.map_congr_left fun token _ => token.corrected_moved _

theorem kinds_or (accepted : parse first = .ok tree) (second : String) :
    kinds (first ++ " OR " ++ second) = kinds first ++ .or :: kinds second := by
  rw [kinds, sentence_or accepted, List.map_append, List.map_cons, List.map_map,
    Token.kind_comp_moved]
  rfl

/-- Two expressions in parentheses, with an operator between them. -/
theorem kinds_and {other : Predicate} (accepted : parse first = .ok tree)
    (acceptedToo : parse second = .ok other) :
    kinds ("(" ++ first ++ ") AND (" ++ second ++ ")") =
      (.openParen :: kinds first ++ [.closeParen]) ++
        .and :: (.openParen :: kinds second ++ [.closeParen]) := by
  have sign : Spells (") AND (".toList) [.closeParen, .and, .openParen] := by
    have word : Spells ("AND".toList ++ [' ']) [.and] := .capitals rfl (by decide)
    exact .append .closeParen (.append .space (.append word .openParen))
  have breaks (rest : List Char) : ∀ d ∈ (')' :: rest).head?, isBreak d = true := by
    rintro d ⟨⟩
    decide
  have split : ("(" ++ first ++ ") AND (" ++ second ++ ")").toList =
      ['('] ++ (first.toList ++ (") AND (".toList ++ (second.toList ++ [')']))) := by
    simp
  have before : lexicalKinds (first.toList ++ (") AND (".toList ++ (second.toList ++ [')']))) =
      lexicalKinds first.toList ++ lexicalKinds (") AND (".toList ++ (second.toList ++ [')'])) :=
    lexicalKinds_append (tokensFrom_faultless accepted) (breaks _)
  have after : lexicalKinds (second.toList ++ [')']) =
      lexicalKinds second.toList ++ lexicalKinds [')'] :=
    lexicalKinds_append (tokensFrom_faultless acceptedToo) (breaks [])
  have last : lexicalKinds [')'] = [.closeParen] := by decide +kernel
  rw [kinds_eq, split, Spells.openParen, before, sign, after, last]
  simp [kinds_eq, Token.Kind.corrected]

end Predicate

end SmartCollections
