import SmartCollections.Text.Blank
import SmartCollections.Text.WordCharacter
import SmartCollections.Token

/-!
From text to tokens. The text is cut into lexemes, none of which is empty and which together are the
whole text: a blank, or the characters of one token. A token's span follows from the lengths of the
lexemes before it. Text that is no token becomes a token of its own, so that reading goes on.
-/
namespace SmartCollections

open Text

/-- The number of bytes of a text in UTF-8. -/
def byteLength (text : List Char) : Nat := text.foldr (fun c size => c.utf8Size + size) 0

/-- A first piece of a text and what is left after it. -/
structure Lexeme where
  /-- The token it stands for, unless it is a blank. -/
  kind : Option Token.Kind
  chars : List Char
  rest : List Char

def classify (word : String) : Token.Kind :=
  if sameKeyword word "AND" then .and
  else if sameKeyword word "OR" then .or
  else match Field.ofKeyword? word with
    | some field => .field field
    | none => .word word

def firstLexeme (c : Char) (rest : List Char) : Lexeme :=
  if isBlank c then ⟨none, [c], rest⟩
  else if c = '"' then
    let inner := rest.takeWhile (· ≠ '"')
    match rest.dropWhile (· ≠ '"') with
    | quote :: rest => ⟨some (.literal (.ofList inner)), c :: inner ++ [quote], rest⟩
    | [] => ⟨some (.invalid .unterminatedLiteral), c :: inner, []⟩
  else if c = '(' then ⟨some .openParen, [c], rest⟩
  else if c = ')' then ⟨some .closeParen, [c], rest⟩
  else if c = '&' ∨ c = '|' then
    let chars := c :: rest.takeWhile (· = c)
    ⟨some (.word (.ofList chars)), chars, rest.dropWhile (· = c)⟩
  else if isWordCharacter c then
    let chars := c :: rest.takeWhile isWordCharacter
    ⟨some (classify (.ofList chars)), chars, rest.dropWhile isWordCharacter⟩
  else ⟨some (.invalid (.unexpectedChar c)), [c], rest⟩

theorem takeWhile_append_of_dropWhile {α : Type} {p : α → Bool} {l r : List α}
    (h : l.dropWhile p = r) : l.takeWhile p ++ r = l := by
  rw [← h, List.takeWhile_append_dropWhile]

/-- No character is lost between a lexeme and what is left after it. -/
theorem firstLexeme_append (c : Char) (rest : List Char) :
    (firstLexeme c rest).chars ++ (firstLexeme c rest).rest = c :: rest := by
  unfold firstLexeme
  repeat' split
  all_goals simp_all only [List.cons_append, List.nil_append, List.append_assoc,
    List.takeWhile_append_dropWhile, List.append_nil]
  · next h => rw [takeWhile_append_of_dropWhile h]
  · next h => simpa using takeWhile_append_of_dropWhile h

theorem firstLexeme_chars_ne_nil (c : Char) (rest : List Char) :
    (firstLexeme c rest).chars ≠ [] := by
  unfold firstLexeme
  repeat' split
  all_goals simp

/-- Reading on always comes closer to the end. -/
theorem length_firstLexeme_rest_lt (c : Char) (rest : List Char) :
    (firstLexeme c rest).rest.length < rest.length + 1 := by
  have h := congrArg List.length (firstLexeme_append c rest)
  have := List.length_pos_iff.2 (firstLexeme_chars_ne_nil c rest)
  simp only [List.length_append, List.length_cons] at h
  omega

/-- Reads the tokens of a text that starts at byte `start`, after the tokens read before. -/
def readTokens (done : Array Token) (start : Nat) : List Char → Array Token
  | [] => done
  | c :: rest =>
    let lexeme := firstLexeme c rest
    let stop := start + byteLength lexeme.chars
    let done := match lexeme.kind with
      | some kind => done.push ⟨kind, ⟨start, stop⟩⟩
      | none => done
    readTokens done stop lexeme.rest
  termination_by text => text.length
  decreasing_by exact length_firstLexeme_rest_lt c rest

/-- The tokens of a text, without the one that closes it. -/
def lexicalTokens (text : List Char) : List Token := (readTokens #[] 0 text).toList

def tokenize (text : String) : List Token :=
  lexicalTokens text.toList ++ [.atEnd text.utf8ByteSize]

end SmartCollections
