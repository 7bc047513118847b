/-!
A place in a YAML text: what is left of it, and the line and column, both counted from zero. Line
ends are single characters here, see `unifyLineEnds`.
-/
namespace SmartCollections.Yaml

structure Cursor where
  rest : List Char
  line : Nat
  column : Nat

/-- The text with one line feed for each line end of another kind. -/
def unifyLineEnds : List Char → List Char
  | '\r' :: '\n' :: rest | '\r' :: rest | '\u0085' :: rest => '\n' :: unifyLineEnds rest
  | c :: rest => c :: unifyLineEnds rest
  | [] => []

def isAllowed (c : Char) : Bool :=
  c == '\t' || c == '\n' || (' ' ≤ c && c ≤ '~') ||
    (0xA0 ≤ c.toNat && c.toNat ≤ 0xFFFD && c.toNat != 0xFEFF) || 0x10000 ≤ c.toNat

def isBlank (c : Char) : Bool := c == ' ' || c == '\t'

/-- A line feed, or a separator of lines or paragraphs. -/
def isBreak (c : Char) : Bool := c == '\n' || c == '\u2028' || c == '\u2029'

def atGap : List Char → Bool
  | [] => true
  | c :: _ => isBlank c || isBreak c

namespace Cursor

/-- Goes on by characters of the same line. -/
def advance (cursor : Cursor) (count : Nat) : Cursor :=
  ⟨cursor.rest.drop count, cursor.line, cursor.column + count⟩

/-- Three hyphens or three dots stand at the start of the line. -/
def atMarker (cursor : Cursor) : Bool :=
  cursor.column == 0 &&
    (cursor.rest.take 3 == ['-', '-', '-'] || cursor.rest.take 3 == ['.', '.', '.']) &&
    atGap (cursor.rest.drop 3)

end Cursor

end SmartCollections.Yaml
