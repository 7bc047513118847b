import SmartCollections.Document.Yaml.Cursor
import SmartCollections.Text.Number

/-!
Scalars that go on with the text around them: plain ones and ones between quotes. If they go over
several lines, the line ends are folded: one of them is a blank, and of more than one the first is
left out.
-/
namespace SmartCollections.Yaml

/-- The blanks and line ends between two words. -/
structure Gap where
  blanks : List Char
  first : List Char
  others : List Char
  /-- There is a line end, even if an escape has left it out. -/
  broken : Bool

namespace Gap

def empty : Gap := ⟨[], [], [], false⟩

def escaped : Gap := ⟨[], [], [], true⟩

def addBlank (gap : Gap) (c : Char) : Gap :=
  if gap.broken then gap else { gap with blanks := gap.blanks ++ [c] }

def addBreak (gap : Gap) (c : Char) : Gap :=
  if gap.broken then { gap with others := gap.others ++ [c] } else ⟨[], [c], [], true⟩

/-- What stands for the gap between two words. -/
def folded (gap : Gap) : List Char :=
  if !gap.broken then gap.blanks
  else if gap.first = ['\n'] then if gap.others.isEmpty then [' '] else gap.others
  else gap.first ++ gap.others

end Gap

/-- Reads a gap. After a line end there is no tab before the column `limit`. -/
def readGap (limit : Nat) (gap : Gap) (line column : Nat) : List Char → Option (Gap × Cursor)
  | [] => some (gap, ⟨[], line, column⟩)
  | c :: rest =>
    if isBreak c then readGap limit (gap.addBreak c) (line + 1) 0 rest
    else if isBlank c then
      if gap.broken && decide (column < limit) && c == '\t' then none
      else readGap limit (gap.addBlank c) line (column + 1) rest
    else some (gap, ⟨c :: rest, line, column⟩)

def isFlowSign (c : Char) : Bool :=
  c == ',' || c == '[' || c == ']' || c == '\x7b' || c == '\x7d'

/-- How many characters a word of a plain scalar has. Between brackets, a colon stands in front of
no separator. -/
def wordLength (inFlow : Bool) : List Char → Option Nat
  | [] => some 0
  | c :: rest =>
    if isBlank c || isBreak c then some 0
    else if inFlow && c == ':' && rest.head?.any (fun next => isFlowSign next || next == '?') then
      none
    else if (c == ':' && atGap rest) || (inFlow && isFlowSign c) then some 0
    else (wordLength inFlow rest).map (· + 1)

structure ScalarReading where
  text : String
  cursor : Cursor
  /-- The last thing read was a line end. -/
  brokenOff : Bool

/-- Reads a plain scalar, with fuel for each word, after the characters read before, the last one
first. Outside of brackets it ends at a line that is not indented to the column `limit`. -/
def readPlain (inFlow : Bool) (limit : Nat) :
    Nat → List Char → Gap → Cursor → Option ScalarReading
  | 0, _, _, _ => none
  | fuel + 1, done, gap, cursor =>
    let finish : ScalarReading := ⟨String.ofList done.reverse, cursor, gap.broken⟩
    if cursor.atMarker || cursor.rest.head? == some '#' then some finish
    else match wordLength inFlow cursor.rest with
      | none => none
      | some 0 => some finish
      | some length =>
        let done := (cursor.rest.take length).reverse ++ (gap.folded.reverse ++ done)
        let cursor := cursor.advance length
        match readGap limit .empty cursor.line cursor.column cursor.rest with
        | none => none
        | some (gap, next) =>
          if next.rest.length = cursor.rest.length ∨ (!inFlow ∧ next.column < limit) then
            some ⟨String.ofList done.reverse, next, gap.broken⟩
          else readPlain inFlow limit fuel done gap next

def escape? : Char → Option Char
  | '0' => some '\x00'
  | 'a' => some '\x07'
  | 'b' => some '\x08'
  | 't' | '\t' => some '\t'
  | 'n' => some '\n'
  | 'v' => some '\x0b'
  | 'f' => some '\x0c'
  | 'r' => some '\r'
  | 'e' => some '\x1b'
  | ' ' => some ' '
  | '"' => some '"'
  | '/' => some '/'
  | '\\' => some '\\'
  | 'N' => some '\u0085'
  | '_' => some '\u00a0'
  | 'L' => some '\u2028'
  | 'P' => some '\u2029'
  | _ => none

def digitCount? : Char → Option Nat
  | 'x' => some 2
  | 'u' => some 4
  | 'U' => some 8
  | _ => none

/-- The character that follows a backslash, and how many characters it takes. -/
def readEscape : List Char → Option (Char × Nat)
  | [] => none
  | letter :: rest =>
    match digitCount? letter with
    | none => (escape? letter).map (·, 1)
    | some count =>
      if rest.length < count then none
      else match Text.digits? 16 (rest.take count) with
        | some n => if n.isValidChar then some (Char.ofNat n, count + 1) else none
        | none => none

inductive WordEnd where
  | quote
  | gap
  /-- A backslash stands at the end of the line. -/
  | escapedBreak

/-- Reads a word between quotes, with fuel for each character. -/
def readQuotedWord (quote : Char) : Nat → List Char → Cursor → Option (List Char × Cursor × WordEnd)
  | 0, _, _ => none
  | fuel + 1, done, cursor =>
    match cursor.rest with
    | [] => some (done, cursor, .gap)
    | c :: rest =>
      if isBlank c || isBreak c then some (done, cursor, .gap)
      else if c = quote then
        if quote = '\'' ∧ rest.head? = some '\'' then
          readQuotedWord quote fuel ('\'' :: done) (cursor.advance 2)
        else some (done, cursor.advance 1, .quote)
      else if quote = '"' ∧ c = '\\' then
        if rest.head?.any isBreak then
          some (done, ⟨rest.drop 1, cursor.line + 1, 0⟩, .escapedBreak)
        else match readEscape rest with
          | some (char, length) =>
            readQuotedWord quote fuel (char :: done) (cursor.advance (length + 1))
          | none => none
      else readQuotedWord quote fuel (c :: done) (cursor.advance 1)

def readQuoted (quote : Char) : Nat → List Char → Cursor → Option ScalarReading
  | 0, _, _ => none
  | fuel + 1, done, cursor =>
    if cursor.atMarker || cursor.rest.isEmpty then none
    else match readQuotedWord quote (cursor.rest.length + 1) done cursor with
      | none => none
      | some (done, cursor, .quote) => some ⟨String.ofList done.reverse, cursor, false⟩
      | some (done, cursor, wordEnd) =>
        let gap := match wordEnd with
          | .escapedBreak => Gap.escaped
          | _ => Gap.empty
        match readGap 0 gap cursor.line cursor.column cursor.rest with
        | none => none
        | some (gap, cursor) => readQuoted quote fuel (gap.folded.reverse ++ done) cursor

end SmartCollections.Yaml
