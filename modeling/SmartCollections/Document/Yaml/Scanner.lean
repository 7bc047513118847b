import SmartCollections.Document.Yaml.Block
import SmartCollections.Document.Yaml.Flow

/-!
The tokens of a YAML text. Outside of brackets, indentation opens and closes lists and tables. That
a scalar or a pair of brackets is a key shows only at the colon after it, so the places of possible
keys are kept, and the tokens that open a table and a key are put in there.

Directives, anchors, aliases and tags are not read; a text that uses one is not accepted.
-/
namespace SmartCollections.Yaml

inductive Token where
  | documentStart
  | documentEnd
  | blockListStart
  | blockTableStart
  /-- The end of a list or table that indentation has opened. -/
  | blockEnd
  | flowListStart
  | flowListEnd
  | flowTableStart
  | flowTableEnd
  /-- An item that starts with a hyphen. -/
  | blockItem
  | flowItem
  | key
  | value
  | scalar (text : String) (plain : Bool)
  deriving DecidableEq

/-- A place where a key may have started. -/
structure KeyPlace where
  tokens : Nat
  line : Nat
  column : Nat
  left : Nat
  /-- The text makes no sense unless a key starts here. -/
  required : Bool

structure Scanner where
  cursor : Cursor
  /-- The columns of the open lists and tables outside of brackets, the innermost one first. -/
  indents : List Nat
  /-- For each open pair of brackets, and for what is outside, the last place where a key may have
  started; the innermost one first. -/
  keyPlaces : List (Option KeyPlace)
  keyAllowed : Bool
  /-- The tokens so far, the last one first. -/
  tokens : List Token

namespace Scanner

def start (chars : List Char) : Scanner := ⟨⟨chars, 0, 0⟩, [], [none], true, []⟩

def inFlow (s : Scanner) : Bool := decide (1 < s.keyPlaces.length)

def emit (s : Scanner) (token : Token) : Scanner := { s with tokens := token :: s.tokens }

/-- Goes over blanks, comments and line ends. Outside of brackets, a key may start on a new line,
and no tab comes in front of it. -/
def toToken (inFlow inComment keyAllowed : Bool) (line column : Nat) :
    List Char → Cursor × Bool
  | [] => (⟨[], line, column⟩, keyAllowed)
  | c :: rest =>
    if isBreak c then toToken inFlow false (keyAllowed || !inFlow) (line + 1) 0 rest
    else if inComment || c == ' ' || (c == '\t' && (inFlow || !keyAllowed)) then
      toToken inFlow inComment keyAllowed line (column + 1) rest
    else if c == '#' then toToken inFlow true keyAllowed line (column + 1) rest
    else (⟨c :: rest, line, column⟩, keyAllowed)

/-- How long a key may be, in characters. -/
def maxKeyLength : Nat := 1024

/-- Forgets a place that is too far away for a key, unless a key has to start there. -/
def freshPlace (cursor : Cursor) : Option KeyPlace → Option (Option KeyPlace)
  | none => some none
  | some place =>
    if place.line < cursor.line ∨ cursor.rest.length + maxKeyLength < place.left then
      if place.required then none else some none
    else some (some place)

def advance (s : Scanner) : Option Scanner := do
  let (cursor, keyAllowed) :=
    toToken s.inFlow false s.keyAllowed s.cursor.line s.cursor.column s.cursor.rest
  return { s with cursor, keyAllowed, keyPlaces := ← s.keyPlaces.mapM (freshPlace cursor) }

/-- Closes the lists and tables that are indented deeper than the open ones that stay. -/
def closeBlocks (s : Scanner) (stays : Nat → Bool) : Scanner :=
  if s.inFlow then s
  else
    let closed := s.indents.takeWhile fun indent => !stays indent
    { s with
      indents := s.indents.drop closed.length
      tokens := List.replicate closed.length .blockEnd ++ s.tokens }

/-- Opens a list or table at a column outside of brackets, if nothing is open there, in front of the
last `back` tokens. -/
def openBlock (s : Scanner) (column back : Nat) (token : Token) : Scanner :=
  if s.inFlow || s.indents.head?.any (column ≤ ·) then s
  else { s with
    indents := column :: s.indents
    tokens := s.tokens.take back ++ token :: s.tokens.drop back }

/-- The last place is not where a key starts. -/
def dropKey (s : Scanner) : Option Scanner :=
  match s.keyPlaces with
  | some place :: rest => if place.required then none else some { s with keyPlaces := none :: rest }
  | _ => some s

def keepKey (s : Scanner) : Option Scanner :=
  if s.keyAllowed then do
    let s ← s.dropKey
    let required := !s.inFlow && s.indents.head? == some s.cursor.column
    let place : KeyPlace :=
      ⟨s.tokens.length, s.cursor.line, s.cursor.column, s.cursor.rest.length, required⟩
    return { s with keyPlaces := some place :: s.keyPlaces.drop 1 }
  else some s

def skip (s : Scanner) (count : Nat) : Scanner := { s with cursor := s.cursor.advance count }

def readMarker (s : Scanner) : Option Scanner := do
  let s ← (s.closeBlocks fun _ => false).dropKey
  let token := if s.cursor.rest.head? == some '-' then Token.documentStart else .documentEnd
  return { (s.emit token).skip 3 with keyAllowed := false }

def readOpening (s : Scanner) (token : Token) : Option Scanner := do
  let s ← s.keepKey
  return { (s.emit token).skip 1 with keyAllowed := true, keyPlaces := none :: s.keyPlaces }

def readClosing (s : Scanner) (token : Token) : Option Scanner := do
  let s ← s.dropKey
  let keyPlaces := if s.inFlow then s.keyPlaces.drop 1 else s.keyPlaces
  return { (s.emit token).skip 1 with keyAllowed := false, keyPlaces }

def readComma (s : Scanner) : Option Scanner := do
  let s ← s.dropKey
  return { (s.emit .flowItem).skip 1 with keyAllowed := true }

def readHyphen (s : Scanner) : Option Scanner := do
  if !s.inFlow && !s.keyAllowed then none
  else
    let s ← (s.openBlock s.cursor.column 0 .blockListStart).dropKey
    return { (s.emit .blockItem).skip 1 with keyAllowed := true }

def readKeySign (s : Scanner) : Option Scanner := do
  if !s.inFlow && !s.keyAllowed then none
  else
    let s ← (s.openBlock s.cursor.column 0 .blockTableStart).dropKey
    return { (s.emit .key).skip 1 with keyAllowed := !s.inFlow }

/-- A colon. If a key has started somewhere, this is where it ends. -/
def readColon (s : Scanner) : Option Scanner :=
  match s.keyPlaces with
  | some place :: rest =>
    let back := s.tokens.length - place.tokens
    let tokens := s.tokens.take back ++ .key :: s.tokens.drop back
    let s := { s with tokens, keyPlaces := none :: rest }
    let s := s.openBlock place.column (back + 1) .blockTableStart
    some { (s.emit .value).skip 1 with keyAllowed := false }
  | _ =>
    if !s.inFlow && !s.keyAllowed then none
    else
      let s := s.openBlock s.cursor.column 0 .blockTableStart
      some { (s.emit .value).skip 1 with keyAllowed := !s.inFlow }

def addScalar (s : Scanner) (reading : ScalarReading) (plain : Bool) : Scanner :=
  { s.emit (.scalar reading.text plain) with
    cursor := reading.cursor
    keyAllowed := reading.brokenOff }

def readBlockScalar (s : Scanner) (folds : Bool) : Option Scanner := do
  let s ← s.dropKey
  return s.addScalar (← readBlock folds s.indents.head? (s.cursor.advance 1)) false

def readQuotedScalar (s : Scanner) (quote : Char) : Option Scanner := do
  let s ← s.keepKey
  let cursor := s.cursor.advance 1
  return s.addScalar (← readQuoted quote (cursor.rest.length + 1) [] cursor) false

def readPlainScalar (s : Scanner) : Option Scanner := do
  let s ← s.keepKey
  let limit := match s.indents.head? with
    | some column => column + 1
    | none => 0
  let reading ← readPlain s.inFlow limit (s.cursor.rest.length + 1) [] .empty s.cursor
  return s.addScalar reading true

def isIndicator (c : Char) : Bool :=
  c ∈ ['-', '?', ':', ',', '[', ']', '\x7b', '\x7d', '#', '&', '*', '!', '|', '>', '\'', '"', '%',
    '@', '\x60']

def readToken (s : Scanner) (c : Char) (rest : List Char) : Option Scanner :=
  if s.cursor.column = 0 ∧ c = '%' then none
  else if s.cursor.atMarker then s.readMarker
  else if c = '[' then s.readOpening .flowListStart
  else if c = '\x7b' then s.readOpening .flowTableStart
  else if c = ']' then s.readClosing .flowListEnd
  else if c = '\x7d' then s.readClosing .flowTableEnd
  else if c = ',' then s.readComma
  else if c = '-' ∧ atGap rest then s.readHyphen
  else if c = '?' ∧ (s.inFlow ∨ atGap rest) then s.readKeySign
  else if c = ':' ∧ (s.inFlow ∨ atGap rest) then s.readColon
  else if c = '|' ∧ !s.inFlow then s.readBlockScalar false
  else if c = '>' ∧ !s.inFlow then s.readBlockScalar true
  else if c = '\'' ∨ c = '"' then s.readQuotedScalar c
  else if !(isIndicator c || isBlank c) || (c == '-' && !rest.head?.any isBlank) ||
      (!s.inFlow && (c == '?' || c == ':') && !atGap rest) then
    s.readPlainScalar
  else none

def run : Nat → Scanner → Option (List Token)
  | 0, _ => none
  | fuel + 1, s =>
    match s.advance with
    | none => none
    | some s =>
      match s.cursor.rest with
      | [] => ((s.closeBlocks fun _ => false).dropKey).map fun s => s.tokens.reverse
      | c :: rest =>
        match (s.closeBlocks (· ≤ s.cursor.column)).readToken c rest with
        | none => none
        | some s => run fuel s

end Scanner

def tokens? (chars : List Char) : Option (List Token) :=
  Scanner.run (chars.length + 1) (.start chars)

end SmartCollections.Yaml
