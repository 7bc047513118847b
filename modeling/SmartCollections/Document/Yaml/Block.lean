import SmartCollections.Document.Yaml.Cursor
import SmartCollections.Document.Yaml.Flow

/-!
Scalars made of indented lines. After a vertical bar the lines are kept as they are, after a greater
sign they are folded into paragraphs. Signs after it say how the text is indented and what becomes
of the line ends at its end.
-/
namespace SmartCollections.Yaml

/-- What becomes of the line ends at the end: all are left out, the first one stays, or all stay. -/
inductive Chomping where
  | strip
  | clip
  | keep
  deriving DecidableEq

structure BlockHeader where
  chomping : Chomping
  /-- How much deeper than its surroundings the text is indented, if this is said. -/
  increment : Option Nat

def chomping? : Char → Option Chomping
  | '-' => some .strip
  | '+' => some .keep
  | _ => none

def increment? (c : Char) : Option Nat :=
  if '1' ≤ c ∧ c ≤ '9' then some (c.toNat - '0'.toNat) else none

/-- The signs in either order, and how many there are. The digit zero is no sign. -/
def readBlockHeader (chars : List Char) : Option (BlockHeader × Nat) :=
  let isZero (chars : List Char) : Bool := chars.head? == some '0'
  match chars.head?.bind chomping?, chars.head?.bind increment? with
  | some chomping, _ =>
    match chars[1]?.bind increment? with
    | some increment => some (⟨chomping, some increment⟩, 2)
    | none => if isZero (chars.drop 1) then none else some (⟨chomping, none⟩, 1)
  | none, some increment =>
    match chars[1]?.bind chomping? with
    | some chomping => some (⟨chomping, some increment⟩, 2)
    | none => some (⟨.clip, some increment⟩, 1)
  | none, none => if isZero chars then none else some (⟨.clip, none⟩, 0)

/-- Goes to the line after the signs, where nothing but a comment is left. -/
def endBlockHeader (cursor : Cursor) : Option Cursor :=
  let blanks := cursor.rest.takeWhile isBlank
  let rest := cursor.rest.drop blanks.length
  let rest := if rest.head? == some '#' then rest.dropWhile fun c => !isBreak c else rest
  match rest with
  | [] => some ⟨[], cursor.line, cursor.column⟩
  | c :: rest => if isBreak c then some ⟨rest, cursor.line + 1, 0⟩ else none

/-- The indentation and the empty lines in front of a line with text. -/
structure Indentation where
  breaks : List Char
  deepest : Nat
  cursor : Cursor

/-- Reads indentation up to a column, if it is known, and empty lines. A tab in its place is an
error. -/
def readIndentation (indent : Option Nat) (breaks : List Char) (deepest line column : Nat) :
    List Char → Option Indentation
  | [] => some ⟨breaks, max deepest column, ⟨[], line, column⟩⟩
  | c :: rest =>
    let before := indent.all (column < ·)
    if before && c == ' ' then readIndentation indent breaks deepest line (column + 1) rest
    else if before && c == '\t' then none
    else if isBreak c then
      readIndentation indent (breaks ++ [c]) (max deepest column) (line + 1) 0 rest
    else some ⟨breaks, max deepest column, ⟨c :: rest, line, column⟩⟩

structure BlockText where
  done : List Char
  lineEnd : List Char
  breaks : List Char
  indented : Bool

/-- The characters between the last line and a line that starts with a blank or not. -/
def BlockText.joint (text : BlockText) (folds startsBlank : Bool) : List Char :=
  if folds && text.lineEnd == ['\n'] && !text.indented && !startsBlank then
    if text.breaks.isEmpty then [' '] else text.breaks
  else text.lineEnd ++ text.breaks

def BlockText.finish (text : BlockText) (chomping : Chomping) : String :=
  let ending := match chomping with
    | .strip => []
    | .clip => text.lineEnd
    | .keep => text.lineEnd ++ text.breaks
  String.ofList (text.done.reverse ++ ending)

/-- Reads the lines that are indented to a column, with fuel for each. -/
def readBlockLines (folds : Bool) (indent : Nat) :
    Nat → BlockText → Cursor → Option (BlockText × Cursor)
  | 0, _, _ => none
  | fuel + 1, text, cursor =>
    if cursor.column ≠ indent ∨ cursor.rest.isEmpty then some (text, cursor)
    else
      let startsBlank := cursor.rest.head?.any isBlank
      let line := cursor.rest.takeWhile fun c => !isBreak c
      let done := line.reverse ++ ((text.joint folds startsBlank).reverse ++ text.done)
      let (lineEnd, next) : List Char × Cursor := match cursor.rest.drop line.length with
        | [] => ([], cursor.advance line.length)
        | c :: rest => ([c], ⟨rest, cursor.line + 1, 0⟩)
      match readIndentation (some indent) [] 0 next.line next.column next.rest with
      | none => none
      | some found =>
        readBlockLines folds indent fuel ⟨done, lineEnd, found.breaks, startsBlank⟩ found.cursor

/-- Reads a scalar of lines after its first sign. The lines around it are indented to the column
`surrounding`, if there are such lines. -/
def readBlock (folds : Bool) (surrounding : Option Nat) (cursor : Cursor) :
    Option ScalarReading := do
  let (header, length) ← readBlockHeader cursor.rest
  let cursor ← endBlockHeader (cursor.advance length)
  let said := header.increment.map (surrounding.getD 0 + ·)
  let found ← readIndentation said [] 0 cursor.line cursor.column cursor.rest
  let least := match surrounding with
    | some column => column + 1
    | none => 1
  let indent := said.getD (max least found.deepest)
  let (text, cursor) ←
    readBlockLines folds indent (found.cursor.rest.length + 1) ⟨[], [], found.breaks, false⟩
      found.cursor
  return ⟨text.finish header.chomping, cursor, true⟩

end SmartCollections.Yaml
