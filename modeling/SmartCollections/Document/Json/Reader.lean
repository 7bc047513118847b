import SmartCollections.Document
import SmartCollections.Text.Number

/-!
Documents from JSON text, by the letter of RFC 8259: no comments, no trailing commas, no blanks but
spaces, tabs and line ends, and nothing after the document. The text is cut into tokens, and the
tokens are read one by one with a stack of the lists and tables that are open, so the depth of
nesting is bounded by nothing but the reader's own limit.

A text whose escapes name half a surrogate pair is well-formed but has no characters; it reads as
`unreadable`, and so does a number too large for a double.
-/
namespace SmartCollections.Json

inductive Token where
  | openList
  | closeList
  | openTable
  | closeTable
  | comma
  | colon
  /-- A text, unless it is unreadable. -/
  | text (value : Option String)
  /-- A number or one of the three words. -/
  | scalar (value : Document)

def digitValue? (c : Char) : Option Nat :=
  if '0' ≤ c ∧ c ≤ '9' then some (c.toNat - '0'.toNat)
  else if 'a' ≤ c ∧ c ≤ 'f' then some (c.toNat - 'a'.toNat + 10)
  else if 'A' ≤ c ∧ c ≤ 'F' then some (c.toNat - 'A'.toNat + 10)
  else none

def hexQuad? (a b c d : Char) : Option Nat := do
  return (((← digitValue? a) * 16 + (← digitValue? b)) * 16 + (← digitValue? c)) * 16 +
    (← digitValue? d)

structure TextReading where
  /-- The characters, the last one first. -/
  done : List Char
  /-- The first half of a surrogate pair, waiting for the second. -/
  half : Option Nat
  readable : Bool

namespace TextReading

def start : TextReading := ⟨[], none, true⟩

/-- Adds a character. A waiting half stays alone. -/
def add (r : TextReading) (c : Char) : TextReading :=
  ⟨c :: r.done, none, r.readable && r.half.isNone⟩

/-- Adds what has no character. -/
def spoil (r : TextReading) : TextReading := ⟨r.done, none, false⟩

def addUnit (r : TextReading) (unit : Nat) : TextReading :=
  if 0xD800 ≤ unit ∧ unit < 0xDC00 then
    { r with half := some unit, readable := r.readable && r.half.isNone }
  else if 0xDC00 ≤ unit ∧ unit < 0xE000 then
    match r.half with
    | some half =>
      let c := Char.ofNat (0x10000 + (half - 0xD800) * 0x400 + (unit - 0xDC00))
      ⟨c :: r.done, none, r.readable⟩
    | none => r.spoil
  else r.add (Char.ofNat unit)

def finish (r : TextReading) : Option String :=
  if r.readable && r.half.isNone then some (.ofList r.done.reverse) else none

end TextReading

def escape? : Char → Option Char
  | '"' => some '"'
  | '\\' => some '\\'
  | '/' => some '/'
  | 'b' => some '\x08'
  | 'f' => some '\x0c'
  | 'n' => some '\n'
  | 'r' => some '\r'
  | 't' => some '\t'
  | _ => none

/-- Reads to the closing quote. The character `damage`, if there is one, stands for bytes that are
no character. -/
def readText (damage : Option Char) (r : TextReading) :
    List Char → Option (Option String × List Char)
  | [] => none
  | '"' :: rest => some (r.finish, rest)
  | '\\' :: 'u' :: a :: b :: c :: d :: rest =>
    match hexQuad? a b c d with
    | some unit => readText damage (r.addUnit unit) rest
    | none => none
  | '\\' :: c :: rest =>
    match escape? c with
    | some c => readText damage (r.add c) rest
    | none => none
  | c :: rest =>
    if c < ' ' ∨ c = '\\' then none
    else readText damage (if some c = damage then r.spoil else r.add c) rest

theorem length_of_readText {damage : Option Char} {r : TextReading} {chars rest : List Char}
    {text : Option String} (h : readText damage r chars = some (text, rest)) :
    rest.length < chars.length := by
  fun_induction readText damage r chars <;> simp_all <;> omega

/-- What follows the digits before the point: the digits after it, and the exponent. -/
def readFraction (chars : List Char) : Option (List Char × Int) :=
  match chars with
  | [] => some ([], 0)
  | '.' :: rest =>
    let digits := rest.takeWhile Char.isDigit
    if digits.isEmpty then none
    else match rest.dropWhile Char.isDigit with
      | [] => some (digits, 0)
      | e :: rest => if e = 'e' ∨ e = 'E' then (Text.exponent? rest).map (digits, ·) else none
  | e :: rest => if e = 'e' ∨ e = 'E' then (Text.exponent? rest).map ([], ·) else none

/-- The number that all of the characters stand for. Zero with a sign is no integer. -/
def readNumber (chars : List Char) : Option Document :=
  let (negative, body) := match chars with
    | '-' :: body => (true, body)
    | body => (false, body)
  let whole := body.takeWhile Char.isDigit
  if whole.isEmpty || (1 < whole.length && whole.head? == some '0') then none
  else match readFraction (body.dropWhile Char.isDigit) with
    | none => none
    | some (fraction, exponent) =>
      if Text.overflows (Text.digitsValue (whole ++ fraction)) (exponent - fraction.length) then
        some .unreadable
      else if body.all Char.isDigit && !(negative && Text.digitsValue whole == 0) then
        some (.int (Text.negateIf negative (Text.digitsValue whole)))
      else some (.real (.ofList chars))

def readWord (chars : List Char) : Option Document :=
  if chars = ['t', 'r', 'u', 'e'] then some (.bool true)
  else if chars = ['f', 'a', 'l', 's', 'e'] then some (.bool false)
  else if chars = ['n', 'u', 'l', 'l'] then some .null
  else none

def isSpace (c : Char) : Bool := c == ' ' || c == '\t' || c == '\n' || c == '\r'

def isNumberChar (c : Char) : Bool :=
  c.isDigit || c == '-' || c == '+' || c == '.' || c == 'e' || c == 'E'

def readToken (damage : Option Char) (c : Char) (rest : List Char) : Option (Token × List Char) :=
  match c with
  | '[' => some (.openList, rest)
  | ']' => some (.closeList, rest)
  | '\x7b' => some (.openTable, rest)
  | '\x7d' => some (.closeTable, rest)
  | ',' => some (.comma, rest)
  | ':' => some (.colon, rest)
  | '"' =>
    match readText damage .start rest with
    | some (text, rest) => some (.text text, rest)
    | none => none
  | c =>
    if c.isDigit || c == '-' then
      (readNumber (c :: rest.takeWhile isNumberChar)).map
        (.scalar ·, rest.dropWhile isNumberChar)
    else
      (readWord (c :: rest.takeWhile Char.isAlpha)).map (.scalar ·, rest.dropWhile Char.isAlpha)

theorem length_dropWhile_le {α : Type} (p : α → Bool) (l : List α) :
    (l.dropWhile p).length ≤ l.length :=
  (List.dropWhile_sublist p).length_le

theorem length_of_readToken {damage : Option Char} {c : Char} {chars rest : List Char}
    {token : Token} (h : readToken damage c chars = some (token, rest)) :
    rest.length ≤ chars.length := by
  unfold readToken at h
  split at h
  any_goals (cases h; exact Nat.le_refl _)
  · split at h
    · next heq => cases h; exact Nat.le_of_lt (length_of_readText heq)
    · cases h
  · split at h
    all_goals
      obtain ⟨_, _, h⟩ := Option.map_eq_some_iff.1 h
      cases h
      exact length_dropWhile_le _ _

/-- The tokens of a text, after the ones read before, the last one first. -/
def readTokens (damage : Option Char) (done : List Token) : List Char → Option (List Token)
  | [] => some done.reverse
  | c :: rest =>
    if isSpace c then readTokens damage done rest
    else match _h : readToken damage c rest with
      | some (token, rest) => readTokens damage (token :: done) rest
      | none => none
  termination_by text => text.length
  decreasing_by
    · simp
    · exact Nat.lt_succ_of_le (length_of_readToken _h)

inductive Frame where
  | list (items : List Document)
  /-- The entries so far, the last one first, whether all keys can be read, and the key whose value
  comes next. -/
  | table (entries : List (String × Document)) (readable : Bool) (key : String)

inductive Expect where
  | value
  /-- A value, or the end of the list just opened. -/
  | firstItem
  | key
  /-- A key, or the end of the table just opened. -/
  | firstKey
  | colon
  | after (value : Document)

structure Progress where
  expect : Expect
  /-- The open lists and tables, the innermost one first. -/
  frames : List Frame

/-- The start of a value. At most `limit` lists and tables may be open at once. -/
def beginValue (limit : Option Nat) (frames : List Frame) : Token → Option Progress
  | .openList =>
    if limit.any (· ≤ frames.length) then none else some ⟨.firstItem, .list [] :: frames⟩
  | .openTable =>
    if limit.any (· ≤ frames.length) then none
    else some ⟨.firstKey, .table [] true "" :: frames⟩
  | .text (some value) => some ⟨.after (.text value), frames⟩
  | .text none => some ⟨.after .unreadable, frames⟩
  | .scalar value => some ⟨.after value, frames⟩
  | _ => none

def beginKey (frames : List Frame) : Token → Option Progress
  | .text key =>
    match frames with
    | .table entries readable _ :: frames =>
      some ⟨.colon, .table entries (readable && key.isSome) (key.getD "") :: frames⟩
    | _ => none
  | _ => none

def closedTable (entries : List (String × Document)) (readable : Bool) : Document :=
  if readable then .table entries.reverse else .unreadable

def Progress.step (limit : Option Nat) (progress : Progress) (token : Token) : Option Progress :=
  match progress.expect, progress.frames, token with
  | .firstItem, .list _ :: frames, .closeList => some ⟨.after (.list []), frames⟩
  | .value, frames, token | .firstItem, frames, token => beginValue limit frames token
  | .firstKey, .table _ readable _ :: frames, .closeTable =>
    some ⟨.after (closedTable [] readable), frames⟩
  | .key, frames, token | .firstKey, frames, token => beginKey frames token
  | .colon, frames, .colon => some ⟨.value, frames⟩
  | .after value, .list items :: frames, .comma => some ⟨.value, .list (value :: items) :: frames⟩
  | .after value, .list items :: frames, .closeList =>
    some ⟨.after (.list (value :: items).reverse), frames⟩
  | .after value, .table entries readable key :: frames, .comma =>
    some ⟨.key, .table ((key, value) :: entries) readable "" :: frames⟩
  | .after value, .table entries readable key :: frames, .closeTable =>
    some ⟨.after (closedTable ((key, value) :: entries) readable), frames⟩
  | _, _, _ => none

def ofTokens (limit : Option Nat) (progress : Progress) : List Token → Option Document
  | [] =>
    match progress with
    | ⟨.after value, []⟩ => some value
    | _ => none
  | token :: rest =>
    match progress.step limit token with
    | some progress => ofTokens limit progress rest
    | none => none

def read (limit : Option Nat) (damage : Option Char) (text : List Char) : Option Document :=
  match readTokens damage [] text with
  | some tokens => ofTokens limit ⟨.value, []⟩ tokens
  | none => none

end SmartCollections.Json
