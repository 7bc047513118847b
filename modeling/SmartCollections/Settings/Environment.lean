import SmartCollections.Document.Overlay
import SmartCollections.Document.Toml.Quoted
import SmartCollections.Text.Blank
import SmartCollections.Text.Number

/-!
Settings from environment variables. The name of a variable, after a prefix, leads to a key in
nested tables, and its value is read as a flag, a number, a text between quotes, a list or a table.
A value that is nothing of this stands for its own text.
-/
namespace SmartCollections.Environment

def isSpace (c : Char) : Bool := c == ' ' || c == '\n' || c == '\t' || c == '\r'

def skipSpace (chars : List Char) : List Char := chars.dropWhile isSpace

def isSeparator (c : Char) : Bool := c == ',' || c == '\x7b' || c == '\x7d' || c == '[' || c == ']'

def isKeyChar (c : Char) : Bool := c.isAlphanum || c == '_' || c == '-'

/-- What characters without quotes and brackets stand for. A number with a point in it is no
integer, and an integer that does not fit into 64 bits is a text. -/
def plain (chars : List Char) : Document :=
  if '.' ∈ chars ∧ (Text.decimal? chars).isSome then .real (String.ofList chars)
  else
    let (negative, body) := Text.splitSign chars
    match if body.all Char.isDigit then Text.digits? 10 body else none with
    | some n =>
      let value := Text.negateIf negative n
      if Int64.minValue.toInt ≤ value ∧ value < UInt64.size then .int value
      else .text (String.ofList chars)
    | none => .text (String.ofList chars)

def readKey (chars : List Char) : Option (String × List Char) :=
  match skipSpace chars with
  | '"' :: rest => Toml.readBasic [] rest
  | chars =>
    let key := chars.takeWhile isKeyChar
    if key.isEmpty then none else some (String.ofList key, chars.dropWhile isKeyChar)

mutual

/-- Reads a value and the blanks around it, with fuel for the values inside it. -/
def readValue : Nat → List Char → Option (Document × List Char)
  | 0, _ => none
  | fuel + 1, chars =>
    match skipSpace chars with
    | 't' :: 'r' :: 'u' :: 'e' :: rest => some (.bool true, skipSpace rest)
    | 'f' :: 'a' :: 'l' :: 's' :: 'e' :: rest => some (.bool false, skipSpace rest)
    | '\x7b' :: rest =>
      (readEntries fuel [] rest).map fun (entries, rest) => (.table entries, skipSpace rest)
    | '[' :: rest => (readItems fuel [] rest).map fun (items, rest) => (.list items, skipSpace rest)
    | '"' :: rest => (Toml.readBasic [] rest).map fun (text, rest) => (.text text, skipSpace rest)
    | '\'' :: c :: '\'' :: rest => some (.text c.toString, skipSpace rest)
    | '\'' :: _ => none
    | chars =>
      let run := chars.takeWhile fun c => !isSeparator c
      some (plain (Text.trim run), chars.drop run.length)

/-- Reads to the end of a list, after the items read before, the last one first. -/
def readItems : Nat → List Document → List Char → Option (List Document × List Char)
  | 0, _, _ => none
  | _ + 1, done, ']' :: rest => some (done.reverse, rest)
  | fuel + 1, done, chars =>
    match readValue fuel chars with
    | some (value, ',' :: rest) => readItems fuel (value :: done) rest
    | some (value, ']' :: rest) => some ((value :: done).reverse, rest)
    | _ => none

/-- Reads to the end of a table. Of a repeated key, the last value counts. -/
def readEntries : Nat → List (String × Document) → List Char →
    Option (List (String × Document) × List Char)
  | 0, _, _ => none
  | _ + 1, done, '\x7d' :: rest => some (done, rest)
  | fuel + 1, done, chars =>
    match (readKey chars).map fun (key, rest) => (key, skipSpace rest) with
    | some (key, '=' :: rest) =>
      match readValue fuel rest with
      | some (value, ',' :: rest) => readEntries fuel (Document.put done key value) rest
      | some (value, '\x7d' :: rest) => some (Document.put done key value, rest)
      | _ => none
    | _ => none

end

def value (text : String) : Document :=
  let chars := Text.trim text.toList
  match readValue (2 * chars.length + 2) chars with
  | some (document, []) => document
  | _ => .text (String.ofList chars)

def parts : List Char → List (List Char)
  | [] => [[]]
  | c :: rest =>
    if c = '.' then [] :: parts rest
    else match parts rest with
      | part :: others => (c :: part) :: others
      | [] => [[c]]

/-- Two underscores separate parts like a dot. -/
def dotted : List Char → List Char
  | '_' :: '_' :: rest => '.' :: dotted rest
  | c :: rest => c :: dotted rest
  | [] => []

/-- The keys that the name of a variable leads to, if it has the prefix. Case does not count. -/
def keys? (startsWith name : List Char) : Option (List String) :=
  let name := (Text.trim name).map Char.toLower
  if (startsWith.map Char.toLower).isPrefixOf name then
    let keys := parts (dotted (Text.trim (name.drop startsWith.length)))
    if keys.any List.isEmpty then none else some (keys.map String.ofList)
  else none

/-- A value in nested tables. -/
def nested (keys : List String) (value : Document) : Document :=
  keys.foldr (fun key inner => .table [(key, inner)]) value

/-- What the variables with a prefix say, a later one over an earlier one. -/
def document (startsWith : String) (environment : List (String × String)) : Document :=
  let named := environment.filterMap fun (name, text) =>
    (keys? startsWith.toList name.toList).map fun keys => nested keys (value text)
  named.foldl Document.overlay (.table [])

end SmartCollections.Environment
