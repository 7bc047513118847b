import SmartCollections.Document.Toml.Definition
import SmartCollections.Document.Toml.Quoted
import SmartCollections.Document.Toml.Scalar

/-!
Documents from TOML text.
-/
namespace SmartCollections.Toml

def isSpace (c : Char) : Bool := c == ' ' || c == '\t'

def skipSpace (chars : List Char) : List Char := chars.dropWhile isSpace

/-- What comes after the rest of a line, which holds nothing but a comment. -/
def endLine (chars : List Char) : Option (List Char) :=
  let chars := skipSpace chars
  let chars :=
    if chars.head? == some '#' then
      chars.dropWhile fun c => c != '\n' && !(isControl c)
    else chars
  match chars with
  | [] => some []
  | '\n' :: rest | '\r' :: '\n' :: rest => some rest
  | _ => none

/-- What comes after blanks, line ends and comments, with fuel for each line. -/
def skipLines : Nat → List Char → Option (List Char)
  | 0, _ => none
  | fuel + 1, chars =>
    match skipSpace chars with
    | [] => some []
    | c :: rest =>
      if c = '#' ∨ c = '\n' ∨ c = '\r' then
        match endLine (c :: rest) with
        | some rest => skipLines fuel rest
        | none => none
      else some (c :: rest)

def isBareChar (c : Char) : Bool := c.isAlphanum || c == '_' || c == '-'

def readKeyPart (chars : List Char) : Option (String × List Char) :=
  match chars with
  | '"' :: rest => readBasic [] rest
  | '\'' :: rest => readLiteral rest
  | chars =>
    let part := chars.takeWhile isBareChar
    if part.isEmpty then none else some (String.ofList part, chars.drop part.length)

def readKey : Nat → List Char → Option (List String × List Char)
  | 0, _ => none
  | fuel + 1, chars =>
    match readKeyPart (skipSpace chars) with
    | none => none
    | some (part, rest) =>
      match skipSpace rest with
      | '.' :: rest => (readKey fuel rest).map fun (parts, rest) => (part :: parts, rest)
      | rest => some ([part], rest)

mutual

def readValue : Nat → List Char → Option (Document × List Char)
  | 0, _ => none
  | fuel + 1, chars =>
    match chars with
    | '[' :: rest => (readItems fuel [] rest).map fun (items, rest) => (.list items, rest)
    | '\x7b' :: rest =>
      match skipSpace rest with
      | '\x7d' :: rest => some (.table [], rest)
      | rest =>
        match readBindings fuel [] rest with
        | some (bindings, rest) => (defineInline bindings).map (·, rest)
        | none => none
    | '"' :: _ | '\'' :: _ => (readText chars).map fun (text, rest) => (.text text, rest)
    | chars => readScalar chars

/-- Reads to the end of a list, which may go over several lines, after the items read before, the
last one first. -/
def readItems : Nat → List Document → List Char → Option (List Document × List Char)
  | 0, _, _ => none
  | fuel + 1, done, chars =>
    match skipLines (chars.length + 1) chars with
    | none => none
    | some (']' :: rest) => some (done.reverse, rest)
    | some chars =>
      match readValue fuel chars with
      | none => none
      | some (value, rest) =>
        match skipLines (rest.length + 1) rest with
        | some (',' :: rest) => readItems fuel (value :: done) rest
        | some (']' :: rest) => some ((value :: done).reverse, rest)
        | _ => none

/-- Reads to the end of an inline table, which stays on its line. -/
def readBindings : Nat → List (List String × Document) → List Char →
    Option (List (List String × Document) × List Char)
  | 0, _, _ => none
  | fuel + 1, done, chars =>
    match readKey (chars.length + 1) chars with
    | some (key, '=' :: rest) =>
      match (readValue fuel (skipSpace rest)).map fun (value, rest) => (value, skipSpace rest) with
      | some (value, ',' :: rest) => readBindings fuel ((key, value) :: done) rest
      | some (value, '\x7d' :: rest) => some (((key, value) :: done).reverse, rest)
      | _ => none
    | _ => none

end

/-- Reads a statement that starts with a character that is neither a blank nor a comment. -/
def readStatement (chars : List Char) : Option (Statement × List Char) :=
  match chars with
  | '[' :: '[' :: rest =>
    match readKey (rest.length + 1) rest with
    | some (path, ']' :: ']' :: rest) => some (.element path, rest)
    | _ => none
  | '[' :: rest =>
    match readKey (rest.length + 1) rest with
    | some (path, ']' :: rest) => some (.table path, rest)
    | _ => none
  | chars =>
    match readKey (chars.length + 1) chars with
    | some (key, '=' :: rest) =>
      (readValue (2 * rest.length + 2) (skipSpace rest)).map fun (value, rest) =>
        (.bind key value, rest)
    | _ => none

def readStatements : Nat → List Statement → List Char → Option (List Statement)
  | 0, _, _ => none
  | fuel + 1, done, chars =>
    match skipLines (chars.length + 1) chars with
    | none => none
    | some [] => some done.reverse
    | some chars =>
      match readStatement chars with
      | none => none
      | some (statement, rest) =>
        match endLine rest with
        | some rest => readStatements fuel (statement :: done) rest
        | none => none

/-- The table that a text stands for. A mark of the byte order at its start does not count. -/
def read (text : List Char) : Option Document :=
  let text := if text.head? == some '\uFEFF' then text.drop 1 else text
  (readStatements (text.length + 1) [] text).bind define

end SmartCollections.Toml
