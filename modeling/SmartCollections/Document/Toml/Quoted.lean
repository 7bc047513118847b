import SmartCollections.Text.Number

/-!
Texts between quotes, as TOML writes them: between double quotes, where a backslash starts an
escape, or between single quotes, where nothing does. Three quotes open a text of several lines.
-/
namespace SmartCollections.Toml

def escape? : Char → Option Char
  | 'b' => some '\x08'
  | 't' => some '\t'
  | 'n' => some '\n'
  | 'f' => some '\x0c'
  | 'r' => some '\r'
  | '"' => some '"'
  | '\\' => some '\\'
  | _ => none

def codePoint? (digits : List Char) : Option Char := do
  let n ← Text.digits? 16 digits
  if n.isValidChar then some (Char.ofNat n) else none

def isControl (c : Char) : Bool := (c < ' ' && c != '\t') || c == '\x7f'

/-- Reads to the closing double quote, after the characters read before, the last one first. -/
def readBasic (done : List Char) : List Char → Option (String × List Char)
  | [] => none
  | '"' :: rest => some (String.ofList done.reverse, rest)
  | '\\' :: 'u' :: a :: b :: c :: d :: rest =>
    match codePoint? [a, b, c, d] with
    | some char => readBasic (char :: done) rest
    | none => none
  | '\\' :: 'U' :: a :: b :: c :: d :: e :: f :: g :: h :: rest =>
    match codePoint? [a, b, c, d, e, f, g, h] with
    | some char => readBasic (char :: done) rest
    | none => none
  | '\\' :: c :: rest =>
    match escape? c with
    | some char => readBasic (char :: done) rest
    | none => none
  | c :: rest => if isControl c || c == '\\' then none else readBasic (c :: done) rest

def readLiteral (chars : List Char) : Option (String × List Char) :=
  let text := chars.takeWhile (· ≠ '\'')
  if text.any isControl then none
  else match chars.drop text.length with
    | _ :: rest => some (String.ofList text, rest)
    | [] => none

/-- A line end, if the text starts with one, is left out. -/
def skipLineEnd : List Char → List Char
  | '\n' :: rest | '\r' :: '\n' :: rest => rest
  | chars => chars

/-- What comes after a backslash at the end of a line, if it is one: the blanks and line ends up to
the next word are left out. -/
def continueLine? (chars : List Char) : Option (List Char) :=
  let isSpace (c : Char) : Bool := c == ' ' || c == '\t'
  match chars.dropWhile isSpace with
  | '\n' :: rest | '\r' :: '\n' :: rest =>
    some (rest.dropWhile fun c => isSpace c || c == '\n' || c == '\r')
  | _ => none

/-- The closing quotes of a text of several lines. Up to two quotes before them belong to the
text. -/
def readClosing (quote : Char) (done : List Char) (chars : List Char) : String × List Char :=
  let extra := min 2 (chars.takeWhile (· = quote)).length
  (String.ofList (List.replicate extra quote ++ done).reverse, chars.drop extra)

/-- Reads to three closing quotes, with fuel for each character. Escapes count if the quotes are
double ones. -/
def readLines (quote : Char) : Nat → List Char → List Char → Option (String × List Char)
  | 0, _, _ => none
  | fuel + 1, done, chars =>
    match chars with
    | [] => none
    | '\r' :: '\n' :: rest | '\n' :: rest => readLines quote fuel ('\n' :: done) rest
    | '\\' :: rest =>
      if quote ≠ '"' then readLines quote fuel ('\\' :: done) rest
      else match continueLine? rest, rest with
        | some rest, _ => readLines quote fuel done rest
        | none, 'u' :: a :: b :: c :: d :: rest =>
          match codePoint? [a, b, c, d] with
          | some char => readLines quote fuel (char :: done) rest
          | none => none
        | none, 'U' :: a :: b :: c :: d :: e :: f :: g :: h :: rest =>
          match codePoint? [a, b, c, d, e, f, g, h] with
          | some char => readLines quote fuel (char :: done) rest
          | none => none
        | none, c :: rest =>
          match escape? c with
          | some char => readLines quote fuel (char :: done) rest
          | none => none
        | none, [] => none
    | c :: rest =>
      if c = quote ∧ rest.take 2 = [quote, quote] then
        some (readClosing quote done (rest.drop 2))
      else if isControl c then none
      else readLines quote fuel (c :: done) rest

def readText : List Char → Option (String × List Char)
  | '"' :: '"' :: '"' :: rest => readLines '"' (rest.length + 1) [] (skipLineEnd rest)
  | '\'' :: '\'' :: '\'' :: rest => readLines '\'' (rest.length + 1) [] (skipLineEnd rest)
  | '"' :: rest => readBasic [] rest
  | '\'' :: rest => readLiteral rest
  | _ => none

end SmartCollections.Toml
