import SmartCollections.Document.Json.Reader
import SmartCollections.Text.Number

/-!
The values that TOML writes without quotes and brackets: flags, numbers, dates and times.
-/
namespace SmartCollections.Toml

/-- The digits without the underscores between them. Anywhere else there is no underscore. -/
def joinDigits? (isDigit : Char → Bool) : List Char → Option (List Char)
  | [] => some []
  | '_' :: _ => none
  | a :: '_' :: b :: rest =>
    if isDigit a && isDigit b then (joinDigits? isDigit (b :: rest)).map (a :: ·) else none
  | a :: rest => (joinDigits? isDigit rest).map (a :: ·)

/-- The integers that a machine word with a sign holds. -/
def integer? (n : Int) : Option Document :=
  if Int64.minValue.toInt ≤ n ∧ n ≤ Int64.maxValue.toInt then some (.int n) else none

def based? (base : Nat) (digits : List Char) : Option Document := do
  let digits ← joinDigits? (fun c => (Text.digit? base c).isSome) digits
  integer? (← Text.digits? base digits)

/-- A number in base ten. Without its underscores and a plus sign it is written as in JSON. -/
def decimal? (chars : List Char) : Option Document := do
  let (negative, body) := Text.splitSign chars
  let body ← joinDigits? Char.isDigit body
  if body.head? == some '-' then none
  else match ← Json.readNumber body with
    | .int n => integer? (if negative then -n else n)
    | .real _ => some (.real (String.ofList chars))
    | _ => none

def number? : List Char → Option Document
  | '0' :: 'x' :: digits => based? 16 digits
  | '0' :: 'o' :: digits => based? 8 digits
  | '0' :: 'b' :: digits => based? 2 digits
  | chars =>
    if String.ofList (Text.splitSign chars).2 ∈ ["inf", "nan"] then
      some (.real (String.ofList chars))
    else decimal? chars

def pair? (low high : Nat) (a b : Char) : Option Nat := do
  let n ← Text.digits? 10 [a, b]
  if low ≤ n ∧ n ≤ high then some n else none

def daysInMonth (year month : Nat) : Nat :=
  if month = 2 then
    if (year % 4 = 0 ∧ year % 100 ≠ 0) ∨ year % 400 = 0 then 29 else 28
  else if month ∈ [4, 6, 9, 11] then 30 else 31

/-- What follows a date. -/
def afterDate? : List Char → Option (List Char)
  | a :: b :: c :: d :: '-' :: e :: f :: '-' :: g :: h :: rest => do
    let year ← Text.digits? 10 [a, b, c, d]
    let month ← pair? 1 12 e f
    let _ ← pair? 1 (daysInMonth year month) g h
    return rest
  | _ => none

/-- What follows a time of the day. -/
def afterTime? : List Char → Option (List Char)
  | a :: b :: ':' :: c :: d :: ':' :: e :: f :: rest => do
    let _ ← pair? 0 23 a b
    let _ ← pair? 0 59 c d
    let _ ← pair? 0 60 e f
    match rest with
    | '.' :: fraction =>
      if (fraction.takeWhile Char.isDigit).isEmpty then none
      else return fraction.dropWhile Char.isDigit
    | rest => return rest
  | _ => none

def isOffset : List Char → Bool
  | [] | ['Z'] | ['z'] => true
  | [sign, a, b, ':', c, d] =>
    (sign == '+' || sign == '-') && (pair? 0 23 a b).isSome && (pair? 0 59 c d).isSome
  | _ => false

def isMoment (chars : List Char) : Bool :=
  match afterDate? chars with
  | some [] => true
  | some (separator :: rest) =>
    (separator == 'T' || separator == 't' || separator == ' ') && (afterTime? rest).any isOffset
  | none => afterTime? chars == some []

/-- The value that is written with the characters. A moment is a table, unlike any other value. -/
def scalar? (chars : List Char) : Option Document :=
  if chars = ['t', 'r', 'u', 'e'] then some (.bool true)
  else if chars = ['f', 'a', 'l', 's', 'e'] then some (.bool false)
  else if isMoment chars then some (.table [("moment", .text (String.ofList chars))])
  else number? chars

def isScalarChar (c : Char) : Bool :=
  c.isAlphanum || c == '_' || c == '+' || c == '-' || c == '.' || c == ':'

/-- How many characters a value takes. A date may go on with a time after a blank. -/
def scalarLength (chars : List Char) : Nat :=
  let first := chars.takeWhile isScalarChar
  match chars.drop first.length with
  | ' ' :: c :: rest =>
    if c.isDigit && afterDate? first == some [] then
      first.length + 1 + ((c :: rest).takeWhile isScalarChar).length
    else first.length
  | _ => first.length

def readScalar (chars : List Char) : Option (Document × List Char) :=
  (scalar? (chars.take (scalarLength chars))).map (·, chars.drop (scalarLength chars))

end SmartCollections.Toml
