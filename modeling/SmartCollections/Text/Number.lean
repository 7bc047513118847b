/-!
Numbers as they are written in settings.
-/
namespace SmartCollections.Text

def digit? (base : Nat) (c : Char) : Option Nat :=
  let value :=
    if '0' ≤ c ∧ c ≤ '9' then c.toNat - '0'.toNat
    else if 'a' ≤ c ∧ c ≤ 'f' then c.toNat - 'a'.toNat + 10
    else if 'A' ≤ c ∧ c ≤ 'F' then c.toNat - 'A'.toNat + 10
    else base
  if value < base then some value else none

/-- The number that digits stand for, of which there must be one. -/
def digits? (base : Nat) (chars : List Char) : Option Nat :=
  if chars.isEmpty then none
  else chars.foldlM (fun n c => (digit? base c).map (n * base + ·)) 0

/-- Splits off a sign: whether it is a minus, and the rest. -/
def splitSign : List Char → Bool × List Char
  | '-' :: rest => (true, rest)
  | '+' :: rest => (false, rest)
  | chars => (false, chars)

def negateIf (negative : Bool) (n : Nat) : Int := if negative then -(n : Int) else n

def digitsValue (digits : List Char) : Nat :=
  digits.foldl (fun n c => n * 10 + (c.toNat - '0'.toNat)) 0

/-- Digits after an exponent sign, which may have a sign of their own. -/
def exponent? (chars : List Char) : Option Int :=
  let (negative, digits) := splitSign chars
  if digits.isEmpty || !digits.all Char.isDigit then none
  else some (negateIf negative (digitsValue digits))

/-- A decimal number with a sign, a point or an exponent, each of which may be missing, as an
integer times a power of ten. There is a digit next to the point. The sign is not told. -/
def decimal? (chars : List Char) : Option (Nat × Int) :=
  let body := (splitSign chars).2
  let whole := body.takeWhile Char.isDigit
  let (fraction, rest) := match body.dropWhile Char.isDigit with
    | '.' :: rest => (rest.takeWhile Char.isDigit, rest.dropWhile Char.isDigit)
    | rest => ([], rest)
  let digits := whole ++ fraction
  if digits.isEmpty then none
  else match rest with
    | [] => some (digitsValue digits, -fraction.length)
    | e :: rest =>
      if e = 'e' ∨ e = 'E' then
        (exponent? rest).map fun exponent => (digitsValue digits, exponent - fraction.length)
      else none

/-- A decimal of `digits` times a power of ten is too large for a double, which holds numbers that
round to less than 2 ^ 1024. -/
def overflows (digits : Nat) (exponent : Int) : Bool :=
  let magnitude : Int := (Nat.toDigits 10 digits).length + exponent
  if digits = 0 ∨ magnitude < 300 then false
  else if 320 < magnitude then true
  else
    let limit := Nat.pow 2 1024 - Nat.pow 2 970
    if 0 ≤ exponent then limit ≤ digits * Nat.pow 10 exponent.toNat
    else limit * Nat.pow 10 (-exponent).toNat ≤ digits

end SmartCollections.Text
