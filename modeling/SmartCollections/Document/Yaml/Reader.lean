import SmartCollections.Document
import SmartCollections.Document.Yaml.Scanner
import SmartCollections.Text.Number

/-!
Documents from YAML text. A plain scalar can be null, a flag or a number; everything else is a text,
and so is every key.
-/
namespace SmartCollections.Yaml

/-- An integer in base ten without a sign, or in base sixteen, eight or two after a prefix. -/
def natural? (chars : List Char) : Option Nat :=
  match chars with
  | '0' :: 'x' :: digits => Text.digits? 16 digits
  | '0' :: 'o' :: digits => Text.digits? 8 digits
  | '0' :: 'b' :: digits => Text.digits? 2 digits
  | digits => Text.digits? 10 digits

/-- Digits after a zero are no number. -/
def isPadded (chars : List Char) : Bool :=
  match (Text.splitSign chars).2 with
  | '0' :: rest => !rest.isEmpty && rest.all Char.isDigit
  | _ => false

/-- An integer of 128 bits. One without a minus needs no bit for the sign. -/
def integer? (chars : List Char) : Option Int :=
  let (negative, body) := Text.splitSign chars
  match natural? body with
  | some n =>
    if n < Nat.pow 2 128 ∧ (negative → n ≤ Nat.pow 2 127) then some (Text.negateIf negative n)
    else none
  | none => none

/-- A number with a point or an exponent, or a longer integer. What is too large is none. -/
def isReal (chars : List Char) : Bool :=
  String.ofList (Text.splitSign chars).2 ∈ [".inf", ".Inf", ".INF"] ||
    String.ofList chars ∈ [".nan", ".NaN", ".NAN"] ||
    (Text.decimal? chars).any fun (digits, exponent) => !Text.overflows digits exponent

def number? (chars : List Char) : Option Document :=
  if isPadded chars then none
  else match integer? chars with
    | some n => some (.int n)
    | none => if isReal chars then some (.real (.ofList chars)) else none

def plainValue (text : String) : Document :=
  if text ∈ ["", "~", "null", "Null", "NULL"] then .null
  else if text ∈ ["true", "True", "TRUE"] then .bool true
  else if text ∈ ["false", "False", "FALSE"] then .bool false
  else (number? text.toList).getD (.text text)

def scalarValue (text : String) (plain : Bool) : Document :=
  if plain then plainValue text else .text text

def endsBlockNode : Token → Bool
  | .key | .value | .blockEnd => true
  | _ => false

/-- A token that comes after an item that is left out, in a list at the column of its key. -/
def endsItem (token : Token) : Bool := token == .blockItem || endsBlockNode token

def endsFlowNode : Token → Bool
  | .value | .flowItem | .flowListEnd | .flowTableEnd => true
  | _ => false

/-- Reads a key, which is a scalar or is left out in front of a token that `ends` accepts. -/
def readKey (ends : Token → Bool) : List Token → Option (String × List Token)
  | .scalar text _ :: rest => some (text, rest)
  | tokens => if tokens.head?.any ends then some ("", tokens) else none

mutual

/-- Reads a value, with fuel for the values inside it. Indentation opens a value only outside of
brackets. The items of a list that is the value of a key may be at the column of the key. -/
def readNode (inBlock asValue : Bool) : Nat → List Token → Option (Document × List Token)
  | 0, _ => none
  | fuel + 1, tokens =>
    match tokens with
    | .scalar text plain :: rest => some (scalarValue text plain, rest)
    | .flowListStart :: rest => readFlowList fuel true [] rest
    | .flowTableStart :: rest => readFlowTable fuel true [] rest
    | .blockListStart :: rest => if inBlock then readBlockList fuel true [] rest else none
    | .blockTableStart :: rest => if inBlock then readBlockTable fuel [] rest else none
    | .blockItem :: _ => if asValue then readBlockList fuel false [] tokens else none
    | _ => none

/-- Reads the items of a list that indentation has opened, or of one at the column of its key, after
the items read before, the last one first. -/
def readBlockList (fuel : Nat) (opened : Bool) (done : List Document) (tokens : List Token) :
    Option (Document × List Token) :=
  match fuel with
  | 0 => none
  | fuel + 1 =>
    match tokens with
    | .blockItem :: rest =>
      if rest.head?.any fun token => token == .blockItem || token == .blockEnd ||
          (!opened && endsItem token) then
        readBlockList fuel opened (.null :: done) rest
      else match readNode true false fuel rest with
        | some (item, rest) => readBlockList fuel opened (item :: done) rest
        | none => none
    | tokens =>
      if !opened then some (.list done.reverse, tokens)
      else match tokens with
        | .blockEnd :: rest => some (.list done.reverse, rest)
        | _ => none

def readBlockTable (fuel : Nat) (done : List (String × Document)) (tokens : List Token) :
    Option (Document × List Token) :=
  match fuel with
  | 0 => none
  | fuel + 1 =>
    match tokens with
    | .blockEnd :: rest => some (.table done.reverse, rest)
    | .key :: rest =>
      match readKey endsBlockNode rest with
      | some (key, .value :: rest) =>
        if rest.head?.any endsBlockNode then readBlockTable fuel ((key, .null) :: done) rest
        else match readNode true true fuel rest with
          | some (value, rest) => readBlockTable fuel ((key, value) :: done) rest
          | none => none
      | some (key, rest) => readBlockTable fuel ((key, .null) :: done) rest
      | none => none
    | _ => none

def readFlowValue (fuel : Nat) (tokens : List Token) : Option (Document × List Token) :=
  match fuel with
  | 0 => none
  | fuel + 1 =>
    match tokens with
    | .value :: rest =>
      if rest.head?.any endsFlowNode then some (.null, rest) else readNode false false fuel rest
    | tokens => some (.null, tokens)

/-- Reads the items of a list between brackets. A key and its value make an item of their own. -/
def readFlowList (fuel : Nat) (first : Bool) (done : List Document) (tokens : List Token) :
    Option (Document × List Token) :=
  match fuel with
  | 0 => none
  | fuel + 1 =>
    let next (first : Bool) : List Token → Option (List Token)
      | .flowItem :: rest => if first then none else some rest
      | tokens => if first then some tokens else none
    match tokens with
    | .flowListEnd :: rest => some (.list done.reverse, rest)
    | tokens =>
      match next first tokens with
      | none => none
      | some (.flowListEnd :: rest) => some (.list done.reverse, rest)
      | some (.key :: rest) =>
        match readKey endsFlowNode rest with
        | none => none
        | some (key, rest) =>
          match readFlowValue fuel rest with
          | some (value, rest) => readFlowList fuel false (.table [(key, value)] :: done) rest
          | none => none
      | some tokens =>
        match readNode false false fuel tokens with
        | some (item, rest) => readFlowList fuel false (item :: done) rest
        | none => none

/-- Reads the entries of a table between brackets. A key without a colon has no value. -/
def readFlowTable (fuel : Nat) (first : Bool) (done : List (String × Document))
    (tokens : List Token) : Option (Document × List Token) :=
  match fuel with
  | 0 => none
  | fuel + 1 =>
    let next (first : Bool) : List Token → Option (List Token)
      | .flowItem :: rest => if first then none else some rest
      | tokens => if first then some tokens else none
    match tokens with
    | .flowTableEnd :: rest => some (.table done.reverse, rest)
    | tokens =>
      match next first tokens with
      | none => none
      | some (.flowTableEnd :: rest) => some (.table done.reverse, rest)
      | some (.key :: rest) =>
        match readKey endsFlowNode rest with
        | none => none
        | some (key, rest) =>
          match readFlowValue fuel rest with
          | some (value, rest) => readFlowTable fuel false ((key, value) :: done) rest
          | none => none
      | some (.scalar text _ :: rest) => readFlowTable fuel false ((text, .null) :: done) rest
      | some _ => none

end

def isEnd (tokens : List Token) : Bool := tokens.all (· == .documentEnd)

/-- The document that tokens stand for. An empty text is an empty table, and there is no more than
one document. -/
def ofTokens (tokens : List Token) : Option Document :=
  let (marked, body) : Bool × List Token := match tokens with
    | .documentStart :: rest => (true, rest)
    | tokens => (false, tokens)
  if body.isEmpty || (marked && isEnd body) then some (.table [])
  else match readNode true false (2 * body.length + 2) body with
    | some (document, rest) => if isEnd rest then some document else none
    | none => none

/-- The document that a text stands for. A mark of the byte order at its start does not count. -/
def read (text : List Char) : Option Document :=
  let text := if text.head? == some '\uFEFF' then text.drop 1 else text
  let text := unifyLineEnds text
  if text.all isAllowed then (tokens? text).bind ofTokens else none

end SmartCollections.Yaml
