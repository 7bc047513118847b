import SmartCollections.Predicate
import SmartCollections.Predicate.ParseError
import SmartCollections.Token.Lexer
import SmartCollections.Token.Spelling

/-!
From tokens to a predicate.

    expression := term (OR term)*
    term       := factor (AND factor)*
    factor     := FIELD LITERAL | "(" expression ")"

Reading does not stop at a fault: it is recorded, as little as sensible is skipped, and reading goes
on, so all independent faults are found at once. Only a limit ends the reading: at the parenthesis
that would be one too deep, or at the keyword that would be one too many, everything after it is
dropped. A text with any fault has no predicate.
-/
namespace SmartCollections.Predicate

structure Reading where
  rest : List Token
  /-- The length of the text in bytes. -/
  size : Nat
  /-- The number of keywords read. -/
  operands : Nat
  halted : Bool
  /-- The faults found, the last one first. -/
  errors : List ParseError

namespace Reading

def start (tokens : List Token) (size : Nat) : Reading := ⟨tokens, size, 0, false, []⟩

def peek (r : Reading) : Token := r.rest.headD (.atEnd r.size)

def bump (r : Reading) : Reading := { r with rest := r.rest.tail }

def report (r : Reading) (kind : ParseError.Kind) (span : Span) : Reading :=
  { r with errors := ⟨kind, span⟩ :: r.errors }

/-- Records a limit and drops all that is left. -/
def halt (r : Reading) (kind : ParseError.Kind) (span : Span) : Reading :=
  { r.report kind span with rest := [], halted := true }

end Reading

/-- Records the lexical faults that stand first, and steps over them. -/
def skipFaults : List Token → List ParseError → List Token × List ParseError
  | ⟨.invalid fault, span⟩ :: rest, errors => skipFaults rest (⟨.lexical fault, span⟩ :: errors)
  | rest, errors => (rest, errors)

def Reading.skipFaults (r : Reading) : Reading :=
  let (rest, errors) := Predicate.skipFaults r.rest r.errors
  { r with rest, errors }

/-- A predicate, unless it is spoilt by a fault, and where the reading stands after it. -/
abbrev Outcome := Option Predicate × Reading

/-- Joins two operands, neither of which may be spoilt. -/
def combine (operator : Predicate → Predicate → Predicate) :
    Option Predicate → Option Predicate → Option Predicate
  | some left, some right => some (operator left right)
  | _, _ => none

def fieldMatch (field : Field) (r : Reading) : Outcome :=
  match r.peek with
  | ⟨.literal text, _⟩ => (some (.contains field text), r.bump)
  | ⟨.invalid fault, span⟩ => (none, r.bump.report (.lexical fault) span)
  | ⟨_, span⟩ => (none, r.report (.missingLiteral field) span)

/-- What stands inside a parenthesis opened at `span`, and the one that closes it. -/
def closeGroup (span : Span) (inner : Option Predicate) (r : Reading) : Outcome :=
  if r.peek.kind = .closeParen then (inner, r.bump)
  else if r.halted then (inner, r)
  else (inner, r.report .unclosedParen span)

/-- The word is reported, and its text stepped over. -/
def unknownField (word : String) (span : Span) (r : Reading) : Outcome :=
  let r := r.bump.report (.unknownField word) span
  match r.peek.kind with
  | .literal _ => (none, r.bump)
  | _ => (none, r)

/-- One operand, at a token that is no lexical fault. `group` reads what is inside a parenthesis;
there is none when no further parenthesis may be opened. -/
def operand (group : Option (Reading → Outcome)) (r : Reading) : Outcome :=
  match r.peek with
  | ⟨.field field, span⟩ =>
    if r.operands = maxOperands then (none, r.halt .tooLong span)
    else fieldMatch field { r.bump with operands := r.operands + 1 }
  | ⟨.openParen, span⟩ =>
    match group with
    | none => (none, r.halt .tooDeep span)
    | some group => let (inner, r) := group r.bump; closeGroup span inner r
  | ⟨.word word, span⟩ => unknownField word span r
  | ⟨.literal text, span⟩ => (none, r.bump.report (.strayLiteral text) span)
  | ⟨kind, span⟩ => (none, r.report (.expectedField kind) span)

def startsOperand : Token.Kind → Bool
  | .field _ | .openParen | .word _ | .literal _ => true
  | _ => false

def factor (group : Option (Reading → Outcome)) (r : Reading) : Outcome :=
  match r.peek.kind with
  | .invalid _ =>
    let r := r.skipFaults
    if startsOperand r.peek.kind then operand group r else (none, r)
  | _ => operand group r

/-- Reads `sign operand` as often as it follows, joining to the left, `steps` times at most. -/
def chain (sign : Token.Kind) (operator : Predicate → Predicate → Predicate)
    (operand : Reading → Outcome) : (steps : Nat) → Option Predicate → Reading → Outcome
  | 0, left, r => (left, r)
  | steps + 1, left, r =>
    let r := r.skipFaults
    if r.peek.kind = sign then
      let (right, r) := operand r.bump
      chain sign operator operand steps (combine operator left right) r
    else (left, r)

/-- Operands with a sign between each two. A sign is a token, so no more of them can follow than
there are tokens left. -/
def operands (sign : Token.Kind) (operator : Predicate → Predicate → Predicate)
    (operand : Reading → Outcome) (r : Reading) : Outcome :=
  let (left, r) := operand r
  chain sign operator operand r.rest.length left r

def term (group : Option (Reading → Outcome)) : Reading → Outcome :=
  operands .and .and (factor group)

/-- An expression with room for `room` more open parentheses. -/
def expression : (room : Nat) → Reading → Outcome
  | 0 => operands .or .or (term none)
  | room + 1 => operands .or .or (term (some (expression room)))

/-- What is left after a complete expression: the first token is reported, and every lexical
fault. -/
def trailing (reported : Bool) : List Token → List ParseError → List ParseError
  | [], errors => errors
  | ⟨.invalid fault, span⟩ :: rest, errors =>
    trailing reported rest (⟨.lexical fault, span⟩ :: errors)
  | ⟨kind, span⟩ :: rest, errors =>
    trailing true rest (if reported then errors else ⟨.trailing kind, span⟩ :: errors)

def ofTokens (tokens : List Token) (size : Nat) : Except (List ParseError) Predicate :=
  if tokens.isEmpty then .error [⟨.empty, ⟨size, size⟩⟩]
  else
    let (tree, r) := expression maxDepth (.start tokens size)
    match tree, trailing false r.rest r.errors with
    | some tree, [] => .ok tree
    | _, errors => .error errors.reverse

def parse (text : String) : Except (List ParseError) Predicate :=
  ofTokens ((lexicalTokens text.toList).map Token.corrected) text.utf8ByteSize

end SmartCollections.Predicate
