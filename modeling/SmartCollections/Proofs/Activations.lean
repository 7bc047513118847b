import SmartCollections.Proofs.Parsing

/-!
# The parser, call by call

The parser is a handful of routines that call each other. Here its run is spelt out step by step:
which routine is at work, who waits for it to return, at which token it stands, and how many
parentheses are counted as open. A step looks at one token, and there is none if the position is not
one of the list. Every routine that is called returns what its function comes to, so the run ends
with what the parser makes of the tokens.
-/

namespace SmartCollections.Predicate

/-- Operands with a sign between each two. -/
inductive Series where
  | terms
  | factors

inductive Routine where
  | series (series : Series)
  | factor

namespace Series

def sign : Series → Token.Kind
  | terms => .or
  | factors => .and

def operator : Series → Predicate → Predicate → Predicate
  | terms => .or
  | factors => .and

def operand : Series → Routine
  | terms => .series factors
  | factors => .factor

end Series

/-- What a routine comes to, with room for so many more open parentheses. -/
def Routine.read : Routine → (room : Nat) → Reading → Outcome
  | series .terms, room => Predicate.expression room
  | series .factors, room => Predicate.term (groupOf room)
  | factor, room => Predicate.factor (groupOf room)

/-- A routine that waits for one that it has called. -/
inductive Caller where
  | first (series : Series)
  | next (series : Series) (left : Option Predicate)
  /-- A factor, for what is inside its parenthesis. -/
  | group (opening : Span)
  /-- A factor, for the one that stands after lexical faults. -/
  | again

def Caller.isGroup : Caller → Bool
  | group _ => true
  | _ => false

/-- What is being done. -/
inductive Activity where
  | start
  | call (routine : Routine)
  /-- A series looks for a sign after what it has read. -/
  | loop (series : Series) (left : Option Predicate)
  /-- A factor looks for the text after a keyword. -/
  | text (field : Field)
  /-- A factor steps over the text after an unknown word. -/
  | unknown
  /-- A factor steps over lexical faults after the first one. -/
  | faults
  | answer (value : Option Predicate)
  /-- What is left after the expression is stepped over. -/
  | trailing (tree : Option Predicate) (reported : Bool)
  | done (result : Except (List ParseError) Predicate)

def Activity.isBusy : Activity → Bool
  | start | trailing _ _ | done _ => false
  | _ => true

inductive Loop where
  | series (series : Series)
  | faults
  | trailing

/-- The loop that goes round next, if one does. -/
def Activity.loop? : Activity → Option Loop
  | loop series _ => some (.series series)
  | faults => some .faults
  | trailing _ _ => some .trailing
  | _ => none

def conclusion : Option Predicate → List ParseError → Except (List ParseError) Predicate
  | some tree, [] => .ok tree
  | _, errors => .error errors.reverse

structure Process where
  position : Nat
  /-- The number of parentheses that are counted as open. -/
  depth : Nat
  operands : Nat
  halted : Bool
  /-- The faults found, the last one first. -/
  errors : List ParseError
  /-- Who waits for whom, the innermost first. -/
  callers : List Caller
  activity : Activity

namespace Process

def start : Process := ⟨0, 0, 0, false, [], [], .start⟩

/-- The token that is looked at: the last one if the position is past it. -/
def peek (tokens : List Token) (p : Process) : Option Token :=
  tokens[min p.position (tokens.length - 1)]?

/-- Steps over a token, unless it is the end. -/
def bump (p : Process) (token : Token) : Process :=
  { p with position := if token.kind = .eof then p.position else p.position + 1 }

def report (p : Process) (kind : ParseError.Kind) (span : Span) : Process :=
  { p with errors := ⟨kind, span⟩ :: p.errors }

/-- Records a limit and goes to the last token. -/
def halt (tokens : List Token) (p : Process) (kind : ParseError.Kind) (span : Span) : Process :=
  { p.report kind span with position := tokens.length - 1, halted := true }

def turn (p : Process) (activity : Activity) : Process := { p with activity }

def call (p : Process) (routine : Routine) (caller : Caller) : Process :=
  { p with callers := caller :: p.callers, activity := .call routine }

def resume (p : Process) (callers : List Caller) (activity : Activity) : Process :=
  { p with callers, activity }

/-- The first token decides whether there is an expression at all. -/
def begin (p : Process) (token : Token) : Process :=
  if token.kind = .eof then p.turn (.done (.error [⟨.empty, token.span⟩]))
  else p.turn (.call (.series .terms))

def factor (tokens : List Token) (p : Process) (token : Token) : Process :=
  match token.kind with
  | .field field =>
    if p.operands = maxOperands then (p.halt tokens .tooLong token.span).turn (.answer none)
    else { p.bump token with operands := p.operands + 1, activity := .text field }
  | .openParen =>
    if p.depth = maxDepth then (p.halt tokens .tooDeep token.span).turn (.answer none)
    else { p.bump token with depth := p.depth + 1 }.call (.series .terms) (.group token.span)
  | .word word => ((p.bump token).report (.unknownField word) token.span).turn .unknown
  | .literal text =>
    ((p.bump token).report (.strayLiteral text) token.span).turn (.answer none)
  | .invalid fault => ((p.bump token).report (.lexical fault) token.span).turn .faults
  | kind => (p.report (.expectedField kind) token.span).turn (.answer none)

def text (p : Process) (field : Field) (token : Token) : Process :=
  match token.kind with
  | .literal text => (p.bump token).turn (.answer (some (.contains field text)))
  | .invalid fault => ((p.bump token).report (.lexical fault) token.span).turn (.answer none)
  | _ => (p.report (.missingLiteral field) token.span).turn (.answer none)

def unknown (p : Process) (token : Token) : Process :=
  match token.kind with
  | .literal _ => (p.bump token).turn (.answer none)
  | _ => p.turn (.answer none)

def faults (p : Process) (token : Token) : Process :=
  match token.kind with
  | .invalid fault => (p.bump token).report (.lexical fault) token.span
  | kind => if startsOperand kind then p.call .factor .again else p.turn (.answer none)

def loop (p : Process) (series : Series) (left : Option Predicate) (token : Token) : Process :=
  match token.kind with
  | .invalid fault => (p.bump token).report (.lexical fault) token.span
  | kind =>
    if kind = series.sign then (p.bump token).call series.operand (.next series left)
    else p.turn (.answer left)

def close (p : Process) (opening : Span) (token : Token) : Process :=
  if token.kind = .closeParen then p.bump token
  else if p.halted then p
  else p.report .unclosedParen opening

def answer (p : Process) (value : Option Predicate) (token : Token) : Process :=
  match p.callers with
  | [] => p.turn (.trailing value false)
  | .first series :: callers => p.resume callers (.loop series value)
  | .next series left :: callers =>
    p.resume callers (.loop series (combine series.operator left value))
  | .group opening :: callers =>
    { p.close opening token with depth := p.depth - 1 }.resume callers (.answer value)
  | .again :: callers => p.resume callers (.answer value)

def trailing (p : Process) (tree : Option Predicate) (reported : Bool) (token : Token) : Process :=
  match token.kind with
  | .eof => p.turn (.done (conclusion tree p.errors))
  | .invalid fault => (p.bump token).report (.lexical fault) token.span
  | kind =>
    (if reported then p.bump token else (p.bump token).report (.trailing kind) token.span).turn
      (.trailing tree true)

def act (tokens : List Token) (p : Process) (token : Token) : Option Process :=
  match p.activity with
  | .start => some (p.begin token)
  | .call (.series series) => some (p.call series.operand (.first series))
  | .call .factor => some (p.factor tokens token)
  | .loop series left => some (p.loop series left token)
  | .text field => some (p.text field token)
  | .unknown => some (p.unknown token)
  | .faults => some (p.faults token)
  | .answer value => some (p.answer value token)
  | .trailing tree reported => some (p.trailing tree reported token)
  | .done _ => none

def step (tokens : List Token) (p : Process) : Option Process := (p.peek tokens).bind (p.act tokens)

/-- Where the run stands after some steps, unless it has ended before. -/
def after (tokens : List Token) : Nat → Option Process
  | 0 => some start
  | n + 1 => (after tokens n).bind (step tokens)

variable {token : Token}

theorem faults_sound {p : Process} (sound : isFault token.kind = false) : p.faults token =
    if startsOperand token.kind then p.call .factor .again else p.turn (.answer none) := by
  unfold faults
  split
  · next heq =>
    rw [heq] at sound
    cases sound
  · rfl

theorem loop_sound {p : Process} {series : Series} {left : Option Predicate}
    (sound : isFault token.kind = false) : p.loop series left token =
      if token.kind = series.sign then (p.bump token).call series.operand (.next series left)
      else p.turn (.answer left) := by
  unfold loop
  split
  · next heq =>
    rw [heq] at sound
    cases sound
  · rfl

theorem trailing_sound {p : Process} {tree : Option Predicate} {reported : Bool}
    (sound : isFault token.kind = false) (visible : token.kind ≠ .eof) :
    p.trailing tree reported token =
      (if reported then p.bump token
        else (p.bump token).report (.trailing token.kind) token.span).turn
          (.trailing tree true) := by
  unfold trailing
  split
  · next heq => exact absurd heq visible
  · next heq =>
    rw [heq] at sound
    cases sound
  · rfl

end Process

end SmartCollections.Predicate
