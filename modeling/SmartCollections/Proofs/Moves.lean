import Mathlib.Logic.Relation
import SmartCollections.Proofs.Parsing

/-!
# The parser, move by move

What the parser does to a text, a faulty one too, is a sequence of single moves. It looks for an
operand, then for a sign or the end of a group, and so on; which parentheses are open is kept in a
list. Each move takes some tokens, none at all if it only reports, and no two moves are possible at
once. What holds of every move therefore holds of the parser.
-/

namespace SmartCollections.Predicate

/-- What is looked for. -/
inductive Place where
  /-- An operand. It is `excused` if a lexical fault has been reported in its place. -/
  | operand (excused : Bool)
  /-- A sign, or the end of a group. -/
  | sign
  /-- The end of the text, and the first token that stands before it has been `reported`. -/
  | finish (reported : Bool)

/-- What is looked for after a lexical fault. -/
def Place.excuse : Place → Place
  | operand _ => operand true
  | place => place

structure Standing where
  place : Place
  /-- Where the parentheses are that are open, the innermost first. -/
  opened : List Span
  reading : Reading

namespace Reading

/-- The reading goes on, and the tokens come next. -/
structure At (r : Reading) (tokens rest : List Token) : Prop where
  running : r.halted = false
  here : r.rest = tokens ++ rest

/-- Steps over a keyword. -/
def pastField (r : Reading) : Reading := { r.bump with operands := r.operands + 1 }

end Reading

def isLiteral : Token.Kind → Bool
  | .literal _ => true
  | _ => false

/-- A token at which a group neither goes on nor ends. -/
def isStuck : Token.Kind → Bool
  | .and | .or | .closeParen | .invalid _ => false
  | _ => true

theorem isStuck_iff {kind : Token.Kind} :
    isStuck kind = true ↔
      isFault kind = false ∧ (kind ≠ .and ∧ kind ≠ .or) ∧ kind ≠ .closeParen := by
  cases kind <;> simp [isStuck, isFault]

inductive Move : Standing → Standing → Prop where
  | fault {place : Place} {opened : List Span} {r : Reading} {fault : LexicalFault} {span : Span}
      {rest : List Token} (at_ : r.At [⟨.invalid fault, span⟩] rest) :
      Move ⟨place, opened, r⟩ ⟨place.excuse, opened, r.bump.report (.lexical fault) span⟩
  /-- What stands in place of the operand has been reported. -/
  | excused {opened : List Span} {r : Reading} (sound : isFault r.peek.kind = false)
      (absent : startsOperand r.peek.kind = false) :
      Move ⟨.operand true, opened, r⟩ ⟨.sign, opened, r⟩
  | expected {opened : List Span} {r : Reading} (running : r.halted = false)
      (sound : isFault r.peek.kind = false) (absent : startsOperand r.peek.kind = false) :
      Move ⟨.operand false, opened, r⟩
        ⟨.sign, opened, r.report (.expectedField r.peek.kind) r.peek.span⟩
  | contains {excused : Bool} {opened : List Span} {r : Reading} {field : Field} {place : Span}
      {text : String} {span : Span} {rest : List Token}
      (at_ : r.At [⟨.field field, place⟩, ⟨.literal text, span⟩] rest)
      (room : r.operands ≠ maxOperands) :
      Move ⟨.operand excused, opened, r⟩ ⟨.sign, opened, r.pastField.bump⟩
  /-- A lexical fault stands in place of a text. -/
  | broken {excused : Bool} {opened : List Span} {r : Reading} {field : Field} {place : Span}
      {fault : LexicalFault} {span : Span} {rest : List Token}
      (at_ : r.At [⟨.field field, place⟩, ⟨.invalid fault, span⟩] rest)
      (room : r.operands ≠ maxOperands) :
      Move ⟨.operand excused, opened, r⟩
        ⟨.sign, opened, r.pastField.bump.report (.lexical fault) span⟩
  | missing {excused : Bool} {opened : List Span} {r : Reading} {field : Field} {place : Span}
      {rest : List Token} (at_ : r.At [⟨.field field, place⟩] rest)
      (sound : isFault (headKind rest) = false) (absent : isLiteral (headKind rest) = false)
      (room : r.operands ≠ maxOperands) :
      Move ⟨.operand excused, opened, r⟩
        ⟨.sign, opened, r.pastField.report (.missingLiteral field) r.pastField.peek.span⟩
  | tooLong {excused : Bool} {opened : List Span} {r : Reading} {field : Field} {span : Span}
      {rest : List Token} (at_ : r.At [⟨.field field, span⟩] rest)
      (full : r.operands = maxOperands) :
      Move ⟨.operand excused, opened, r⟩ ⟨.sign, opened, r.halt .tooLong span⟩
  | opening {excused : Bool} {opened : List Span} {r : Reading} {span : Span} {rest : List Token}
      (at_ : r.At [⟨.openParen, span⟩] rest) (room : opened.length < maxDepth) :
      Move ⟨.operand excused, opened, r⟩ ⟨.operand false, span :: opened, r.bump⟩
  | tooDeep {excused : Bool} {opened : List Span} {r : Reading} {span : Span} {rest : List Token}
      (at_ : r.At [⟨.openParen, span⟩] rest) (full : opened.length = maxDepth) :
      Move ⟨.operand excused, opened, r⟩ ⟨.sign, opened, r.halt .tooDeep span⟩
  | unknown {excused : Bool} {opened : List Span} {r : Reading} {word : String} {span : Span}
      {rest : List Token} (at_ : r.At [⟨.word word, span⟩] rest)
      (absent : isLiteral (headKind rest) = false) :
      Move ⟨.operand excused, opened, r⟩ ⟨.sign, opened, r.bump.report (.unknownField word) span⟩
  /-- The text after an unknown word is stepped over. -/
  | unknownWithText {excused : Bool} {opened : List Span} {r : Reading} {word : String}
      {span : Span} {text : String} {place : Span} {rest : List Token}
      (at_ : r.At [⟨.word word, span⟩, ⟨.literal text, place⟩] rest) :
      Move ⟨.operand excused, opened, r⟩
        ⟨.sign, opened, (r.bump.report (.unknownField word) span).bump⟩
  | stray {excused : Bool} {opened : List Span} {r : Reading} {text : String} {span : Span}
      {rest : List Token} (at_ : r.At [⟨.literal text, span⟩] rest) :
      Move ⟨.operand excused, opened, r⟩ ⟨.sign, opened, r.bump.report (.strayLiteral text) span⟩
  | sign {opened : List Span} {r : Reading} {kind : Token.Kind} {span : Span} {rest : List Token}
      (at_ : r.At [⟨kind, span⟩] rest) (isSign : kind = .and ∨ kind = .or) :
      Move ⟨.sign, opened, r⟩ ⟨.operand false, opened, r.bump⟩
  | closing {opening : Span} {opened : List Span} {r : Reading} {span : Span} {rest : List Token}
      (at_ : r.At [⟨.closeParen, span⟩] rest) :
      Move ⟨.sign, opening :: opened, r⟩ ⟨.sign, opened, r.bump⟩
  | unclosed {opening : Span} {opened : List Span} {r : Reading} (running : r.halted = false)
      (stuck : isStuck r.peek.kind = true) :
      Move ⟨.sign, opening :: opened, r⟩ ⟨.sign, opened, r.report .unclosedParen opening⟩
  /-- After a limit, parentheses are left open in silence. -/
  | abandoned {opening : Span} {opened : List Span} {r : Reading} (halted : r.halted = true) :
      Move ⟨.sign, opening :: opened, r⟩ ⟨.sign, opened, r⟩
  | complete {r : Reading} (sound : isFault r.peek.kind = false)
      (noSign : r.peek.kind ≠ .and ∧ r.peek.kind ≠ .or) :
      Move ⟨.sign, [], r⟩ ⟨.finish false, [], r⟩
  | trailing {r : Reading} {kind : Token.Kind} {span : Span} {rest : List Token}
      (at_ : r.At [⟨kind, span⟩] rest) (sound : isFault kind = false) :
      Move ⟨.finish false, [], r⟩ ⟨.finish true, [], r.bump.report (.trailing kind) span⟩
  | passed {r : Reading} {kind : Token.Kind} {span : Span} {rest : List Token}
      (at_ : r.At [⟨kind, span⟩] rest) (sound : isFault kind = false) :
      Move ⟨.finish true, [], r⟩ ⟨.finish true, [], r.bump⟩

/-- Some moves, one after another. -/
abbrev Leads : Standing → Standing → Prop := Relation.ReflTransGen Move

namespace Reading

variable {r : Reading} {token : Token} {tokens rest : List Token}

/-- After a limit there is nothing left. -/
def Sane (r : Reading) : Prop := r.halted = true → r.rest = []

theorem At.peek (at_ : r.At (token :: tokens) rest) : r.peek = token := by
  rw [Reading.peek, at_.here]
  rfl

theorem At.bump (at_ : r.At (token :: tokens) rest) : r.bump.At tokens rest :=
  ⟨at_.running, by rw [Reading.bump, at_.here]; rfl⟩

theorem At.pastField (at_ : r.At (token :: tokens) rest) : r.pastField.At tokens rest :=
  ⟨at_.running, at_.bump.here⟩

theorem At.report (at_ : r.At tokens rest) (kind : ParseError.Kind) (span : Span) :
    (r.report kind span).At tokens rest :=
  ⟨at_.running, at_.here⟩

theorem At.takes {r' : Reading} (at_ : r.At tokens rest) (after : r'.At [] rest) :
    r.rest = tokens ++ r'.rest := by
  rw [after.here]
  exact at_.here

theorem At.sane (at_ : r.At tokens rest) : r.Sane := fun halted => by
  rw [at_.running] at halted
  cases halted

theorem At.length (at_ : r.At tokens rest) : r.rest.length = tokens.length + rest.length := by
  rw [at_.here, List.length_append]

/-- There is a token next, unless all tokens are read. -/
theorem Sane.at_ (sane : r.Sane) (here : r.rest = token :: rest) : r.At [token] rest := by
  refine ⟨?_, here⟩
  cases halted : r.halted with
  | false => rfl
  | true =>
    rw [sane halted] at here
    cases here

theorem Sane.at_kind {kind : Token.Kind} (sane : r.Sane) (next : r.peek.kind = kind)
    (some : kind ≠ .eof) : ∃ span rest, r.At [⟨kind, span⟩] rest := by
  rw [peek_kind] at next
  cases here : r.rest with
  | nil =>
    rw [here] at next
    exact absurd next.symm some
  | cons token rest =>
    rw [here] at next
    obtain ⟨_, span⟩ := token
    cases next
    exact ⟨span, rest, sane.at_ here⟩

theorem sane_of_running (running : r.halted = false) : r.Sane := fun halted => by
  rw [running] at halted
  cases halted

end Reading

theorem Move.sane {s t : Standing} (move : Move s t) (sane : s.reading.Sane) : t.reading.Sane := by
  cases move with
  | fault at_ => exact (at_.bump.report _ _).sane
  | excused => exact sane
  | expected running => exact Reading.sane_of_running running
  | contains at_ => exact at_.pastField.bump.sane
  | broken at_ => exact (at_.pastField.bump.report _ _).sane
  | missing at_ => exact (at_.pastField.report _ _).sane
  | tooLong | tooDeep => exact fun _ => rfl
  | opening at_ | sign at_ | closing at_ | passed at_ => exact at_.bump.sane
  | unknown at_ => exact (at_.bump.report _ _).sane
  | unknownWithText at_ => exact (at_.bump.report _ _).bump.sane
  | stray at_ => exact (at_.bump.report _ _).sane
  | unclosed running => exact Reading.sane_of_running running
  | abandoned | complete => exact sane
  | trailing at_ => exact (at_.bump.report _ _).sane

theorem Leads.sane {s t : Standing} (leads : Leads s t) (sane : s.reading.Sane) :
    t.reading.Sane := by
  induction leads with
  | refl => exact sane
  | tail _ move ih => exact move.sane ih

theorem Move.length_le {s t : Standing} (move : Move s t) :
    t.reading.rest.length ≤ s.reading.rest.length := by
  have bumped (r : Reading) : r.rest.tail.length ≤ r.rest.length := by simp
  cases move with
  | tooLong | tooDeep => exact Nat.zero_le _
  | excused | expected | unclosed | abandoned | complete => exact Nat.le_refl _
  | contains | broken | unknownWithText => exact Nat.le_trans (bumped (Reading.bump _)) (bumped _)
  | _ => exact bumped _

theorem Leads.length_le {s t : Standing} (leads : Leads s t) :
    t.reading.rest.length ≤ s.reading.rest.length := by
  induction leads with
  | refl => exact Nat.le_refl _
  | tail _ move ih => exact Nat.le_trans move.length_le ih

/-- What comes next after a phrase has been read as far as it goes: none of the signs that it could
go on with. -/
def Past (signs : List Token.Kind) (kind : Token.Kind) : Prop :=
  signs ≠ [] → isFault kind = false ∧ kind ∉ signs

/-- Reading is a sequence of moves from an operand to the sign after it. -/
structure Follows (opened : List Span) (signs : List Token.Kind) (read : Reading → Outcome) :
    Prop where
  leads (r : Reading) : r.halted = false →
    Leads ⟨.operand false, opened, r⟩ ⟨.sign, opened, (read r).2⟩
  past (r : Reading) : r.halted = false → Past signs (read r).2.peek.kind

theorem skipFaults_at {r : Reading} {fault : LexicalFault} {span : Span} {rest : List Token}
    (at_ : r.At [⟨.invalid fault, span⟩] rest) :
    r.skipFaults = (r.bump.report (.lexical fault) span).skipFaults := by
  obtain ⟨_, size, operands, halted, errors⟩ := r
  obtain ⟨running, here⟩ := at_
  subst here
  rfl

theorem fault_at {r : Reading} (sane : r.Sane) (fault : isFault r.peek.kind = true) :
    ∃ lexical span rest, r.At [⟨.invalid lexical, span⟩] rest := by
  cases next : r.peek.kind with
  | invalid lexical => exact ⟨lexical, sane.at_kind next nofun⟩
  | _ =>
    rw [next] at fault
    cases fault

theorem skipFaults_leads (place : Place) (excused : place.excuse = place) (opened : List Span)
    {r : Reading} (sane : r.Sane) :
    Leads ⟨place, opened, r⟩ ⟨place, opened, r.skipFaults⟩ ∧
      isFault r.skipFaults.peek.kind = false := by
  induction hlength : r.rest.length generalizing r with
  | zero =>
    have none : r.rest = [] := List.length_eq_zero_iff.1 hlength
    have atEnd : isFault r.peek.kind = false := by rw [peek_kind, none]; rfl
    rw [skipFaults_eq atEnd]
    exact ⟨.refl, atEnd⟩
  | succ length ih =>
    cases fault : isFault r.peek.kind with
    | false =>
      rw [skipFaults_eq fault]
      exact ⟨.refl, fault⟩
    | true =>
      obtain ⟨lexical, span, rest, at_⟩ := fault_at sane fault
      have next : Move ⟨place, opened, r⟩
          ⟨place, opened, r.bump.report (.lexical lexical) span⟩ := by
        have move : Move ⟨place, opened, r⟩
            ⟨place.excuse, opened, r.bump.report (.lexical lexical) span⟩ := .fault at_
        rwa [excused] at move
      rw [skipFaults_at at_]
      have fewer : (r.bump.report (.lexical lexical) span).rest.length = length := by
        have before := at_.length
        have after := (at_.bump.report (.lexical lexical) span).length
        simp only [List.length_cons, List.length_nil] at before after
        omega
      obtain ⟨leads, sound⟩ := ih (at_.bump.report _ _).sane fewer
      exact ⟨.head next leads, sound⟩

section Chain

variable {opened : List Span} {signs : List Token.Kind} {sign : Token.Kind}
  {operator : Predicate → Predicate → Predicate} {read : Reading → Outcome}

/-- The induction is on the number of steps, of which there are enough: every operand is preceded by
a sign, so each time fewer tokens are left. -/
theorem chain_follows (operator : Predicate → Predicate → Predicate)
    (follows : Follows opened signs read) (isSign : sign = .and ∨ sign = .or)
    (steps : Nat) (left : Option Predicate) {r : Reading} (sane : r.Sane)
    (enough : r.rest.length ≤ steps) (past : Past signs r.peek.kind) :
    Leads ⟨.sign, opened, r⟩ ⟨.sign, opened, (chain sign operator read steps left r).2⟩ ∧
      Past (sign :: signs) (chain sign operator read steps left r).2.peek.kind := by
  have noEnd : sign ≠ .eof := by rcases isSign with rfl | rfl <;> nofun
  induction steps generalizing left r with
  | zero =>
    have none : r.rest = [] := List.length_eq_zero_iff.1 (Nat.le_zero.1 enough)
    have atEnd : r.peek.kind = .eof := by rw [peek_kind, none]; rfl
    refine ⟨.refl, fun _ => ?_⟩
    rw [atEnd] at past
    rw [chain, atEnd]
    refine ⟨rfl, fun mem => ?_⟩
    rcases List.mem_cons.1 mem with same | mem
    · exact noEnd same.symm
    · exact (past (List.ne_nil_of_mem mem)).2 mem
  | succ steps ih =>
    obtain ⟨skips, sound⟩ := skipFaults_leads .sign rfl opened sane
    have saneThen : r.skipFaults.Sane := skips.sane sane
    rw [chain_succ]
    split
    · next atSign =>
      obtain ⟨span, rest, at_⟩ := saneThen.at_kind atSign noEnd
      have goesOn : Move ⟨.sign, opened, r.skipFaults⟩
          ⟨.operand false, opened, r.skipFaults.bump⟩ := .sign at_ isSign
      have reads := follows.leads r.skipFaults.bump at_.running
      have fewer : (read r.skipFaults.bump).2.rest.length ≤ steps := by
        have read_le : (read r.skipFaults.bump).2.rest.length ≤ r.skipFaults.bump.rest.length :=
          reads.length_le
        have bump_lt := at_.length
        have skip_le : r.skipFaults.rest.length ≤ r.rest.length := skips.length_le
        have bumped := at_.bump.length
        simp only [List.length_cons, List.length_nil] at bump_lt bumped
        omega
      obtain ⟨leads, pastThen⟩ := ih (combine operator left (read r.skipFaults.bump).1)
        (reads.sane at_.bump.sane) fewer (follows.past _ at_.running)
      exact ⟨((skips.tail goesOn).trans reads).trans leads, pastThen⟩
    · next noSign =>
      refine ⟨skips, fun _ => ⟨sound, fun mem => ?_⟩⟩
      rcases List.mem_cons.1 mem with same | mem
      · exact noSign same
      · obtain ⟨soundFirst, notIn⟩ := past (List.ne_nil_of_mem mem)
        rw [skipFaults_eq soundFirst] at mem
        exact notIn mem

theorem operands_follows (follows : Follows opened signs read) (isSign : sign = .and ∨ sign = .or) :
    Follows opened (sign :: signs) (operands sign operator read) := by
  have chains (r : Reading) (running : r.halted = false) :=
    chain_follows operator follows isSign (read r).2.rest.length (read r).1
      ((follows.leads r running).sane (Reading.sane_of_running running)) (Nat.le_refl _)
      (follows.past r running)
  constructor
  · intro r running
    exact (follows.leads r running).trans (chains r running).1
  · intro r running
    exact (chains r running).2

end Chain

/-- What is read inside a further parenthesis follows the moves, if there is room for one. -/
def GroupFollows (room : Nat) (opened : List Span) : Prop :=
  ∀ inner, room = inner + 1 → ∀ opening,
    Follows (opening :: opened) [.or, .and] (Predicate.expression inner)

theorem closeGroup_leads {opened : List Span} {opening : Span} {inner : Option Predicate}
    {r : Reading} (sane : r.Sane) (past : Past [.or, .and] r.peek.kind) :
    Leads ⟨.sign, opening :: opened, r⟩ ⟨.sign, opened, (closeGroup opening inner r).2⟩ := by
  unfold closeGroup
  split
  · next closes =>
    obtain ⟨span, rest, at_⟩ := sane.at_kind closes nofun
    exact .single (.closing at_)
  · next open_ =>
    split
    · next halted => exact .single (.abandoned halted)
    · next running =>
      obtain ⟨sound, noSign⟩ := past (List.cons_ne_nil _ _)
      simp only [List.mem_cons, List.not_mem_nil, or_false, not_or] at noSign
      exact .single (.unclosed (Bool.eq_false_iff.2 running)
        (isStuck_iff.2 ⟨sound, noSign.symm, open_⟩))

theorem fieldMatch_leads {excused : Bool} {opened : List Span} {r : Reading} {field : Field}
    {place : Span} {rest : List Token} (at_ : r.At [⟨.field field, place⟩] rest)
    (room : r.operands ≠ maxOperands) :
    Leads ⟨.operand excused, opened, r⟩ ⟨.sign, opened, (fieldMatch field r.pastField).2⟩ := by
  have next := at_.pastField.here
  cases rest with
  | nil =>
    have peek : r.pastField.peek = .atEnd r.pastField.size := by rw [Reading.peek, next]; rfl
    rw [fieldMatch, peek]
    have move : Move ⟨.operand excused, opened, r⟩ _ := .missing at_ rfl rfl room
    rw [peek] at move
    exact .single move
  | cons token rest =>
    obtain ⟨kind, span⟩ := token
    have peek : r.pastField.peek = ⟨kind, span⟩ := by rw [Reading.peek, next]; rfl
    rw [fieldMatch, peek]
    cases kind with
    | literal text => exact .single (.contains ⟨at_.running, at_.here⟩ room)
    | invalid fault => exact .single (.broken ⟨at_.running, at_.here⟩ room)
    | _ =>
      have move : Move ⟨.operand excused, opened, r⟩ _ := .missing at_ rfl rfl room
      rw [peek] at move
      exact .single move

theorem unknownField_leads {excused : Bool} {opened : List Span} {r : Reading} {word : String}
    {span : Span} {rest : List Token} (at_ : r.At [⟨.word word, span⟩] rest) :
    Leads ⟨.operand excused, opened, r⟩ ⟨.sign, opened, (unknownField word span r).2⟩ := by
  have next : (r.bump.report (.unknownField word) span).peek.kind = headKind rest := by
    rw [peek_kind, (at_.bump.report _ _).here]
    rfl
  rw [unknownField, next]
  cases rest with
  | nil => exact .single (.unknown at_ rfl)
  | cons token rest =>
    obtain ⟨kind, place⟩ := token
    cases kind with
    | literal text => exact .single (.unknownWithText ⟨at_.running, at_.here⟩)
    | _ => exact .single (.unknown at_ rfl)

theorem operand_absent {group : Option (Reading → Outcome)} {r : Reading}
    (absent : startsOperand r.peek.kind = false) :
    operand group r = (none, r.report (.expectedField r.peek.kind) r.peek.span) := by
  rw [operand]
  generalize r.peek = token at absent ⊢
  obtain ⟨kind, span⟩ := token
  cases kind with
  | field | openParen | word | literal => cases absent
  | _ => rfl

theorem operand_leads {room : Nat} {opened : List Span} (groups : GroupFollows room opened)
    (depth : opened.length + room = maxDepth) {r : Reading} (running : r.halted = false)
    (sound : isFault r.peek.kind = false) (excused : Bool)
    (ready : excused = true → startsOperand r.peek.kind = true) :
    Leads ⟨.operand excused, opened, r⟩ ⟨.sign, opened, (operand (groupOf room) r).2⟩ := by
  have unexpected (absent : startsOperand r.peek.kind = false) :
      Leads ⟨.operand excused, opened, r⟩ ⟨.sign, opened, (operand (groupOf room) r).2⟩ := by
    cases excused with
    | true => cases (ready rfl).symm.trans absent
    | false =>
      rw [operand_absent absent]
      exact .single (.expected running sound absent)
  have sane := Reading.sane_of_running running
  cases here : r.rest with
  | nil =>
    have peek : r.peek = .atEnd r.size := by rw [Reading.peek, here]; rfl
    exact unexpected (by rw [peek]; rfl)
  | cons token rest =>
    obtain ⟨kind, span⟩ := token
    have peek : r.peek = ⟨kind, span⟩ := by rw [Reading.peek, here]; rfl
    have at_ := sane.at_ here
    cases kind with
    | field field =>
      rw [operand, peek]
      dsimp only
      split
      · next full => exact .single (.tooLong at_ full)
      · next few => exact fieldMatch_leads at_ few
    | openParen =>
      rw [operand, peek]
      cases room with
      | zero => exact .single (.tooDeep at_ depth)
      | succ inner =>
        have follows := groups inner rfl span
        have opens : Move ⟨.operand excused, opened, r⟩ ⟨.operand false, span :: opened, r.bump⟩ :=
          .opening at_ (by omega)
        have reads := follows.leads r.bump at_.running
        have closes : Leads ⟨.sign, span :: opened, (expression inner r.bump).2⟩
            ⟨.sign, opened,
              (closeGroup span (expression inner r.bump).1 (expression inner r.bump).2).2⟩ :=
          closeGroup_leads (reads.sane at_.bump.sane) (follows.past r.bump at_.running)
        exact (Relation.ReflTransGen.head opens reads).trans closes
    | word word =>
      rw [operand, peek]
      exact unknownField_leads at_
    | literal text =>
      rw [operand, peek]
      exact .single (.stray at_)
    | invalid fault =>
      rw [peek] at sound
      cases sound
    | _ => exact unexpected (by rw [peek]; rfl)

theorem factor_follows {room : Nat} {opened : List Span} (groups : GroupFollows room opened)
    (depth : opened.length + room = maxDepth) :
    Follows opened [] (Predicate.factor (groupOf room)) where
  leads r running := by
    cases fault : isFault r.peek.kind with
    | false =>
      rw [factor_eq fault]
      exact operand_leads groups depth running fault false nofun
    | true =>
      have sane := Reading.sane_of_running running
      obtain ⟨lexical, span, rest, at_⟩ := fault_at sane fault
      have first : Move ⟨.operand false, opened, r⟩
          ⟨.operand true, opened, r.bump.report (.lexical lexical) span⟩ := .fault at_
      obtain ⟨skips, sound⟩ := skipFaults_leads (.operand true) rfl opened
        (at_.bump.report (.lexical lexical) span).sane
      rw [← skipFaults_at at_] at skips sound
      have arrives := Relation.ReflTransGen.head first skips
      have reading : Predicate.factor (groupOf room) r =
          if startsOperand r.skipFaults.peek.kind then operand (groupOf room) r.skipFaults
          else (none, r.skipFaults) := by
        rw [Predicate.factor, at_.peek]
      rw [reading]
      split
      · next ready =>
        have halted : r.skipFaults.halted = r.halted := rfl
        exact arrives.trans
          (operand_leads groups depth (halted.trans running) sound true fun _ => ready)
      · next absent => exact arrives.tail (.excused sound (Bool.eq_false_iff.2 absent))
  past r _ none := absurd rfl none

theorem GroupFollows.expression {room : Nat} {opened : List Span}
    (groups : GroupFollows room opened) (depth : opened.length + room = maxDepth) :
    Follows opened [.or, .and] (Predicate.expression room) := by
  rw [expression_eq]
  have terms : Follows opened [.and] (Predicate.term (groupOf room)) :=
    operands_follows (factor_follows groups depth) (.inl rfl)
  exact operands_follows terms (.inr rfl)

theorem expression_follows (room : Nat) (opened : List Span)
    (depth : opened.length + room = maxDepth) :
    Follows opened [.or, .and] (Predicate.expression room) := by
  induction room generalizing opened with
  | zero =>
    have nowhere : GroupFollows 0 opened := nofun
    exact nowhere.expression depth
  | succ room ih =>
    have inside : GroupFollows (room + 1) opened := by
      intro inner heq opening
      cases heq
      refine ih (opening :: opened) ?_
      rw [List.length_cons]
      omega
    exact inside.expression depth

theorem trailing_leads (reported : Bool) {r : Reading} (sane : r.Sane) :
    ∃ reportedThen final, Leads ⟨.finish reported, [], r⟩ ⟨.finish reportedThen, [], final⟩ ∧
      final.rest = [] ∧ final.errors = trailing reported r.rest r.errors := by
  induction here : r.rest generalizing reported r with
  | nil => exact ⟨reported, r, .refl, here, rfl⟩
  | cons token rest ih =>
    obtain ⟨kind, span⟩ := token
    have at_ := sane.at_ here
    cases fault : isFault kind with
    | true =>
      cases kind with
      | invalid lexical =>
        have taken := at_.bump.report (.lexical lexical) span
        obtain ⟨reportedThen, final, leads, none, errors⟩ := ih reported taken.sane taken.here
        exact ⟨reportedThen, final, .head (.fault at_) leads, none, errors⟩
      | _ => cases fault
    | false =>
      have told : trailing reported (⟨kind, span⟩ :: rest) r.errors =
          trailing true rest
            (if reported then r.errors else ⟨.trailing kind, span⟩ :: r.errors) := by
        cases kind with
        | invalid lexical => cases fault
        | _ => rfl
      rw [told]
      cases reported with
      | true =>
        obtain ⟨reportedThen, final, leads, none, errors⟩ := ih true at_.bump.sane at_.bump.here
        exact ⟨reportedThen, final, .head (.passed at_ fault) leads, none, errors⟩
      | false =>
        have taken := at_.bump.report (.trailing kind) span
        obtain ⟨reportedThen, final, leads, none, errors⟩ := ih true taken.sane taken.here
        exact ⟨reportedThen, final, .head (.trailing at_ fault) leads, none, errors⟩

/-- The faults that are told of a text. -/
def faultsOf : Except (List ParseError) Predicate → List ParseError
  | .ok _ => []
  | .error errors => errors

/-- Where the moves begin. -/
def Standing.first (tokens : List Token) (size : Nat) : Standing :=
  ⟨.operand false, [], .start tokens size⟩

/-- The moves end where all tokens are taken, with the faults that are told of the text. -/
theorem ofTokens_leads {tokens : List Token} (some : tokens ≠ []) (size : Nat) :
    ∃ reported final, Leads (.first tokens size) ⟨.finish reported, [], final⟩ ∧
      final.rest = [] ∧ final.errors.reverse = faultsOf (ofTokens tokens size) := by
  have follows := expression_follows maxDepth [] (Nat.zero_add _)
  have leads := follows.leads (.start tokens size) rfl
  obtain ⟨sound, noSign⟩ := follows.past (.start tokens size) rfl (List.cons_ne_nil _ _)
  have completes : Move ⟨.sign, [], (expression maxDepth (.start tokens size)).2⟩ _ :=
    .complete sound ⟨fun h => noSign (by simp [h]), fun h => noSign (by simp [h])⟩
  obtain ⟨reported, final, rest, none, errors⟩ := trailing_leads false
    (leads.sane (Reading.sane_of_running rfl))
  refine ⟨reported, final, (leads.tail completes).trans rest, none, ?_⟩
  have nonempty : tokens.isEmpty = false := by simpa using some
  rw [errors, ofTokens, nonempty, if_neg Bool.false_ne_true]
  dsimp only
  split
  · next h => rw [h]; rfl
  · rfl

namespace Standing

/-- What is done where an operand is looked for. Only a parenthesis that there is room for puts the
operand off. -/
def atOperand (excused : Bool) (opened : List Span) (r : Reading) : Standing :=
  if r.peek.kind = .openParen ∧ opened.length < maxDepth then
    ⟨.operand false, r.peek.span :: opened, r.bump⟩
  else if excused = true ∧ startsOperand r.peek.kind = false then ⟨.sign, opened, r⟩
  else ⟨.sign, opened, (operand none r).2⟩

/-- What is done where an expression ends. -/
def atEnd : List Span → Reading → Standing
  | [], r => ⟨.finish false, [], r⟩
  | opening :: opened, r => ⟨.sign, opened, if r.halted then r else (closeGroup opening none r).2⟩

def atSign (opened : List Span) (r : Reading) : Standing :=
  if r.halted = false ∧ (r.peek.kind = .and ∨ r.peek.kind = .or) then
    ⟨.operand false, opened, r.bump⟩
  else atEnd opened r

def atFinish (reported : Bool) (r : Reading) : Standing :=
  ⟨.finish true, [], if reported then r.bump else r.bump.report (.trailing r.peek.kind) r.peek.span⟩

def proceed : Standing → Standing
  | ⟨.operand excused, opened, r⟩ => atOperand excused opened r
  | ⟨.sign, opened, r⟩ => atSign opened r
  | ⟨.finish reported, _, r⟩ => atFinish reported r

/-- Where the move leads that is possible, if one is. Lexical faults are dealt with first. -/
def next (s : Standing) : Standing :=
  match s.reading.halted, s.reading.peek with
  | false, ⟨.invalid fault, span⟩ =>
    ⟨s.place.excuse, s.opened, s.reading.bump.report (.lexical fault) span⟩
  | _, _ => s.proceed

theorem next_of_sound {s : Standing} (sound : isFault s.reading.peek.kind = false) :
    s.next = s.proceed := by
  unfold next
  split
  · next peek =>
    rw [peek] at sound
    cases sound
  · rfl

theorem next_of_halted {s : Standing} (halted : s.reading.halted = true) : s.next = s.proceed := by
  unfold next
  split
  · next running _ => cases halted.symm.trans running
  · rfl

variable {excused : Bool} {opened : List Span} {r : Reading} {kind : Token.Kind} {span : Span}
  {tokens rest : List Token}

theorem next_of_at (at_ : r.At (⟨kind, span⟩ :: tokens) rest) (sound : isFault kind = false)
    (place : Place) (opened : List Span) :
    next ⟨place, opened, r⟩ = proceed ⟨place, opened, r⟩ :=
  next_of_sound (by rwa [at_.peek])

/-- At any token but a parenthesis that there is room for, an operand is read at once. -/
theorem next_of_starts (at_ : r.At (⟨kind, span⟩ :: tokens) rest)
    (starts : startsOperand kind = true) (flat : kind = .openParen → opened.length = maxDepth) :
    next ⟨.operand excused, opened, r⟩ = ⟨.sign, opened, (operand none r).2⟩ := by
  have sound : isFault kind = false := by
    cases kind with
    | invalid => cases starts
    | _ => rfl
  rw [next_of_at at_ sound, proceed, atOperand, at_.peek, if_neg, if_neg]
  · rintro ⟨_, absent⟩
    cases starts.symm.trans absent
  · rintro ⟨opens, room⟩
    exact Nat.ne_of_lt room (flat opens)

end Standing

section

variable {r : Reading} {field : Field} {word : String} {span : Span} {tokens rest : List Token}

theorem operand_field (at_ : r.At (⟨.field field, span⟩ :: tokens) rest)
    (room : r.operands ≠ maxOperands) : operand none r = fieldMatch field r.pastField := by
  rw [operand, at_.peek]
  exact if_neg room

theorem fieldMatch_missing (sound : isFault r.peek.kind = false)
    (absent : isLiteral r.peek.kind = false) :
    fieldMatch field r = (none, r.report (.missingLiteral field) r.peek.span) := by
  unfold fieldMatch
  split
  · next peek =>
    rw [peek] at absent
    cases absent
  · next peek =>
    rw [peek] at sound
    cases sound
  · next _ _ peek => rw [peek]

theorem operand_word (at_ : r.At (⟨.word word, span⟩ :: tokens) rest) :
    operand none r = unknownField word span r := by
  rw [operand, at_.peek]

theorem unknownField_bare
    (absent : isLiteral (r.bump.report (.unknownField word) span).peek.kind = false) :
    unknownField word span r = (none, r.bump.report (.unknownField word) span) := by
  unfold unknownField
  dsimp only
  split
  · next literal =>
    rw [literal] at absent
    cases absent
  · rfl

end

open Standing

theorem Move.eq_next {s t : Standing} (move : Move s t) : t = s.next := by
  cases move with
  | fault at_ => simp [next, at_.running, at_.peek]
  | excused sound absent =>
    rw [next_of_sound sound, proceed, atOperand, if_neg, if_pos ⟨rfl, absent⟩]
    rintro ⟨opens, _⟩
    rw [opens] at absent
    cases absent
  | expected running sound absent =>
    rw [next_of_sound sound, proceed, atOperand, if_neg, if_neg (by simp), operand_absent absent]
    rintro ⟨opens, _⟩
    rw [opens] at absent
    cases absent
  | contains at_ room =>
    rw [next_of_starts at_ rfl nofun, operand_field at_ room, fieldMatch, at_.pastField.peek]
  | broken at_ room =>
    rw [next_of_starts at_ rfl nofun, operand_field at_ room, fieldMatch, at_.pastField.peek]
  | @missing _ _ r field _ rest at_ sound absent room =>
    have next : r.pastField.peek.kind = headKind rest := by
      rw [peek_kind, at_.pastField.here, List.nil_append]
    rw [← next] at sound absent
    rw [next_of_starts at_ rfl nofun, operand_field at_ room, fieldMatch_missing sound absent]
  | tooLong at_ full =>
    rw [next_of_starts at_ rfl nofun, operand, at_.peek]
    simp [full]
  | opening at_ room =>
    rw [next_of_at at_ rfl, proceed, atOperand, at_.peek, if_pos ⟨rfl, room⟩]
  | tooDeep at_ full => rw [next_of_starts at_ rfl fun _ => full, operand, at_.peek]
  | @unknown _ _ r word span rest at_ absent =>
    have next : (r.bump.report (.unknownField word) span).peek.kind = headKind rest := by
      rw [peek_kind, (at_.bump.report _ _).here, List.nil_append]
    rw [← next] at absent
    rw [next_of_starts at_ rfl nofun, operand_word at_, unknownField_bare absent]
  | unknownWithText at_ =>
    rw [next_of_starts at_ rfl nofun, operand_word at_, unknownField, (at_.bump.report _ _).peek]
  | stray at_ => rw [next_of_starts at_ rfl nofun, operand, at_.peek]
  | sign at_ isSign =>
    rw [next_of_at at_ (by rcases isSign with rfl | rfl <;> rfl), proceed, atSign, at_.peek,
      if_pos ⟨at_.running, isSign⟩]
  | closing at_ =>
    rw [next_of_at at_ rfl, proceed, atSign, at_.peek, if_neg (by simp), atEnd, at_.running,
      closeGroup, at_.peek]
    rfl
  | unclosed running stuck =>
    obtain ⟨sound, noSign, open_⟩ := isStuck_iff.1 stuck
    rw [next_of_sound sound, proceed, atSign, if_neg (by simp [noSign]), atEnd, running, closeGroup,
      if_neg open_, running]
    rfl
  | abandoned halted =>
    rw [next_of_halted halted, proceed, atSign, if_neg (by simp [halted]), atEnd, halted]
    rfl
  | complete sound noSign =>
    rw [next_of_sound sound, proceed, atSign, if_neg (by simp [noSign]), atEnd]
  | trailing at_ sound => rw [next_of_at at_ sound, proceed, atFinish, at_.peek]; rfl
  | passed at_ sound => rw [next_of_at at_ sound, proceed, atFinish]; rfl

theorem Move.unique {s t u : Standing} (move : Move s t) (other : Move s u) : t = u :=
  move.eq_next.trans other.eq_next.symm

end SmartCollections.Predicate
