import SmartCollections.Proofs.Grammar

/-!
# The parser and the grammar

A sentence within the limits is read as its tree. From a sentence beyond them the parser reads up to
the first token that is too much, which is then the only fault. Whatever else the parser accepts
without a fault is a sentence.
-/

namespace SmartCollections.Predicate

/-- The reading inside a parenthesis, if there is room for one. -/
def groupOf : Nat → Option (Reading → Outcome)
  | 0 => none
  | room + 1 => some (expression room)

theorem expression_eq (room : Nat) : expression room = operands .or .or (term (groupOf room)) := by
  cases room <;> rfl

namespace Reading

/-- The reading after tokens that were read without a fault. -/
def past (r : Reading) (tokens rest : List Token) : Reading :=
  { r with rest := rest, operands := r.operands + fields tokens }

/-- Over a phrase, a sign and another phrase. -/
theorem past_join (r : Reading) {token : Token} (plain : isPlain token.kind = true)
    (left right more : List Token) :
    (r.past left (token :: right ++ more)).bump.past right more =
      r.past (left ++ token :: right) more := by
  simp [past, bump, fields_append, fields_plain plain, Nat.add_assoc]

/-- The reading has been ended by a limit. -/
structure Stopped (before : Reading) (error : ParseError) (after : Reading) : Prop where
  rest : after.rest = []
  halted : after.halted = true
  errors : after.errors = error :: before.errors

end Reading

/-- The tokens are read as the tree, or up to the first that is beyond a limit. -/
structure Reads (room : Nat) (tokens more : List Token) (tree : Predicate) (r : Reading)
    (outcome : Outcome) : Prop where
  within : breach? room r.operands tokens = none → outcome = (some tree, r.past tokens more)
  beyond (error : ParseError) : breach? room r.operands tokens = some error →
    outcome.1 = none ∧ r.Stopped error outcome.2

/-- The same, where reading then goes on with further operands. -/
structure ReadsOn (sign : Token.Kind) (operator : Predicate → Predicate → Predicate)
    (operand : Reading → Outcome) (room : Nat) (tokens more : List Token) (tree : Predicate)
    (r : Reading) (outcome : Outcome) : Prop where
  within : breach? room r.operands tokens = none → ∃ steps, more.length ≤ steps ∧
    outcome = chain sign operator operand steps (some tree) (r.past tokens more)
  beyond (error : ParseError) : breach? room r.operands tokens = some error →
    outcome.1 = none ∧ r.Stopped error outcome.2

def isFault : Token.Kind → Bool
  | .invalid _ => true
  | _ => false

/-- The kind of the token that comes first, which is the end of the text if there is none. -/
def headKind : List Token → Token.Kind
  | [] => .eof
  | token :: _ => token.kind

theorem peek_kind (r : Reading) : r.peek.kind = headKind r.rest := by
  obtain ⟨rest, size, operands, halted, errors⟩ := r
  cases rest <;> rfl

theorem skipFaults_eq {r : Reading} (sound : isFault r.peek.kind = false) : r.skipFaults = r := by
  obtain ⟨rest, size, operands, halted, errors⟩ := r
  cases rest with
  | nil => rfl
  | cons token rest =>
    obtain ⟨kind, span⟩ := token
    cases kind <;> first | rfl | cases sound

section Chain

variable {sign : Token.Kind} {operator : Predicate → Predicate → Predicate}
  {operand : Reading → Outcome} {room : Nat} {tokens more : List Token} {tree : Predicate}
  {r : Reading} {outcome : Outcome}

theorem chain_succ (steps : Nat) (left : Option Predicate) (r : Reading) :
    chain sign operator operand (steps + 1) left r =
      if r.skipFaults.peek.kind = sign then
        let read := operand r.skipFaults.bump
        chain sign operator operand steps (combine operator left read.1) read.2
      else (left, r.skipFaults) := rfl

theorem chain_stop {steps : Nat} {left : Option Predicate} (sound : isFault r.peek.kind = false)
    (noSign : r.peek.kind ≠ sign) : chain sign operator operand steps left r = (left, r) := by
  cases steps with
  | zero => rfl
  | succ steps =>
    rw [chain_succ, skipFaults_eq sound, if_neg noSign]

/-- After a limit there is nothing to go on with. -/
theorem chain_stopped {before : Reading} {error : ParseError} {steps : Nat}
    (stopped : before.Stopped error r) (hsign : sign ≠ .eof) :
    chain sign operator operand steps none r = (none, r) := by
  have atEnd : r.peek.kind = .eof := by simp [Reading.peek, stopped.rest, Token.atEnd]
  exact chain_stop (by rw [atEnd]; rfl) (by rw [atEnd]; exact hsign.symm)

theorem Reads.first (reads : Reads room tokens more tree r (operand r)) (hsign : sign ≠ .eof) :
    ReadsOn sign operator operand room tokens more tree r (operands sign operator operand r) := by
  constructor
  · intro fits
    refine ⟨more.length, Nat.le_refl _, ?_⟩
    rw [operands, reads.within fits]
    rfl
  · intro error breach
    obtain ⟨spoilt, stopped⟩ := reads.beyond error breach
    have ended : operands sign operator operand r = (none, (operand r).2) := by
      rw [operands]
      dsimp only
      rw [spoilt, chain_stopped stopped hsign]
    rw [ended]
    exact ⟨rfl, stopped⟩

theorem ReadsOn.next {left right : List Token} {token : Token} {first second : Predicate}
    (reads : ReadsOn sign operator operand room left (token :: right ++ more) first r outcome)
    (hsign : sign ≠ .eof) (plain : isPlain sign = true) (sound : isFault sign = false)
    (hkind : token.kind = sign) (balanced : Balanced left)
    (then_ : ∀ r : Reading, r.rest = right ++ more → Reads room right more second r (operand r)) :
    ReadsOn sign operator operand room (left ++ token :: right) more (operator first second) r
      outcome := by
  rw [← hkind] at plain
  have limits : breach? room r.operands (left ++ token :: right) =
      (breach? room r.operands left).or (breach? room (r.operands + fields left) right) := by
    rw [balanced, breach?_plain plain]
  let there := r.past left (token :: right ++ more)
  have later := then_ there.bump rfl
  have goesOn : breach? room r.operands left = none → ∃ steps, more.length ≤ steps ∧
      outcome = chain sign operator operand steps
        (combine operator (some first) (operand there.bump).1) (operand there.bump).2 := by
    intro fits
    have atSign : there.peek.kind = sign := hkind
    obtain ⟨steps, enough, rfl⟩ := reads.within fits
    cases steps with
    | zero => simp at enough
    | succ steps =>
      refine ⟨steps, ?_, ?_⟩
      · simp only [List.cons_append, List.length_cons, List.length_append] at enough
        omega
      · rw [chain_succ, skipFaults_eq (by rwa [atSign]), if_pos atSign]
  constructor
  · intro fits
    rw [limits, Option.or_eq_none_iff] at fits
    obtain ⟨steps, enough, heq⟩ := goesOn fits.1
    refine ⟨steps, enough, ?_⟩
    rw [heq, later.within fits.2, r.past_join plain]
    rfl
  · intro error breach
    rw [limits, Option.or_eq_some_iff] at breach
    rcases breach with breach | ⟨fits, breach⟩
    · exact reads.beyond error breach
    · obtain ⟨steps, _, heq⟩ := goesOn fits
      obtain ⟨spoilt, stopped⟩ := later.beyond error breach
      have none : combine operator (some first) none = none := rfl
      rw [heq, spoilt, none, chain_stopped stopped hsign]
      exact ⟨rfl, stopped.rest, stopped.halted, stopped.errors⟩

theorem ReadsOn.last (reads : ReadsOn sign operator operand room tokens more tree r outcome)
    (sound : isFault (headKind more) = false) (noSign : headKind more ≠ sign) :
    Reads room tokens more tree r outcome := by
  constructor
  · intro fits
    obtain ⟨steps, _, rfl⟩ := reads.within fits
    have next : (r.past tokens more).peek.kind = headKind more := peek_kind _
    exact chain_stop (by rwa [next]) (by rwa [next])
  · exact reads.beyond

end Chain

/-- How a phrase of each level is read, if what follows it does not go on with it. -/
def Level.Reads (level : Level) (room : Nat) (tokens more : List Token) (tree : Predicate)
    (r : Reading) : Prop :=
  match level with
  | .expression => isFault (headKind more) = false → headKind more ≠ .and →
    ReadsOn .or .or (Predicate.term (groupOf room)) room tokens more tree r
      (Predicate.expression room r)
  | .term =>
    ReadsOn .and .and (Predicate.factor (groupOf room)) room tokens more tree r
      (Predicate.term (groupOf room) r)
  | .factor => Predicate.Reads room tokens more tree r (Predicate.factor (groupOf room) r)

theorem Level.Reads.contains (room : Nat) (field : Field) (text : String) (place literal : Span)
    (more : List Token) {r : Reading}
    (here : r.rest = ⟨.field field, place⟩ :: ⟨.literal text, literal⟩ :: more) :
    Level.factor.Reads room [⟨.field field, place⟩, ⟨.literal text, literal⟩] more
      (.contains field text) r := by
  obtain ⟨_, size, operands, halted, errors⟩ := r
  subst here
  let r : Reading :=
    ⟨⟨.field field, place⟩ :: ⟨.literal text, literal⟩ :: more, size, operands, halted, errors⟩
  have limits : breach? room operands [⟨.field field, place⟩, ⟨.literal text, literal⟩] =
      if operands = maxOperands then some ⟨.tooLong, place⟩ else none := rfl
  have reading : Predicate.factor (groupOf room) r =
      if operands = maxOperands then (none, r.halt .tooLong place)
      else (some (.contains field text),
        r.past [⟨.field field, place⟩, ⟨.literal text, literal⟩] more) := rfl
  by_cases full : operands = maxOperands
  · rw [if_pos full] at limits reading
    constructor
    · intro fits
      cases limits.symm.trans fits
    · intro error breach
      cases limits.symm.trans breach
      rw [reading]
      exact ⟨rfl, rfl, rfl, rfl⟩
  · rw [if_neg full] at limits reading
    constructor
    · intro _
      exact reading
    · intro error breach
      cases limits.symm.trans breach

theorem Level.Reads.group {inner : List Token} {tree : Predicate} (balanced : Balanced inner)
    (reads : ∀ (room : Nat) (r : Reading) (more : List Token), r.rest = inner ++ more →
      Level.expression.Reads room inner more tree r)
    (room : Nat) (opening closing : Span) (more : List Token) {r : Reading}
    (here : r.rest = ⟨.openParen, opening⟩ :: (inner ++ ⟨.closeParen, closing⟩ :: more)) :
    Level.factor.Reads room (⟨.openParen, opening⟩ :: inner ++ [⟨.closeParen, closing⟩]) more tree
      r := by
  obtain ⟨_, size, operands, halted, errors⟩ := r
  subst here
  let within : Reading := ⟨inner ++ ⟨.closeParen, closing⟩ :: more, size, operands, halted, errors⟩
  cases room with
  | zero =>
    constructor
    · intro fits
      cases fits
    · intro error breach
      cases breach
      exact ⟨rfl, rfl, rfl, rfl⟩
  | succ room =>
    have whole : Predicate.Reads room inner (⟨.closeParen, closing⟩ :: more) tree within
        (Predicate.expression room within) :=
      (reads room within _ rfl rfl nofun).last rfl nofun
    have limits : breach? (room + 1) operands
        (⟨.openParen, opening⟩ :: inner ++ [⟨.closeParen, closing⟩]) =
          breach? room operands inner := by
      rw [List.cons_append, breach?, balanced]
      exact Option.or_none
    have reading : Predicate.factor (groupOf (room + 1))
        ⟨⟨.openParen, opening⟩ :: within.rest, size, operands, halted, errors⟩ =
          closeGroup opening (Predicate.expression room within).1
            (Predicate.expression room within).2 := rfl
    constructor
    · intro fits
      have read := whole.within (limits.symm.trans fits)
      rw [reading, read, Reading.past, Reading.past, fields_group]
      rfl
    · intro error breach
      obtain ⟨spoilt, stopped⟩ := whole.beyond error (limits.symm.trans breach)
      have atEnd : (Predicate.expression room within).2.peek.kind = .eof := by
        rw [peek_kind, stopped.rest]
        rfl
      have closed : closeGroup opening (Predicate.expression room within).1
          (Predicate.expression room within).2 = (none, (Predicate.expression room within).2) := by
        simp [closeGroup, atEnd, stopped.halted, spoilt]
      rw [reading, closed]
      exact ⟨rfl, stopped.rest, stopped.halted, stopped.errors⟩

/-- Phrases are read as their trees. -/
theorem Derives.reads {level : Level} {kinds : List Token.Kind} {tree : Predicate}
    (derives : Derives level kinds tree) {tokens : List Token}
    (spelt : tokens.map Token.kind = kinds) (room : Nat) (r : Reading) (more : List Token)
    (here : r.rest = tokens ++ more) : level.Reads room tokens more tree r := by
  induction derives generalizing tokens room r more with
  | term _ ih =>
    intro sound noAnd
    rw [expression_eq]
    exact ((ih spelt room r more here).last sound noAnd).first nofun
  | or before after ihLeft ihRight =>
    intro sound noAnd
    obtain ⟨first, token, second, rfl, hfirst, htoken, hsecond⟩ := split_at_sign spelt
    rw [List.append_assoc] at here
    have left := ihLeft hfirst room r (token :: second ++ more) here
    refine (left (by rw [List.cons_append, headKind, htoken]; rfl)
      (by rw [List.cons_append, headKind, htoken]; nofun)).next nofun rfl rfl htoken
      (before.balanced hfirst) fun r here => ?_
    exact (ihRight hsecond room r more here).last sound noAnd
  | factor _ ih => exact (ih spelt room r more here).first nofun
  | and before after ihLeft ihRight =>
    obtain ⟨first, token, second, rfl, hfirst, htoken, hsecond⟩ := split_at_sign spelt
    rw [List.append_assoc] at here
    have left := ihLeft hfirst room r (token :: second ++ more) here
    refine left.next nofun rfl rfl htoken (before.balanced hfirst) fun r here => ?_
    exact ihRight hsecond room r more here
  | contains field text =>
    obtain ⟨place, span, rfl⟩ := split_match spelt
    exact .contains room field text place span more here
  | group inner ih =>
    obtain ⟨opening, tokens, closing, rfl, htokens⟩ := split_group spelt
    refine .group (inner.balanced htokens) (fun room r more here => ih htokens room r more here)
      room opening closing more ?_
    simpa using here

namespace Reading

@[simp]
theorem bump_errors (r : Reading) : r.bump.errors = r.errors := rfl

@[simp]
theorem report_errors (r : Reading) (kind : ParseError.Kind) (span : Span) :
    (r.report kind span).errors = ⟨kind, span⟩ :: r.errors := rfl

@[simp]
theorem halt_errors (r : Reading) (kind : ParseError.Kind) (span : Span) :
    (r.halt kind span).errors = ⟨kind, span⟩ :: r.errors := rfl

theorem skipFaults_errors (r : Reading) :
    r.errors <:+ r.skipFaults.errors ∧ (isFault r.peek.kind = true → r.skipFaults.errors ≠ []) := by
  have grows : ∀ (tokens : List Token) (errors : List ParseError),
      errors <:+ (Predicate.skipFaults tokens errors).2 := by
    intro tokens errors
    fun_induction Predicate.skipFaults tokens errors with
    | case1 fault span rest errors ih => exact (List.suffix_cons _ _).trans ih
    | case2 rest errors => exact List.suffix_refl _
  refine ⟨grows r.rest r.errors, fun fault none => ?_⟩
  obtain ⟨rest, size, operands, halted, errors⟩ := r
  rcases rest with _ | ⟨⟨kind, span⟩, rest⟩
  · cases fault
  · cases kind with
    | invalid lexical =>
      have first := grows rest (⟨.lexical lexical, span⟩ :: errors)
      have last : (Predicate.skipFaults rest (⟨.lexical lexical, span⟩ :: errors)).2 = [] := none
      rw [last] at first
      cases List.suffix_nil.1 first
    | _ => cases fault

end Reading

/-- What was read without a fault is a phrase of the level. -/
structure Took (level : Level) (r : Reading) (outcome : Outcome) (tokens : List Token)
    (tree : Predicate) : Prop where
  value : outcome.1 = some tree
  here : r.rest = tokens ++ outcome.2.rest
  derives : Derives level (tokens.map Token.kind) tree
  halted : outcome.2.halted = r.halted

def Takes (level : Level) (r : Reading) (outcome : Outcome) : Prop :=
  ∃ tokens tree, Took level r outcome tokens tree

/-- Reading forgets no fault, and takes nothing but phrases of the level without one. -/
structure Sound (level : Level) (read : Reading → Outcome) : Prop where
  grows (r : Reading) : r.errors <:+ (read r).2.errors
  takes (r : Reading) : r.halted = false → (read r).2.errors = [] → Takes level r (read r)

theorem fieldMatch_grows (field : Field) (r : Reading) :
    r.errors <:+ (fieldMatch field r).2.errors := by
  unfold fieldMatch
  split <;> simp

theorem closeGroup_grows (span : Span) (inner : Option Predicate) (r : Reading) :
    r.errors <:+ (closeGroup span inner r).2.errors := by
  unfold closeGroup
  split
  · simp
  · split <;> simp

theorem unknownField_errors (word : String) (span : Span) (r : Reading) :
    (unknownField word span r).2.errors = ⟨.unknownField word, span⟩ :: r.errors := by
  unfold unknownField
  dsimp only
  split <;> rfl

theorem operand_grows {group : Option (Reading → Outcome)}
    (grows : ∀ read ∈ group, ∀ r : Reading, r.errors <:+ (read r).2.errors) (r : Reading) :
    r.errors <:+ (operand group r).2.errors := by
  unfold operand
  split
  · split
    · simp
    · exact fieldMatch_grows _ { r.bump with operands := r.operands + 1 }
  · split
    · simp
    · next read => exact (grows read rfl r.bump).trans (closeGroup_grows _ _ _)
  · rw [unknownField_errors]
    exact List.suffix_cons _ _
  · simp
  · simp

theorem factor_grows {group : Option (Reading → Outcome)}
    (grows : ∀ read ∈ group, ∀ r : Reading, r.errors <:+ (read r).2.errors) (r : Reading) :
    r.errors <:+ (Predicate.factor group r).2.errors := by
  unfold Predicate.factor
  split
  · have skipped := r.skipFaults_errors.1
    dsimp only
    split
    · exact skipped.trans (operand_grows grows _)
    · exact skipped
  · exact operand_grows grows r

theorem fieldMatch_takes {field : Field} {span : Span} {r : Reading} {rest : List Token}
    (here : r.rest = ⟨.field field, span⟩ :: rest) :
    let outcome := fieldMatch field { r.bump with operands := r.operands + 1 }
    outcome.2.errors = [] → Takes .factor r outcome := by
  intro outcome none
  obtain ⟨_, size, operands, halted, errors⟩ := r
  subst here
  rcases rest with _ | ⟨⟨kind, place⟩, rest⟩
  · cases none
  · cases kind with
    | literal text =>
      exact ⟨[⟨.field field, span⟩, ⟨.literal text, place⟩], .contains field text, rfl, rfl,
        .contains field text, rfl⟩
    | _ => cases none

/-- What is read inside a parenthesis is read soundly, if there is room for one. -/
def GroupSound (room : Nat) : Prop := ∀ inner, room = inner + 1 →
  Sound .expression (Predicate.expression inner)

theorem GroupSound.grows {room : Nat} (sound : GroupSound room) :
    ∀ read ∈ groupOf room, ∀ r : Reading, r.errors <:+ (read r).2.errors := by
  intro read hread r
  cases room with
  | zero => cases hread
  | succ inner =>
    cases hread
    exact (sound inner rfl).grows r

theorem group_takes {room : Nat} {span : Span} {r : Reading} {rest : List Token}
    (sound : Sound .expression (Predicate.expression room))
    (here : r.rest = ⟨.openParen, span⟩ :: rest) (running : r.halted = false) :
    let read := Predicate.expression room r.bump
    let outcome := closeGroup span read.1 read.2
    outcome.2.errors = [] → Takes .factor r outcome := by
  intro read outcome none
  have inside : read.2.errors = [] :=
    List.suffix_nil.1 (none ▸ closeGroup_grows span read.1 read.2)
  obtain ⟨tokens, tree, took⟩ := sound.takes r.bump running inside
  have closed : read.2.peek.kind = .closeParen := by
    by_cases closed : read.2.peek.kind = .closeParen
    · exact closed
    · have going : read.2.halted = false := took.halted.trans running
      have reported : outcome.2.errors = ⟨.unclosedParen, span⟩ :: read.2.errors := by
        simp [outcome, closeGroup, closed, going]
      rw [none] at reported
      cases reported
  rcases hrest : read.2.rest with _ | ⟨⟨kind, place⟩, more⟩
  · rw [peek_kind, hrest] at closed
    cases closed
  · rw [peek_kind, hrest] at closed
    obtain rfl : kind = .closeParen := closed
    have result : outcome = (read.1, read.2.bump) := by
      have atClose : read.2.peek.kind = .closeParen := by rw [peek_kind, hrest]; rfl
      simp [outcome, closeGroup, atClose]
    refine ⟨⟨.openParen, span⟩ :: tokens ++ [⟨.closeParen, place⟩], tree, ?_, ?_, ?_, ?_⟩
    · rw [result]
      exact took.value
    · have after : r.bump.rest = tokens ++ read.2.rest := took.here
      rw [Reading.bump, here, hrest] at after
      rw [here, result, Reading.bump, hrest]
      simpa using after
    · have derived := took.derives.group
      simpa using derived
    · rw [result]
      exact took.halted

theorem operand_takes {room : Nat} (sound : GroupSound room) (r : Reading)
    (running : r.halted = false) :
    (operand (groupOf room) r).2.errors = [] →
      Takes .factor r (operand (groupOf room) r) := by
  intro none
  rcases hrest : r.rest with _ | ⟨⟨kind, span⟩, rest⟩
  · have first : r.peek = .atEnd r.size := by simp [Reading.peek, hrest]
    unfold operand at none
    rw [first] at none
    simp [Token.atEnd] at none
  · have first : r.peek = ⟨kind, span⟩ := by simp [Reading.peek, hrest]
    unfold operand at none ⊢
    rw [first] at none ⊢
    cases kind with
    | field field =>
      dsimp only at none ⊢
      by_cases full : r.operands = maxOperands
      · simp [full] at none
      · rw [if_neg full] at none ⊢
        exact fieldMatch_takes hrest none
    | openParen =>
      cases room with
      | zero => simp [groupOf] at none
      | succ inner => exact group_takes (sound inner rfl) hrest running none
    | word word =>
      dsimp only at none
      rw [unknownField_errors] at none
      cases none
    | literal text => simp at none
    | _ => simp at none

theorem factor_eq {group : Option (Reading → Outcome)} {r : Reading}
    (sound : isFault r.peek.kind = false) : Predicate.factor group r = operand group r := by
  unfold Predicate.factor
  split
  · next heq =>
    rw [heq] at sound
    cases sound
  · rfl

theorem factor_sound {room : Nat} (sound : GroupSound room) :
    Sound .factor (Predicate.factor (groupOf room)) where
  grows := factor_grows sound.grows
  takes r running none := by
    by_cases fault : isFault r.peek.kind = true
    · have skipped : r.skipFaults.errors = [] := by
        unfold Predicate.factor at none
        split at none
        · dsimp only at none
          split at none
          · exact List.suffix_nil.1 (none ▸ operand_grows sound.grows r.skipFaults)
          · exact none
        · next noFault =>
          cases hkind : r.peek.kind with
          | invalid lexical => exact absurd hkind (noFault lexical)
          | _ =>
            rw [hkind] at fault
            cases fault
      exact absurd skipped (r.skipFaults_errors.2 fault)
    · have noFault : isFault r.peek.kind = false := by simpa using fault
      rw [factor_eq noFault] at none ⊢
      exact operand_takes sound r running none

section Chain

variable {level inner : Level} {sign : Token.Kind} {operator : Predicate → Predicate → Predicate}
  {operand : Reading → Outcome}

theorem chain_grows (sound : Sound inner operand) (steps : Nat) (left : Option Predicate)
    (r : Reading) : r.errors <:+ (chain sign operator operand steps left r).2.errors := by
  induction steps generalizing left r with
  | zero => exact List.suffix_refl _
  | succ steps ih =>
    have skipped := r.skipFaults_errors.1
    rw [chain_succ]
    split
    · exact (skipped.trans (sound.grows r.skipFaults.bump)).trans (ih _ _)
    · exact skipped

/-- A sign and a further phrase after what was taken. -/
theorem Took.next {start r : Reading} {tokens right : List Token} {tree second : Predicate}
    {outcome : Outcome} (took : Took level start (some tree, r) tokens tree)
    (atSign : r.peek.kind = sign) (hsign : sign ≠ .eof)
    (next : Took inner r.bump outcome right second)
    (join : ∀ {left right : List Token.Kind} {first second : Predicate}, Derives level left first →
      Derives inner right second → Derives level (left ++ sign :: right) (operator first second)) :
    ∃ token, Took level start (some (operator tree second), outcome.2)
      (tokens ++ token :: right) (operator tree second) := by
  obtain ⟨token, rest, hrest, hkind⟩ : ∃ token rest, r.rest = token :: rest ∧
      token.kind = sign := by
    rw [peek_kind] at atSign
    rcases hrest : r.rest with _ | ⟨token, rest⟩
    · rw [hrest] at atSign
      exact absurd atSign.symm hsign
    · rw [hrest] at atSign
      exact ⟨token, rest, rfl, atSign⟩
  refine ⟨token, rfl, ?_, ?_, next.halted.trans took.halted⟩
  · have here : start.rest = tokens ++ r.rest := took.here
    have there : rest = right ++ outcome.2.rest := by
      rw [← next.here, Reading.bump, hrest]
      rfl
    rw [here, hrest, there]
    simp
  · rw [List.map_append, List.map_cons, hkind]
    exact join took.derives next.derives

theorem chain_takes (sound : Sound inner operand) (hsign : sign ≠ .eof)
    (join : ∀ {left right : List Token.Kind} {first second : Predicate}, Derives level left first →
      Derives inner right second → Derives level (left ++ sign :: right) (operator first second))
    {start : Reading} (running : start.halted = false) (steps : Nat) {r : Reading}
    {tokens : List Token} {tree : Predicate}
    (took : Took level start (some tree, r) tokens tree) :
    (chain sign operator operand steps (some tree) r).2.errors = [] →
      Takes level start (chain sign operator operand steps (some tree) r) := by
  intro none
  induction steps generalizing r tokens tree with
  | zero => exact ⟨tokens, tree, took⟩
  | succ steps ih =>
    have grows : ∀ left r, r.errors <:+ (chain sign operator operand steps left r).2.errors :=
      chain_grows sound steps
    rw [chain_succ] at none ⊢
    have skipped : r.skipFaults.errors = [] := by
      split at none
      · have now := sound.grows r.skipFaults.bump
        exact List.suffix_nil.1 (none ▸ now.trans (grows _ _))
      · exact none
    have noFault : isFault r.peek.kind = false := by
      by_cases fault : isFault r.peek.kind = true
      · exact absurd skipped (r.skipFaults_errors.2 fault)
      · simpa using fault
    rw [skipFaults_eq noFault] at none ⊢
    by_cases atSign : r.peek.kind = sign
    · rw [if_pos atSign] at none ⊢
      dsimp only at none ⊢
      have read : (operand r.bump).2.errors = [] := List.suffix_nil.1 (none ▸ grows _ _)
      obtain ⟨right, second, next⟩ := sound.takes r.bump (took.halted.trans running) read
      obtain ⟨token, extended⟩ := took.next atSign hsign next join
      rw [next.value] at none ⊢
      exact ih extended none
    · rw [if_neg atSign]
      exact ⟨tokens, tree, took⟩

theorem operands_sound (sound : Sound inner operand) (hsign : sign ≠ .eof)
    (single : ∀ {kinds : List Token.Kind} {tree : Predicate}, Derives inner kinds tree →
      Derives level kinds tree)
    (join : ∀ {left right : List Token.Kind} {first second : Predicate}, Derives level left first →
      Derives inner right second → Derives level (left ++ sign :: right) (operator first second)) :
    Sound level (operands sign operator operand) where
  grows r := (sound.grows r).trans (chain_grows sound _ _ _)
  takes r running none := by
    have first : (operand r).2.errors = [] :=
      List.suffix_nil.1 (none ▸ chain_grows sound _ _ _)
    obtain ⟨tokens, tree, took⟩ := sound.takes r running first
    unfold operands at none ⊢
    dsimp only at none ⊢
    rw [took.value] at none ⊢
    have start : Took level r (some tree, (operand r).2) tokens tree :=
      ⟨rfl, took.here, single took.derives, took.halted⟩
    exact chain_takes sound hsign join running _ start none

end Chain

theorem GroupSound.expression {room : Nat} (sound : GroupSound room) :
    Sound .expression (Predicate.expression room) := by
  have terms : Sound .term (term (groupOf room)) :=
    operands_sound (factor_sound sound) nofun .factor .and
  rw [expression_eq]
  exact operands_sound terms nofun .term .or

/-- Whatever is read as an expression without a fault is one. -/
theorem expression_sound (room : Nat) : Sound .expression (expression room) := by
  induction room with
  | zero =>
    have nowhere : GroupSound 0 := nofun
    exact nowhere.expression
  | succ room ih =>
    have inside : GroupSound (room + 1) := by
      intro inner heq
      cases heq
      exact ih
    exact inside.expression

theorem trailing_grows (reported : Bool) (tokens : List Token) (errors : List ParseError) :
    errors <:+ trailing reported tokens errors := by
  induction tokens generalizing reported errors with
  | nil => exact List.suffix_refl _
  | cons token tokens ih =>
    obtain ⟨kind, span⟩ := token
    unfold trailing
    split
    · contradiction
    · next heq =>
      cases heq
      exact (List.suffix_cons _ _).trans (ih _ _)
    · next heq =>
      cases heq
      split
      · exact ih _ _
      · exact (List.suffix_cons _ _).trans (ih _ _)

theorem trailing_ne_nil (reported : Bool) (tokens : List Token) (error : ParseError)
    (errors : List ParseError) : trailing reported tokens (error :: errors) ≠ [] := by
  intro none
  have grows := trailing_grows reported tokens (error :: errors)
  rw [none] at grows
  cases List.suffix_nil.1 grows

/-- What is left after an expression is reported. -/
theorem trailing_eq_nil {tokens : List Token} {errors : List ParseError}
    (none : trailing false tokens errors = []) : tokens = [] ∧ errors = [] := by
  have grows := trailing_grows false tokens errors
  rw [none] at grows
  refine ⟨?_, List.suffix_nil.1 grows⟩
  cases tokens with
  | nil => rfl
  | cons token tokens =>
    unfold trailing at none
    split at none
    · contradiction
    · exact absurd none (trailing_ne_nil _ _ _ _)
    · exact absurd none (trailing_ne_nil _ _ _ _)

theorem ofTokens_of_derives {tokens : List Token} {tree : Predicate}
    (derives : Derives .expression (tokens.map Token.kind) tree) (size : Nat) :
    ofTokens tokens size = match breach? maxDepth 0 tokens with
      | none => .ok tree
      | some error => .error [error] := by
  have nonempty : tokens.isEmpty = false := by
    have := derives.ne_nil
    cases tokens with
    | nil => simp at this
    | cons token tokens => rfl
  have reads : Reads maxDepth tokens [] tree (.start tokens size)
      (expression maxDepth (.start tokens size)) := by
    have here : (Reading.start tokens size).rest = tokens ++ [] := (List.append_nil _).symm
    exact (derives.reads rfl maxDepth _ [] here rfl nofun).last rfl nofun
  unfold ofTokens
  rw [nonempty, if_neg Bool.false_ne_true]
  dsimp only
  cases hbreach : breach? maxDepth 0 tokens with
  | none =>
    rw [reads.within hbreach]
    rfl
  | some error =>
    obtain ⟨spoilt, stopped⟩ := reads.beyond error hbreach
    rw [spoilt, stopped.rest, stopped.errors]
    rfl

theorem derives_of_ofTokens {tokens : List Token} {size : Nat} {tree : Predicate}
    (parsed : ofTokens tokens size = .ok tree) :
    Derives .expression (tokens.map Token.kind) tree := by
  have sound := expression_sound maxDepth
  unfold ofTokens at parsed
  split at parsed
  · cases parsed
  · dsimp only at parsed
    split at parsed
    · next found none =>
      cases parsed
      obtain ⟨left, faultless⟩ := trailing_eq_nil none
      obtain ⟨taken, tree', took⟩ := sound.takes (.start tokens size) rfl faultless
      have whole : tokens = taken := by
        have here : tokens = taken ++ (expression maxDepth (.start tokens size)).2.rest := took.here
        rwa [left, List.append_nil] at here
      have same := took.value
      rw [found] at same
      cases same
      rw [whole]
      exact took.derives
    · cases parsed

/-- Whenever there is no tree, there is a fault: a tree is spoilt by nothing else. -/
theorem ofTokens_error_ne_nil {tokens : List Token} {size : Nat} {errors : List ParseError}
    (failed : ofTokens tokens size = .error errors) : errors ≠ [] := by
  have sound := expression_sound maxDepth
  unfold ofTokens at failed
  split at failed
  · cases failed
    exact List.cons_ne_nil _ _
  · dsimp only at failed
    split at failed
    · cases failed
    · next spoilt =>
      cases failed
      intro none
      obtain ⟨_, faultless⟩ := trailing_eq_nil (List.reverse_eq_nil_iff.1 none)
      obtain ⟨taken, tree, took⟩ := sound.takes (.start tokens size) rfl faultless
      exact spoilt tree took.value (List.reverse_eq_nil_iff.1 none)

/-- The tokens of a text after correction, without the one that closes it. -/
def sentence (text : String) : List Token := ((tokenize text).map Token.corrected).dropLast

def kinds (text : String) : List Token.Kind := (sentence text).map Token.kind

theorem parse_eq (text : String) : parse text = ofTokens (sentence text) text.utf8ByteSize := by
  rw [parse, sentence, tokenize, List.map_append, List.map_singleton, List.dropLast_concat]

theorem parse_error_ne_nil {text : String} {errors : List ParseError}
    (failed : parse text = .error errors) : errors ≠ [] := by
  rw [parse_eq] at failed
  exact ofTokens_error_ne_nil failed

/-- A sentence is parsed as its tree, unless some token of it is beyond a limit. -/
theorem parse_of_derives {text : String} {tree : Predicate}
    (derives : Derives .expression (kinds text) tree) :
    parse text = match breach? maxDepth 0 (sentence text) with
      | none => .ok tree
      | some error => .error [error] := by
  rw [parse_eq]
  exact ofTokens_of_derives derives _

/-- What is parsed as a tree is a sentence with this tree that keeps the limits. -/
theorem parse_eq_ok_iff {text : String} {tree : Predicate} :
    parse text = .ok tree ↔
      Derives .expression (kinds text) tree ∧ Fits maxDepth 0 (kinds text) := by
  have limits : breach? maxDepth 0 (sentence text) = none ↔ Fits maxDepth 0 (kinds text) :=
    breach?_eq_none_iff (Nat.zero_le _)
  constructor
  · intro parsed
    have derives : Derives .expression (kinds text) tree := by
      rw [parse_eq] at parsed
      exact derives_of_ofTokens parsed
    refine ⟨derives, limits.1 ?_⟩
    rw [parse_of_derives derives] at parsed
    cases hbreach : breach? maxDepth 0 (sentence text) with
    | none => rfl
    | some error =>
      rw [hbreach] at parsed
      cases parsed
  · rintro ⟨derives, fits⟩
    rw [parse_of_derives derives, limits.2 fits]

/-- A text is parsed as a tree exactly if its tokens are a sentence with this tree that keeps the
limits, and no sentence has two trees. A sentence that does not keep the limits has one fault, at
the first token that is too much. -/
theorem parse_exact (text : String) :
    (∀ tree, parse text = .ok tree ↔
      Derives .expression (kinds text) tree ∧ Fits maxDepth 0 (kinds text)) ∧
    (∀ tree other, parse text = .ok tree → Derives .expression (kinds text) other → other = tree) ∧
    ∀ tree, Derives .expression (kinds text) tree → ¬ Fits maxDepth 0 (kinds text) →
      ∃ before token after error, sentence text = before ++ token :: after ∧
        Fits maxDepth 0 (before.map Token.kind) ∧ Exceeds maxDepth 0 before token error ∧
        parse text = .error [error] := by
  refine ⟨fun tree => parse_eq_ok_iff, ?_, ?_⟩
  · intro tree other parsed isSentence
    obtain ⟨_, fits⟩ := parse_eq_ok_iff.1 parsed
    have parsedToo := parse_eq_ok_iff.2 ⟨isSentence, fits⟩
    rw [parsed] at parsedToo
    cases parsedToo
    rfl
  · intro tree isSentence beyond
    cases hbreach : breach? maxDepth 0 (sentence text) with
    | none => exact absurd ((breach?_eq_none_iff (Nat.zero_le _)).1 hbreach) beyond
    | some error =>
      obtain ⟨before, token, after, heq, none, exceeds⟩ := breach?_eq_some hbreach
      refine ⟨before, token, after, error, heq, ?_, exceeds, ?_⟩
      · exact (breach?_eq_none_iff (Nat.zero_le _)).1 none
      · rw [parse_of_derives isSentence, hbreach]

example : (parse "TITLE \"a\" OR titles \"b\" && (GENRE \"c\" OR ACTOR \"d\")").toOption =
    some (.or (.contains .title "a") (.and (.contains .title "b")
      (.or (.contains .genre "c") (.contains .actor "d")))) := by
  decide +kernel

end SmartCollections.Predicate
