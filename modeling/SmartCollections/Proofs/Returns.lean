import SmartCollections.Proofs.Activations
import SmartCollections.Proofs.Diagnostics

/-!
# What the calls of the parser return

Every routine that is called returns what its function comes to, with its callers and the count of
open parentheses as they were. So the run of the parser, call by call, ends with what the parser
makes of the tokens.
-/

namespace SmartCollections.Predicate

namespace Reading

/-- The tokens not read yet are the last ones of the list, and the end is not among them. -/
structure Within (tokens : List Token) (r : Reading) : Prop where
  last : r.ahead <:+ tokens
  visible : ∀ token ∈ r.rest, token.kind ≠ .eof

/-- The other reading is of the same text, and not before this one. -/
structure Onward (r r' : Reading) : Prop where
  size : r'.size = r.size
  rest : r'.rest <:+ r.rest

variable {tokens rest : List Token} {token : Token} {r r' r'' : Reading}

theorem Onward.refl (r : Reading) : Onward r r := ⟨rfl, List.suffix_refl _⟩

theorem Onward.trans (first : Onward r r') (second : Onward r' r'') : Onward r r'' :=
  ⟨second.size.trans first.size, second.rest.trans first.rest⟩

theorem Onward.bump (r : Reading) : Onward r r.bump := ⟨rfl, List.tail_suffix _⟩

theorem Onward.pastField (r : Reading) : Onward r r.pastField := ⟨rfl, List.tail_suffix _⟩

theorem Onward.report (r : Reading) (kind : ParseError.Kind) (span : Span) :
    Onward r (r.report kind span) := ⟨rfl, List.suffix_refl _⟩

theorem Onward.halt (r : Reading) (kind : ParseError.Kind) (span : Span) :
    Onward r (r.halt kind span) := ⟨rfl, List.nil_suffix⟩

theorem Within.onward (within : r.Within tokens) (onward : Onward r r') : r'.Within tokens where
  last := by
    refine List.IsSuffix.trans ?_ within.last
    obtain ⟨before, same⟩ := onward.rest
    exact ⟨before, by rw [ahead, ahead, onward.size, ← same, List.append_assoc]⟩
  visible token mem := within.visible token (onward.rest.subset mem)

theorem Within.length_lt (within : r.Within tokens) : r.rest.length < tokens.length := by
  have shorter := within.last.length_le
  rw [ahead, List.length_append] at shorter
  exact shorter

/-- The token that comes next is the first of those that are not read yet. -/
theorem Within.getElem? (within : r.Within tokens) :
    tokens[tokens.length - 1 - r.rest.length]? = some r.peek := by
  obtain ⟨before, rfl⟩ := within.last
  obtain ⟨later, here⟩ := r.ahead_eq
  have length := congrArg List.length here
  rw [ahead, List.length_append, List.length_cons] at length
  have place : (before ++ r.ahead).length - 1 - r.rest.length = before.length := by
    rw [List.length_append, ahead, List.length_append]
    simp only [List.length_cons, List.length_nil]
    omega
  rw [place, here, List.getElem?_append_right (Nat.le_refl _), Nat.sub_self]
  rfl

end Reading

namespace Process

/-- The process that stands where a reading does. -/
def showing (tokens : List Token) (r : Reading) (depth : Nat) (callers : List Caller)
    (activity : Activity) : Process :=
  ⟨tokens.length - 1 - r.rest.length, depth, r.operands, r.halted, r.errors, callers, activity⟩

variable {tokens rest : List Token} {token : Token} {r : Reading} {depth : Nat}
  {callers : List Caller} {activity : Activity}

theorem step_showing (within : r.Within tokens) :
    step tokens (showing tokens r depth callers activity) =
      act tokens (showing tokens r depth callers activity) r.peek := by
  have inside : min (tokens.length - 1 - r.rest.length) (tokens.length - 1) =
      tokens.length - 1 - r.rest.length := Nat.min_eq_left (Nat.sub_le _ _)
  rw [step, peek, showing, inside, within.getElem?]
  rfl

theorem bump_showing (within : r.Within tokens) (here : r.rest = token :: rest) :
    (showing tokens r depth callers activity).bump token =
      showing tokens r.bump depth callers activity := by
  have visible : token.kind ≠ .eof := within.visible token (here ▸ List.mem_cons_self)
  have inside := within.length_lt
  have next : tokens.length - 1 - r.rest.length + 1 = tokens.length - 1 - r.bump.rest.length := by
    have fewer : r.bump.rest.length = rest.length := by rw [Reading.bump, here]; rfl
    rw [here, List.length_cons] at inside ⊢
    omega
  rw [bump, if_neg visible, showing, showing, ← next]
  rfl

/-- Some steps, one after another. -/
abbrev Runs (tokens : List Token) : Process → Process → Prop :=
  Relation.ReflTransGen fun p q => step tokens p = some q

theorem Runs.next (within : r.Within tokens) {p : Process}
    (acts : act tokens (showing tokens r depth callers activity) r.peek = some p) :
    Runs tokens (showing tokens r depth callers activity) p :=
  .single ((step_showing within).trans acts)

/-- The process comes to the outcome, with its callers and its depth as they were. -/
structure Comes (tokens : List Token) (r : Reading) (depth : Nat) (callers : List Caller)
    (activity : Activity) (outcome : Outcome) : Prop where
  runs : Runs tokens (showing tokens r depth callers activity)
    (showing tokens outcome.2 depth callers (.answer outcome.1))
  onward : Reading.Onward r outcome.2

/-- The outcome is reached in one step. -/
theorem Comes.of_act {outcome : Outcome} (within : r.Within tokens) (peek : r.peek = token)
    (acts : act tokens (showing tokens r depth callers activity) token =
      some (showing tokens outcome.2 depth callers (.answer outcome.1)))
    (onward : Reading.Onward r outcome.2) : Comes tokens r depth callers activity outcome :=
  ⟨.next within (peek ▸ acts), onward⟩

theorem Comes.after {r' : Reading} {activityThen : Activity}
    {outcome : Outcome} (comes : Comes tokens r' depth callers activityThen outcome)
    (runs : Runs tokens (showing tokens r depth callers activity)
      (showing tokens r' depth callers activityThen)) (onward : Reading.Onward r r') :
    Comes tokens r depth callers activity outcome :=
  ⟨runs.trans comes.runs, onward.trans comes.onward⟩

theorem peek_cons (here : r.rest = token :: rest) : r.peek = token := by
  rw [Reading.peek, here]
  rfl

theorem peek_nil (here : r.rest = []) : r.peek = .atEnd r.size := by
  rw [Reading.peek, here]
  rfl

/-- After a keyword the text is looked for. -/
theorem text_comes (within : r.Within tokens) (field : Field) :
    Comes tokens r depth callers (.text field) (fieldMatch field r) := by
  cases here : r.rest with
  | nil =>
    have peek := peek_nil here
    rw [fieldMatch, peek]
    exact .of_act within peek rfl (.report r _ _)
  | cons token rest =>
    obtain ⟨kind, span⟩ := token
    have peek := peek_cons here
    have bumped : (showing tokens r depth callers (.text field)).bump ⟨kind, span⟩ = _ :=
      bump_showing within here
    rw [fieldMatch, peek]
    cases kind with
    | literal text =>
      refine .of_act within peek ?_ (.bump r)
      exact congrArg (fun p => some (p.turn (.answer (some (.contains field text))))) bumped
    | invalid fault =>
      refine .of_act within peek ?_ ((Reading.Onward.bump r).trans (.report _ _ _))
      exact congrArg (fun p => some ((p.report (.lexical fault) span).turn (.answer none))) bumped
    | _ => exact .of_act within peek rfl (.report r _ _)

/-- After an unknown word its text is stepped over. -/
theorem unknown_comes (within : r.Within tokens) :
    Comes tokens r depth callers .unknown
      (match r.peek.kind with
        | .literal _ => (none, r.bump)
        | _ => (none, r)) := by
  cases here : r.rest with
  | nil =>
    have peek := peek_nil here
    rw [peek]
    exact .of_act within peek rfl (.refl r)
  | cons token rest =>
    obtain ⟨kind, span⟩ := token
    have peek := peek_cons here
    have bumped : (showing tokens r depth callers .unknown).bump ⟨kind, span⟩ = _ :=
      bump_showing within here
    rw [peek]
    cases kind with
    | literal text =>
      refine .of_act within peek ?_ (.bump r)
      exact congrArg (fun p => some (p.turn (.answer none))) bumped
    | _ => exact .of_act within peek rfl (.refl r)

theorem skipFaults_cons {fault : LexicalFault} {span : Span}
    (here : r.rest = ⟨.invalid fault, span⟩ :: rest) :
    r.skipFaults = (r.bump.report (.lexical fault) span).skipFaults := by
  obtain ⟨_, size, operands, halted, errors⟩ := r
  subst here
  rfl

theorem fault_cons (fault : isFault r.peek.kind = true) :
    ∃ lexical span rest, r.rest = ⟨.invalid lexical, span⟩ :: rest := by
  cases here : r.rest with
  | nil =>
    rw [peek_nil here] at fault
    cases fault
  | cons token rest =>
    obtain ⟨kind, span⟩ := token
    rw [peek_cons here] at fault
    cases kind with
    | invalid lexical => exact ⟨lexical, span, rest, rfl⟩
    | _ => cases fault

/-- Lexical faults are stepped over one by one. -/
theorem skipFaults_runs (depth : Nat) (callers : List Caller) (activity : Activity)
    (steps : ∀ (r : Reading) (fault : LexicalFault) (span : Span),
      act tokens (showing tokens r depth callers activity) ⟨.invalid fault, span⟩ =
        some (((showing tokens r depth callers activity).bump ⟨.invalid fault, span⟩).report
          (.lexical fault) span)) (within : r.Within tokens) :
    Runs tokens (showing tokens r depth callers activity)
        (showing tokens r.skipFaults depth callers activity) ∧
      Reading.Onward r r.skipFaults ∧ isFault r.skipFaults.peek.kind = false := by
  induction hlength : r.rest.length generalizing r with
  | zero =>
    have atEnd : isFault r.peek.kind = false := by
      rw [peek_nil (List.length_eq_zero_iff.1 hlength)]
      rfl
    rw [skipFaults_eq atEnd]
    exact ⟨.refl, .refl r, atEnd⟩
  | succ length ih =>
    cases fault : isFault r.peek.kind with
    | false =>
      rw [skipFaults_eq fault]
      exact ⟨.refl, .refl r, fault⟩
    | true =>
      obtain ⟨lexical, span, rest, here⟩ := fault_cons fault
      have onward : Reading.Onward r (r.bump.report (.lexical lexical) span) :=
        (Reading.Onward.bump r).trans (.report _ _ _)
      have steps : act tokens (showing tokens r depth callers activity) r.peek =
          some (showing tokens (r.bump.report (.lexical lexical) span) depth callers activity) := by
        rw [peek_cons here, steps, bump_showing within here]
        rfl
      have fewer : (r.bump.report (.lexical lexical) span).rest.length = length := by
        have shorter : (r.bump.report (.lexical lexical) span).rest = rest := by
          rw [Reading.report, Reading.bump, here]
          rfl
        rw [here, List.length_cons] at hlength
        rw [shorter]
        exact Nat.succ.inj hlength
      obtain ⟨runs, onwardThen, sound⟩ := ih (within.onward onward) fewer
      rw [skipFaults_cons here]
      exact ⟨(Runs.next within steps).trans runs, onward.trans onwardThen, sound⟩

/-- A routine that is called returns what its function comes to. -/
def Returns (tokens : List Token) (routine : Routine) (room : Nat) : Prop :=
  ∀ (r : Reading) (depth : Nat) (callers : List Caller), r.Within tokens →
    depth + room = maxDepth →
    Comes tokens r depth callers (.call routine) (routine.read room r)

theorem closeGroup_fst (opening : Span) (value : Option Predicate) (r : Reading) :
    (closeGroup opening value r).1 = value := by
  unfold closeGroup
  split
  · rfl
  · split <;> rfl

theorem closeGroup_onward (opening : Span) (value : Option Predicate) (r : Reading) :
    Reading.Onward r (closeGroup opening value r).2 := by
  unfold closeGroup
  split
  · exact .bump r
  · split
    · exact .refl r
    · exact .report r _ _

theorem close_showing (within : r.Within tokens) (opening : Span) (value : Option Predicate) :
    (showing tokens r depth callers activity).close opening r.peek =
      showing tokens (closeGroup opening value r).2 depth callers activity := by
  have same : (showing tokens r depth callers activity).halted = r.halted := rfl
  by_cases closes : r.peek.kind = .closeParen
  · cases here : r.rest with
    | nil =>
      rw [peek_nil here] at closes
      cases closes
    | cons token rest =>
      rw [close, closeGroup, if_pos closes, if_pos closes, peek_cons here, bump_showing within here]
  · rw [close, closeGroup, if_neg closes, if_neg closes, same]
    cases r.halted <;> rfl

/-- The parenthesis is closed or not, and is not counted as open any more. -/
theorem group_comes (within : r.Within tokens) (opening : Span) (value : Option Predicate) :
    Runs tokens (showing tokens r (depth + 1) (.group opening :: callers) (.answer value))
      (showing tokens (closeGroup opening value r).2 depth callers
        (.answer (closeGroup opening value r).1)) := by
  rw [closeGroup_fst]
  refine .next within ?_
  exact congrArg (fun p => some ({ p with depth := depth }.resume callers (.answer value)))
    (close_showing within opening value)

/-- A factor that does not start with a lexical fault. -/
theorem operand_comes (callers : List Caller) {room : Nat}
    (inside : ∀ inner, room = inner + 1 → Returns tokens (.series .terms) inner)
    (within : r.Within tokens) (count : depth + room = maxDepth)
    (sound : isFault r.peek.kind = false) :
    Comes tokens r depth callers (.call .factor) (Predicate.operand (groupOf room) r) := by
  cases here : r.rest with
  | nil =>
    have peek := peek_nil here
    rw [operand, peek]
    exact .of_act within peek rfl (.report r _ _)
  | cons token rest =>
    obtain ⟨kind, span⟩ := token
    have peek := peek_cons here
    have bumped : (showing tokens r depth callers (.call .factor)).bump ⟨kind, span⟩ = _ :=
      bump_showing within here
    rw [operand, peek]
    cases kind with
    | field field =>
      dsimp only
      split
      · next full =>
        refine .of_act within peek (congrArg some ?_) (.halt r _ _)
        exact if_pos full
      · next few =>
        have onward := Reading.Onward.pastField r
        refine (text_comes (within.onward onward) field).after (.next within ?_) onward
        rw [peek]
        refine congrArg some ((if_neg few).trans ?_)
        rw [bumped]
        rfl
    | openParen =>
      cases room with
      | zero =>
        refine .of_act within peek (congrArg some ?_) (.halt r _ _)
        exact if_pos count
      | succ inner =>
        have few : depth ≠ maxDepth := by omega
        have opens : Runs tokens (showing tokens r depth callers (.call .factor))
            (showing tokens r.bump (depth + 1) (.group span :: callers)
              (.call (.series .terms))) := by
          refine .next within ?_
          rw [peek]
          refine congrArg some ((if_neg few).trans ?_)
          rw [bumped]
          rfl
        have comes := inside inner rfl r.bump (depth + 1) (.group span :: callers)
          (within.onward (.bump r)) (by omega)
        have onward := (Reading.Onward.bump r).trans comes.onward
        exact ⟨(opens.trans comes.runs).trans (group_comes (within.onward onward) span _),
          onward.trans (closeGroup_onward span _ _)⟩
    | word word =>
      have onward : Reading.Onward r (r.bump.report (.unknownField word) span) :=
        (Reading.Onward.bump r).trans (.report _ _ _)
      refine (unknown_comes (within.onward onward)).after (.next within ?_) onward
      rw [peek]
      exact congrArg (fun p => some ((p.report (.unknownField word) span).turn .unknown)) bumped
    | literal text =>
      refine .of_act within peek ?_ ((Reading.Onward.bump r).trans (.report _ _ _))
      exact congrArg (fun p => some ((p.report (.strayLiteral text) span).turn (.answer none)))
        bumped
    | invalid fault =>
      rw [peek] at sound
      cases sound
    | _ => exact .of_act within peek rfl (.report r _ _)

theorem factor_returns {room : Nat}
    (inside : ∀ inner, room = inner + 1 → Returns tokens (.series .terms) inner) :
    Returns tokens .factor room := by
  intro r depth callers within count
  cases fault : isFault r.peek.kind with
  | false =>
    rw [Routine.read, factor_eq fault]
    exact operand_comes callers inside within count fault
  | true =>
    obtain ⟨lexical, span, rest, here⟩ := fault_cons fault
    have peek := peek_cons here
    have onward : Reading.Onward r (r.bump.report (.lexical lexical) span) :=
      (Reading.Onward.bump r).trans (.report _ _ _)
    have first : Runs tokens (showing tokens r depth callers (.call .factor))
        (showing tokens (r.bump.report (.lexical lexical) span) depth callers .faults) := by
      refine .next within ?_
      rw [peek]
      exact congrArg (fun p => some ((p.report (.lexical lexical) span).turn .faults))
        (bump_showing within here)
    obtain ⟨skips, onwardThen, sound⟩ := skipFaults_runs depth callers .faults
      (fun _ _ _ => rfl) (within.onward onward)
    rw [← skipFaults_cons here] at skips onwardThen sound
    have arrives := first.trans skips
    have onward := onward.trans onwardThen
    have withinThen := within.onward onward
    have reading : Predicate.factor (groupOf room) r =
        if startsOperand r.skipFaults.peek.kind then Predicate.operand (groupOf room) r.skipFaults
        else (none, r.skipFaults) := by
      rw [Predicate.factor, peek]
    rw [Routine.read, reading]
    have next : Runs tokens (showing tokens r.skipFaults depth callers .faults) _ :=
      .next withinThen (congrArg some (faults_sound sound))
    split
    · next ready =>
      rw [if_pos ready] at next
      have again := operand_comes (.again :: callers) inside withinThen count sound
      have back : Runs tokens (showing tokens (operand (groupOf room) r.skipFaults).2 depth
          (.again :: callers) (.answer (operand (groupOf room) r.skipFaults).1))
          (showing tokens (operand (groupOf room) r.skipFaults).2 depth callers
            (.answer (operand (groupOf room) r.skipFaults).1)) :=
        .next (withinThen.onward again.onward) rfl
      exact ⟨((arrives.trans next).trans again.runs).trans back, onward.trans again.onward⟩
    · next absent =>
      rw [if_neg absent] at next
      exact ⟨arrives.trans next, onward⟩

theorem answer_next {series : Series} {left value : Option Predicate} (within : r.Within tokens) :
    Runs tokens (showing tokens r depth (.next series left :: callers) (.answer value))
      (showing tokens r depth callers (.loop series (combine series.operator left value))) :=
  .next within rfl

/-- A series goes on as long as signs follow. The induction is on the number of steps, of which
there are enough. -/
theorem loop_comes (callers : List Caller) {series : Series} {room : Nat}
    (returns : Returns tokens series.operand room)
    (count : depth + room = maxDepth) (steps : Nat) (left : Option Predicate)
    (within : r.Within tokens) (enough : r.rest.length ≤ steps) :
    Comes tokens r depth callers (.loop series left)
      (chain series.sign series.operator (series.operand.read room) steps left r) := by
  induction steps generalizing left r with
  | zero =>
    have peek := peek_nil (List.length_eq_zero_iff.1 (Nat.le_zero.1 enough))
    refine .of_act within peek (congrArg some ?_) (.refl r)
    cases series <;> rfl
  | succ steps ih =>
    obtain ⟨skips, onward, sound⟩ := skipFaults_runs depth callers (.loop series left)
      (fun _ _ _ => rfl) within
    have withinThen := within.onward onward
    have next : Runs tokens (showing tokens r.skipFaults depth callers (.loop series left)) _ :=
      .next withinThen (congrArg some (loop_sound sound))
    rw [chain_succ]
    split
    · next atSign =>
      rw [if_pos atSign] at next
      cases here : r.skipFaults.rest with
      | nil =>
        rw [peek_nil here] at atSign
        cases series <;> cases atSign
      | cons token rest =>
        rw [peek_cons here, bump_showing withinThen here] at next
        have onwardOver := onward.trans (.bump r.skipFaults)
        have comes := returns r.skipFaults.bump depth (.next series left :: callers)
          (within.onward onwardOver) count
        have onwardAfter := onwardOver.trans comes.onward
        have fewer : (series.operand.read room r.skipFaults.bump).2.rest.length ≤ steps := by
          have less := comes.onward.rest.length_le
          have skipped := onward.rest.length_le
          have bumped : r.skipFaults.bump.rest = rest := by rw [Reading.bump, here]; rfl
          rw [bumped] at less
          rw [here, List.length_cons] at skipped
          omega
        have rest := ih (combine series.operator left
          (series.operand.read room r.skipFaults.bump).1) (within.onward onwardAfter) fewer
        refine rest.after ?_ onwardAfter
        exact ((skips.trans next).trans comes.runs).trans (answer_next (within.onward onwardAfter))
    · next noSign =>
      rw [if_neg noSign] at next
      exact ⟨skips.trans next, onward⟩

theorem read_series (series : Series) (room : Nat) (r : Reading) :
    (Routine.series series).read room r =
      Predicate.operands series.sign series.operator (series.operand.read room) r := by
  cases series with
  | terms => rw [Routine.read, expression_eq]; rfl
  | factors => rfl

theorem series_returns {series : Series} {room : Nat}
    (returns : Returns tokens series.operand room) : Returns tokens (.series series) room := by
  intro r depth callers within count
  have comes := returns r depth (.first series :: callers) within count
  have withinThen := within.onward comes.onward
  have calls : Runs tokens (showing tokens r depth callers (.call (.series series)))
      (showing tokens r depth (.first series :: callers) (.call series.operand)) := .next within rfl
  have back : Runs tokens (showing tokens (series.operand.read room r).2 depth
      (.first series :: callers) (.answer (series.operand.read room r).1))
      (showing tokens (series.operand.read room r).2 depth callers
        (.loop series (series.operand.read room r).1)) := .next withinThen rfl
  have rest := loop_comes callers returns count _ (series.operand.read room r).1 withinThen
    (Nat.le_refl _)
  rw [read_series, Predicate.operands]
  exact rest.after ((calls.trans comes.runs).trans back) comes.onward

theorem expression_returns {room : Nat} (factors : Returns tokens .factor room) :
    Returns tokens (.series .terms) room := by
  have terms : Returns tokens (.series .factors) room := series_returns factors
  exact series_returns terms

theorem factors_return (tokens : List Token) (room : Nat) : Returns tokens .factor room := by
  induction room with
  | zero => exact factor_returns nofun
  | succ room ih =>
    refine factor_returns ?_
    rintro inner same
    cases same
    exact expression_returns ih

/-- Every routine that is called returns what its function comes to. -/
theorem returns (tokens : List Token) (routine : Routine) (room : Nat) :
    Returns tokens routine room := by
  have factors := factors_return tokens room
  cases routine with
  | series series =>
    cases series with
    | terms => exact expression_returns factors
    | factors => exact series_returns factors
  | factor => exact factors

/-- The end is reached, and all faults are told. -/
theorem trailing_comes (tree : Option Predicate) (reported : Bool) (within : r.Within tokens) :
    ∃ last : Reading, last.rest = [] ∧
      Runs tokens (showing tokens r 0 [] (.trailing tree reported))
        (showing tokens last 0 []
          (.done (conclusion tree (Predicate.trailing reported r.rest r.errors)))) := by
  induction here : r.rest generalizing reported r with
  | nil =>
    have ends : Runs tokens (showing tokens r 0 [] (.trailing tree reported)) _ :=
      .next within (by rw [peek_nil here]; rfl)
    exact ⟨r, here, ends⟩
  | cons token rest ih =>
    obtain ⟨kind, span⟩ := token
    have past : r.bump.rest = rest := by rw [Reading.bump, here]; rfl
    have visible : kind ≠ .eof := within.visible ⟨kind, span⟩ (here ▸ List.mem_cons_self)
    have bumped : (showing tokens r 0 [] (.trailing tree reported)).bump ⟨kind, span⟩ = _ :=
      bump_showing within here
    -- Whatever is told of the token, what comes after it is told by the induction hypothesis.
    have onward (r' : Reading) (reportedThen : Bool) (rest' : r'.rest = rest)
        (further : Reading.Onward r r')
        (steps : act tokens (showing tokens r 0 [] (.trailing tree reported)) ⟨kind, span⟩ =
          some (showing tokens r' 0 [] (.trailing tree reportedThen))) :
        ∃ last : Reading, last.rest = [] ∧
          Runs tokens (showing tokens r 0 [] (.trailing tree reported))
            (showing tokens last 0 []
              (.done (conclusion tree (Predicate.trailing reportedThen rest r'.errors)))) := by
      obtain ⟨last, nothing, runs⟩ := ih reportedThen (within.onward further) rest'
      exact ⟨last, nothing, (Runs.next within (peek_cons here ▸ steps)).trans runs⟩
    cases fault : isFault kind with
    | true =>
      cases kind with
      | invalid lexical =>
        refine onward (r.bump.report (.lexical lexical) span) reported past
          ((Reading.Onward.bump r).trans (.report _ _ _)) ?_
        exact congrArg (fun p => some (p.report (.lexical lexical) span)) bumped
      | _ => cases fault
    | false =>
      have told : Predicate.trailing reported (⟨kind, span⟩ :: rest) r.errors =
          Predicate.trailing true rest
            (if reported then r.errors else ⟨.trailing kind, span⟩ :: r.errors) := by
        cases kind with
        | invalid lexical => cases fault
        | _ => rfl
      rw [told]
      have steps : act tokens (showing tokens r 0 [] (.trailing tree reported)) ⟨kind, span⟩ = _ :=
        congrArg some (trailing_sound fault visible)
      rw [bumped] at steps
      cases reported with
      | true => exact onward r.bump true past (.bump r) steps
      | false =>
        exact onward (r.bump.report (.trailing kind) span) true past
          ((Reading.Onward.bump r).trans (.report _ _ _)) steps

/-- From the call of the expression to the end of the run. -/
theorem expression_ends (within : r.Within tokens) :
    let read := expression maxDepth r
    ∃ last : Process, Runs tokens (showing tokens r 0 [] (.call (.series .terms))) last ∧
      last.activity =
        .done (conclusion read.1 (Predicate.trailing false read.2.rest read.2.errors)) := by
  intro read
  have comes := returns tokens (.series .terms) maxDepth r 0 [] within (Nat.zero_add _)
  have withinThen := within.onward comes.onward
  obtain ⟨last, _, rest⟩ := trailing_comes read.1 false withinThen
  have turns : Runs tokens (showing tokens read.2 0 [] (.answer read.1))
      (showing tokens read.2 0 [] (.trailing read.1 false)) := .next withinThen rfl
  exact ⟨_, (comes.runs.trans turns).trans rest, rfl⟩

theorem ofTokens_eq {tokens : List Token} (some : tokens ≠ []) (size : Nat) :
    ofTokens tokens size =
      let read := expression maxDepth (.start tokens size)
      conclusion read.1 (Predicate.trailing false read.2.rest read.2.errors) := by
  have nonempty : tokens.isEmpty = false := by simpa using some
  rw [ofTokens, nonempty, if_neg Bool.false_ne_true]
  rfl

/-- The run ends with what the parser makes of the tokens. -/
theorem run_ends (tokens : List Token) (size : Nat)
    (visible : ∀ token ∈ tokens, token.kind ≠ .eof) :
    ∃ last : Process, Runs (tokens ++ [.atEnd size]) start last ∧
      last.activity = .done (ofTokens tokens size) := by
  have within : (Reading.start tokens size).Within (tokens ++ [.atEnd size]) :=
    ⟨List.suffix_refl _, visible⟩
  have atStart : start = showing (tokens ++ [.atEnd size]) (.start tokens size) 0 [] .start := by
    have first : (tokens ++ [Token.atEnd size]).length - 1 - tokens.length = 0 := by simp
    rw [showing, Reading.start, first]
    rfl
  rw [atStart]
  cases tokens with
  | nil => exact ⟨_, .next within rfl, rfl⟩
  | cons token rest =>
    obtain ⟨last, runs, ends⟩ := expression_ends within
    refine ⟨last, Relation.ReflTransGen.trans (Runs.next within ?_) runs, ?_⟩
    · exact congrArg some (if_neg (visible token List.mem_cons_self))
    · rw [ends, ofTokens_eq (List.cons_ne_nil _ _)]

/-- The reading that the process shows. -/
def reading (visible : List Token) (size : Nat) (p : Process) : Reading :=
  ⟨visible.drop p.position, size, p.operands, p.halted, p.errors⟩

section Shown

variable {visible : List Token} {size : Nat} {p : Process}

theorem within_reading (noEnd : ∀ token ∈ visible, token.kind ≠ .eof) :
    (p.reading visible size).Within (visible ++ [.atEnd size]) where
  last := by
    obtain ⟨before, same⟩ := List.drop_suffix p.position visible
    exact ⟨before, by rw [Reading.ahead, reading, ← List.append_assoc, same]⟩
  visible token mem := noEnd token ((List.drop_suffix _ _).subset mem)

theorem showing_reading (inside : p.position < (visible ++ [Token.atEnd size]).length) :
    showing (visible ++ [.atEnd size]) (p.reading visible size) p.depth p.callers p.activity =
      p := by
  rw [List.length_append, List.length_singleton] at inside
  have place : (visible ++ [Token.atEnd size]).length - 1 - (visible.drop p.position).length =
      p.position := by
    rw [List.length_append, List.length_singleton, List.length_drop]
    omega
  rw [showing, reading, place]

theorem reading_showing (within : r.Within (visible ++ [.atEnd size])) :
    (showing (visible ++ [.atEnd size]) r depth callers activity).reading visible size = r := by
  obtain ⟨before, same⟩ := within.last
  rw [Reading.ahead, ← List.append_assoc] at same
  obtain ⟨rfl, last⟩ := List.append_inj' same rfl
  have ofSize : r.size = size :=
    congrArg (fun token : Token => token.span.start) (List.singleton_inj.1 last)
  have place : (before ++ r.rest ++ [Token.atEnd size]).length - 1 - r.rest.length =
      before.length := by
    simp only [List.length_append, List.length_singleton]
    omega
  rw [showing, place, reading, List.drop_left, ← ofSize]

end Shown

end Process

end SmartCollections.Predicate
