import Mathlib.Algebra.GroupWithZero.Nat
import SmartCollections.Proofs.Returns

/-!
# How deep and how long the parser runs

Each step reads a token or leaves less to be done, so the run ends after a number of steps that is
linear in the number of tokens, whatever the tokens are. No routine comes back to where it has been
without a token in between. The callers that wait tell how many parentheses are open, and there is a
bound to them as there is one to the parentheses.
-/

namespace SmartCollections.Predicate

/-- The list ends in its only end. -/
def EndsOnce (tokens : List Token) : Prop :=
  ∃ visible ending, tokens = visible ++ [ending] ∧ ending.kind = .eof ∧
    ∀ token ∈ visible, token.kind ≠ .eof

/-- The callers that can wait for a routine while so many parentheses are open. A factor is
`excused` if a factor has called it after lexical faults, and does not call itself once more. -/
inductive Waiting : Routine → (excused : Bool) → (depth : Nat) → List Caller → Prop where
  | nobody : Waiting (.series .terms) false 0 []
  | first {series : Series} {depth : Nat} {callers : List Caller}
      (waiting : Waiting (.series series) false depth callers) :
      Waiting series.operand false depth (.first series :: callers)
  | next {series : Series} {depth : Nat} {callers : List Caller} (left : Option Predicate)
      (waiting : Waiting (.series series) false depth callers) :
      Waiting series.operand false depth (.next series left :: callers)
  | group {excused : Bool} {depth : Nat} {callers : List Caller} (opening : Span)
      (waiting : Waiting .factor excused depth callers) :
      Waiting (.series .terms) false (depth + 1) (.group opening :: callers)
  | again {depth : Nat} {callers : List Caller} (waiting : Waiting .factor false depth callers) :
      Waiting .factor true depth (.again :: callers)

/-- The number of routines between a routine and the parenthesis around it. -/
def Routine.height : Routine → Nat
  | .series .terms => 0
  | .series .factors => 1
  | .factor => 2

theorem Series.height_operand (series : Series) :
    series.operand.height = (Routine.series series).height + 1 := by
  cases series <;> rfl

theorem Routine.height_le (routine : Routine) : routine.height ≤ 2 := by
  rcases routine with (_ | _) | _ <;> decide

namespace Waiting

variable {routine : Routine} {excused : Bool} {depth : Nat} {callers : List Caller}

theorem count_groups (waiting : Waiting routine excused depth callers) :
    callers.countP Caller.isGroup = depth := by
  induction waiting with
  | nobody => rfl
  | first _ ih | next _ _ ih | again _ ih | group _ _ ih =>
    simpa [Caller.isGroup, List.countP_cons] using ih

theorem length_le (waiting : Waiting routine excused depth callers) :
    callers.length ≤ 4 * depth + routine.height + excused.toNat := by
  induction waiting with
  | nobody => exact Nat.le_refl _
  | @first series _ _ _ ih | @next series _ _ _ _ ih =>
    rw [List.length_cons, series.height_operand]
    simp only [Bool.toNat_false] at ih ⊢
    omega
  | @group excused _ _ _ _ ih =>
    have one : excused.toNat ≤ 1 := excused.toNat_le
    simp only [List.length_cons, Routine.height, Bool.toNat_false] at ih ⊢
    omega
  | again _ ih =>
    simp only [List.length_cons, Bool.toNat_false, Bool.toNat_true] at ih ⊢
    omega

theorem not_excused {series : Series} (waiting : Waiting (.series series) excused depth callers) :
    excused = false := by
  generalize called : Routine.series series = routine at waiting
  cases waiting with
  | again => cases called
  | _ => rfl

theorem of_nil (waiting : Waiting routine excused depth []) : depth = 0 := by
  cases waiting
  rfl

theorem of_first {series : Series}
    (waiting : Waiting routine excused depth (.first series :: callers)) :
    Waiting (.series series) false depth callers := by
  cases waiting with
  | first waiting => exact waiting

theorem of_next {series : Series} {left : Option Predicate}
    (waiting : Waiting routine excused depth (.next series left :: callers)) :
    Waiting (.series series) false depth callers := by
  cases waiting with
  | next _ waiting => exact waiting

theorem of_group {opening : Span}
    (waiting : Waiting routine excused depth (.group opening :: callers)) :
    ∃ excused, Waiting .factor excused (depth - 1) callers := by
  cases waiting with
  | group _ waiting => exact ⟨_, waiting⟩

theorem of_again (waiting : Waiting routine excused depth (.again :: callers)) :
    Waiting .factor false depth callers := by
  cases waiting with
  | again waiting => exact waiting

end Waiting

/-- The steps that a call takes, apart from those that the tokens read for it make up for. -/
@[simp] def Routine.effort : Routine → Nat
  | .factor => 3
  | .series .factors => 6
  | .series .terms => 9

@[simp] def Caller.effort : Caller → Nat
  | .first _ | .next _ _ => 2
  | .group _ | .again => 1

@[simp] def Activity.effort : Activity → Nat
  | .start => 10
  | .call routine => routine.effort
  | .faults => 5
  | .loop _ _ | .text _ | .unknown => 3
  | .answer _ => 2
  | .trailing _ _ => 1
  | .done _ => 0

theorem Activity.effort_call (routine : Routine) : (call routine).effort = routine.effort := rfl

theorem Series.effort_operand_le (series : Series) : series.operand.effort ≤ 6 := by
  cases series <;> decide

theorem Series.effort_operand_lt (series : Series) :
    series.operand.effort + 2 < (Routine.series series).effort := by
  cases series <;> decide

namespace Process

variable (tokens : List Token)

/-- What is being done and what waits to be done, apart from the tokens to come. -/
def burden (p : Process) : Nat := (p.callers.map Caller.effort).sum + p.activity.effort

/-- As many steps as are left, or more. -/
def effort (p : Process) : Nat := 8 * (tokens.length - 1 - p.position) + p.burden

/-- The callers are those that can wait for what is being done. -/
def Attended (p : Process) : Activity → Prop
  | .start | .trailing _ _ => p.callers = [] ∧ p.depth = 0
  | .call routine => ∃ excused, Waiting routine excused p.depth p.callers ∧
      (excused = true → ∀ token ∈ p.peek tokens, startsOperand token.kind = true)
  | .loop series _ => Waiting (.series series) false p.depth p.callers
  | .text _ | .unknown => ∃ excused, Waiting .factor excused p.depth p.callers
  | .faults => Waiting .factor false p.depth p.callers
  | .answer _ => ∃ routine excused, Waiting routine excused p.depth p.callers
  | .done _ => (p.callers = [] ∧ p.depth = 0) ∧ p.position + 1 = tokens.length

structure Orderly (p : Process) : Prop where
  inside : p.position < tokens.length
  few : p.operands ≤ maxOperands
  room : p.depth ≤ maxDepth
  attended : p.Attended tokens p.activity

/-- The step keeps the order, goes back to no token and leaves less to be done. -/
structure Advances (p q : Process) : Prop where
  orderly : q.Orderly tokens
  onward : p.position ≤ q.position
  easier : q.effort tokens < p.effort tokens

variable {tokens} {p q : Process} {token : Token}

theorem Orderly.attended_at {activity : Activity} (orderly : p.Orderly tokens)
    (here : p.activity = activity) : p.Attended tokens activity := here ▸ orderly.attended

/-- A routine may be called if it need not be excused. -/
theorem attended_call {routine : Routine} (waiting : Waiting routine false p.depth p.callers) :
    p.Attended tokens (.call routine) := ⟨false, waiting, nofun⟩

theorem burden_eq {activity : Activity} (here : p.activity = activity) :
    p.burden = (p.callers.map Caller.effort).sum + activity.effort := by
  rw [burden, here]

/-- The end is looked at from the last position alone. -/
theorem last_iff (once : EndsOnce tokens) (inside : p.position < tokens.length)
    (looked : p.peek tokens = some token) :
    token.kind = .eof ↔ p.position + 1 = tokens.length := by
  obtain ⟨visible, ending, rfl, isEnd, others⟩ := once
  rw [List.length_append, List.length_singleton] at inside ⊢
  have place : min p.position ((visible ++ [ending]).length - 1) = p.position := by
    rw [List.length_append, List.length_singleton]
    omega
  rw [peek, place] at looked
  by_cases last : p.position < visible.length
  · rw [List.getElem?_append_left last] at looked
    refine iff_of_false (others token (List.mem_of_getElem? looked)) (by omega)
  · have here : p.position = visible.length := by omega
    rw [here, List.getElem?_append_right (Nat.le_refl _), Nat.sub_self] at looked
    cases looked
    exact iff_of_true isEnd (by omega)

namespace Advances

/-- No token is read. -/
theorem stay (orderly : p.Orderly tokens) (position : q.position = p.position)
    (few : q.operands ≤ maxOperands) (room : q.depth ≤ maxDepth)
    (attended : q.Attended tokens q.activity) (lighter : q.burden < p.burden) :
    Advances tokens p q where
  orderly := ⟨position ▸ orderly.inside, few, room, attended⟩
  onward := Nat.le_of_eq position.symm
  easier := by
    rw [effort, effort, position]
    omega

/-- A token is read, which makes up for what is to be done because of it. -/
theorem past (once : EndsOnce tokens) (orderly : p.Orderly tokens)
    (looked : p.peek tokens = some token) (visible : token.kind ≠ .eof)
    (position : q.position = (p.bump token).position) (few : q.operands ≤ maxOperands)
    (room : q.depth ≤ maxDepth) (attended : q.Attended tokens q.activity)
    (light : q.burden < p.burden + 8) : Advances tokens p q := by
  have inside := orderly.inside
  have notLast := mt (last_iff once inside looked).2 visible
  have next : q.position = p.position + 1 := position.trans (if_neg visible)
  refine ⟨⟨by omega, few, room, attended⟩, by omega, ?_⟩
  rw [effort, effort, next]
  omega

/-- A limit is hit. -/
theorem toEnd (orderly : p.Orderly tokens) (position : q.position = tokens.length - 1)
    (few : q.operands ≤ maxOperands) (room : q.depth ≤ maxDepth)
    (attended : q.Attended tokens q.activity) (lighter : q.burden < p.burden) :
    Advances tokens p q := by
  have inside := orderly.inside
  refine ⟨⟨by omega, few, room, attended⟩, by omega, ?_⟩
  rw [effort, effort, position]
  omega

end Advances

section Step

variable (once : EndsOnce tokens) (orderly : p.Orderly tokens)
  (looked : p.peek tokens = some token)

include orderly

theorem series_advances {series : Series} (here : p.activity = .call (.series series)) :
    Advances tokens p (p.call series.operand (.first series)) := by
  obtain ⟨excused, waiting, _⟩ := orderly.attended_at here
  obtain rfl := waiting.not_excused
  refine .stay orderly rfl orderly.few orderly.room (attended_call (.first waiting)) ?_
  have lighter := series.effort_operand_lt
  rw [burden_eq here, burden]
  simp only [call, List.map_cons, List.sum_cons, Caller.effort, Activity.effort]
  omega

include once looked

theorem begin_advances (here : p.activity = .start) : Advances tokens p (p.begin token) := by
  obtain ⟨nobody, nothing⟩ := orderly.attended_at here
  unfold begin
  split
  · next isEnd =>
    have last := (last_iff once orderly.inside looked).1 isEnd
    refine .stay orderly rfl orderly.few orderly.room ⟨⟨nobody, nothing⟩, last⟩ ?_
    simp [burden, turn, here]
  · refine .stay orderly rfl orderly.few orderly.room (attended_call ?_) ?_
    · rw [turn, nobody, nothing]
      exact .nobody
    · simp [burden, turn, here]

theorem factor_advances (here : p.activity = .call .factor) :
    Advances tokens p (p.factor tokens token) := by
  obtain ⟨excused, waiting, ready⟩ := orderly.attended_at here
  have few := orderly.few
  have room := orderly.room
  unfold factor
  split
  · next field heq =>
    split
    · refine .toEnd orderly rfl few room ⟨_, _, waiting⟩ ?_
      simp [burden, turn, halt, report, here]
    · next fewer =>
      refine .past once orderly looked (by simp [heq]) rfl (Nat.lt_of_le_of_ne few fewer) room
        ⟨_, waiting⟩ ?_
      simp [burden, bump, here]
  · next heq =>
    split
    · refine .toEnd orderly rfl few room ⟨_, _, waiting⟩ ?_
      simp [burden, turn, halt, report, here]
    · next more =>
      refine .past once orderly looked (by simp [heq]) rfl few (Nat.lt_of_le_of_ne room more)
        (attended_call (.group _ waiting)) ?_
      simp only [burden, call, bump, here, List.map_cons, List.sum_cons, Caller.effort,
        Activity.effort, Routine.effort]
      omega
  · next word heq =>
    refine .past once orderly looked (by simp [heq]) rfl few room ⟨_, waiting⟩ ?_
    simp [burden, turn, report, bump, here]
  · next text heq =>
    refine .past once orderly looked (by simp [heq]) rfl few room ⟨_, _, waiting⟩ ?_
    simp [burden, turn, report, bump, here]
  · next fault heq =>
    -- A factor that was called again stands at the start of an operand, which no fault is.
    obtain rfl : excused = false := by
      cases excused with
      | false => rfl
      | true =>
        have starts := ready rfl token looked
        rw [heq] at starts
        cases starts
    refine .past once orderly looked (by simp [heq]) rfl few room waiting ?_
    simp [burden, turn, report, bump, here]
  · refine .stay orderly rfl few room ⟨_, _, waiting⟩ ?_
    simp [burden, turn, report, here]

theorem text_advances {field : Field} (here : p.activity = .text field) :
    Advances tokens p (p.text field token) := by
  obtain ⟨excused, waiting⟩ := orderly.attended_at here
  unfold text
  split
  · next text heq =>
    refine .past once orderly looked (by simp [heq]) rfl orderly.few orderly.room
      ⟨_, _, waiting⟩ ?_
    simp [burden, turn, bump, here]
  · next fault heq =>
    refine .past once orderly looked (by simp [heq]) rfl orderly.few orderly.room
      ⟨_, _, waiting⟩ ?_
    simp [burden, turn, report, bump, here]
  · refine .stay orderly rfl orderly.few orderly.room ⟨_, _, waiting⟩ ?_
    simp [burden, turn, report, here]

theorem unknown_advances (here : p.activity = .unknown) :
    Advances tokens p (p.unknown token) := by
  obtain ⟨excused, waiting⟩ := orderly.attended_at here
  unfold unknown
  split
  · next text heq =>
    refine .past once orderly looked (by simp [heq]) rfl orderly.few orderly.room
      ⟨_, _, waiting⟩ ?_
    simp [burden, turn, bump, here]
  · refine .stay orderly rfl orderly.few orderly.room ⟨_, _, waiting⟩ ?_
    simp [burden, turn, here]

/-- A lexical fault is read and the activity stays as it is. -/
theorem fault_advances {fault : LexicalFault} (isFault : token.kind = .invalid fault)
    (attended : ((p.bump token).report (.lexical fault) token.span).Attended tokens p.activity) :
    Advances tokens p ((p.bump token).report (.lexical fault) token.span) := by
  refine .past once orderly looked (by simp [isFault]) rfl orderly.few orderly.room attended ?_
  simp [burden, report, bump]

theorem faults_advances (here : p.activity = .faults) : Advances tokens p (p.faults token) := by
  have waiting : Waiting .factor false p.depth p.callers := orderly.attended_at here
  unfold faults
  split
  · next fault heq =>
    refine fault_advances once orderly looked heq ?_
    rw [here]
    exact waiting
  · split
    · next starts =>
      refine .stay orderly rfl orderly.few orderly.room ⟨true, .again waiting, ?_⟩ ?_
      · intro _ other mem
        cases looked.symm.trans mem
        exact starts
      · simp [burden, call, here]
        omega
    · refine .stay orderly rfl orderly.few orderly.room ⟨_, _, waiting⟩ ?_
      simp [burden, turn, here]

theorem loop_advances {series : Series} {left : Option Predicate}
    (here : p.activity = .loop series left) : Advances tokens p (p.loop series left token) := by
  have waiting : Waiting (.series series) false p.depth p.callers := orderly.attended_at here
  unfold loop
  split
  · next fault heq =>
    refine fault_advances once orderly looked heq ?_
    rw [here]
    exact waiting
  · split
    · next atSign =>
      have visible : token.kind ≠ .eof := by rw [atSign]; cases series <;> nofun
      refine .past once orderly looked visible rfl orderly.few orderly.room
        (attended_call (.next left waiting)) ?_
      have light := series.effort_operand_le
      simp only [burden, call, bump, here, List.map_cons, List.sum_cons, Caller.effort,
        Activity.effort]
      omega
    · refine .stay orderly rfl orderly.few orderly.room ⟨_, _, waiting⟩ ?_
      simp [burden, turn, here]

theorem answer_advances {value : Option Predicate} (here : p.activity = .answer value) :
    Advances tokens p (p.answer value token) := by
  obtain ⟨routine, excused, waiting⟩ := orderly.attended_at here
  unfold answer
  split
  · next nobody =>
    rw [nobody] at waiting
    refine .stay orderly rfl orderly.few orderly.room ⟨nobody, waiting.of_nil⟩ ?_
    simp [burden, turn, here]
  · next series callers waits =>
    rw [waits] at waiting
    refine .stay orderly rfl orderly.few orderly.room waiting.of_first ?_
    simp [burden, resume, here, waits]
    omega
  · next series left callers waits =>
    rw [waits] at waiting
    refine .stay orderly rfl orderly.few orderly.room waiting.of_next ?_
    simp [burden, resume, here, waits]
    omega
  · next opening callers waits =>
    rw [waits] at waiting
    obtain ⟨excused, waiting⟩ := waiting.of_group
    have room : p.depth - 1 ≤ maxDepth := Nat.le_trans (Nat.sub_le _ _) orderly.room
    unfold close
    split
    · next closes =>
      refine .past once orderly looked (by simp [closes]) rfl orderly.few room
        ⟨_, _, waiting⟩ ?_
      simp [burden, resume, bump, here, waits]
      omega
    · split
      · refine .stay orderly rfl orderly.few room ⟨_, _, waiting⟩ ?_
        simp [burden, resume, here, waits]
      · refine .stay orderly rfl orderly.few room ⟨_, _, waiting⟩ ?_
        simp [burden, resume, report, here, waits]
  · next callers waits =>
    rw [waits] at waiting
    refine .stay orderly rfl orderly.few orderly.room ⟨_, _, waiting.of_again⟩ ?_
    simp [burden, resume, here, waits]

theorem trailing_advances {tree : Option Predicate} {reported : Bool}
    (here : p.activity = .trailing tree reported) :
    Advances tokens p (p.trailing tree reported token) := by
  have nobody : p.callers = [] ∧ p.depth = 0 := orderly.attended_at here
  unfold trailing
  split
  · next isEnd =>
    have last := (last_iff once orderly.inside looked).1 isEnd
    refine .stay orderly rfl orderly.few orderly.room ⟨nobody, last⟩ ?_
    simp [burden, turn, here]
  · next fault heq =>
    refine fault_advances once orderly looked heq ?_
    rw [here]
    exact nobody
  · next visible _ =>
    cases reported with
    | true =>
      refine .past once orderly looked visible rfl orderly.few orderly.room nobody ?_
      simp [burden, turn, bump, here]
    | false =>
      refine .past once orderly looked visible rfl orderly.few orderly.room nobody ?_
      simp [burden, turn, report, bump, here]

end Step

theorem step_advances (once : EndsOnce tokens) (orderly : p.Orderly tokens)
    (steps : step tokens p = some q) : Advances tokens p q := by
  obtain ⟨token, looked, acts⟩ := Option.bind_eq_some_iff.1 steps
  unfold act at acts
  split at acts <;> cases acts
  · next here => exact begin_advances once orderly looked here
  · next here => exact series_advances orderly here
  · next here => exact factor_advances once orderly looked here
  · next here => exact loop_advances once orderly looked here
  · next here => exact text_advances once orderly looked here
  · next here => exact unknown_advances once orderly looked here
  · next here => exact faults_advances once orderly looked here
  · next here => exact answer_advances once orderly looked here
  · next here => exact trailing_advances once orderly looked here

/-- Only what is done has no next step. -/
theorem Orderly.progress (orderly : p.Orderly tokens) :
    (∃ q, step tokens p = some q) ∨ ∃ result, p.activity = .done result := by
  have inside := orderly.inside
  have place : min p.position (tokens.length - 1) = p.position := by omega
  have looked : p.peek tokens = some tokens[p.position] := by
    rw [peek, place, List.getElem?_eq_getElem inside]
  have acts : step tokens p = act tokens p tokens[p.position] := by
    rw [step, looked]
    rfl
  rw [acts]
  unfold act
  split
  case h_10 result here => exact .inr ⟨result, here⟩
  all_goals exact .inl ⟨_, rfl⟩

theorem start_orderly (once : EndsOnce tokens) : start.Orderly tokens := by
  obtain ⟨visible, ending, rfl, _⟩ := once
  refine ⟨?_, Nat.zero_le _, Nat.zero_le _, rfl, rfl⟩
  rw [List.length_append]
  exact Nat.lt_of_lt_of_le Nat.zero_lt_one (Nat.le_add_left _ _)

theorem Runs.advances (once : EndsOnce tokens) (orderly : p.Orderly tokens)
    (runs : Runs tokens p q) : q.Orderly tokens ∧ p.position ≤ q.position := by
  induction runs with
  | refl => exact ⟨orderly, Nat.le_refl _⟩
  | tail _ steps ih =>
    have advances := step_advances once ih.1 steps
    exact ⟨advances.orderly, Nat.le_trans ih.2 advances.onward⟩

/-- At least one step. -/
abbrev Steps (tokens : List Token) : Process → Process → Prop :=
  Relation.TransGen fun p q => step tokens p = some q

theorem Steps.easier (once : EndsOnce tokens) (orderly : p.Orderly tokens)
    (steps : Steps tokens p q) : q.effort tokens < p.effort tokens := by
  induction steps with
  | single step => exact (step_advances once orderly step).easier
  | tail before step ih =>
    have between := (Runs.advances once orderly before.to_reflTransGen).1
    exact Nat.lt_trans (step_advances once between step).easier ih

/-- Where no less is to be done than before, a token has been read. -/
theorem Steps.reads (once : EndsOnce tokens) (orderly : p.Orderly tokens)
    (steps : Steps tokens p q) (heavier : p.burden ≤ q.burden) : p.position < q.position := by
  have easier := steps.easier once orderly
  rw [effort, effort] at easier
  omega

/-- The run ends, after no more steps than are expected to be left. -/
theorem run_finishes (once : EndsOnce tokens) {n : Nat} (reached : after tokens n = some p)
    (orderly : p.Orderly tokens) :
    ∃ m last result, m ≤ n + p.effort tokens ∧ after tokens m = some last ∧
      Runs tokens p last ∧ last.activity = .done result := by
  induction less : p.effort tokens using Nat.strongRecOn generalizing p n with
  | ind effort ih =>
    rcases orderly.progress with ⟨q, steps⟩ | ⟨result, ended⟩
    · have advances := step_advances once orderly steps
      have next : after tokens (n + 1) = some q := by
        rw [after, reached]
        exact steps
      obtain ⟨m, last, result, few, reachedThen, runs, ended⟩ :=
        ih _ (less ▸ advances.easier) next advances.orderly rfl
      have easier := advances.easier
      exact ⟨m, last, result, by omega, reachedThen, .head steps runs, ended⟩
    · exact ⟨n, p, result, Nat.le_add_right _ _, reached, .refl, ended⟩

/-- A process that is done is the end of all runs. -/
theorem end_unique {last : Process} {result other : Except (List ParseError) Predicate}
    (runs : Runs tokens p q) (ended : q.activity = .done result) (runsToo : Runs tokens p last)
    (endedToo : last.activity = .done other) : q = last := by
  have final {p q : Process} {result : Except (List ParseError) Predicate}
      (ended : p.activity = .done result) (runs : Runs tokens p q) : p = q := by
    rcases runs.cases_head with same | ⟨next, steps, _⟩
    · exact same
    · obtain ⟨token, _, acts⟩ := Option.bind_eq_some_iff.1 steps
      rw [act, ended] at acts
      cases acts
  have function : Relator.RightUnique fun p q => step tokens p = some q := fun p q r first second =>
    Option.some.inj (first.symm.trans second)
  rcases Relation.ReflTransGen.total_of_right_unique function runs runsToo with onward | back
  · exact final ended onward
  · exact (final endedToo back).symm

/-- A caller stops waiting only when it is returned to. -/
inductive Passes (p q : Process) : Prop where
  | goesOn (waits : p.callers <:+ q.callers) (busy : q.activity.isBusy = true) : Passes p q
  | returns {value : Option Predicate} {caller : Caller} (answers : p.activity = .answer value)
      (back : p.callers = caller :: q.callers) (busy : q.activity.isBusy = true) : Passes p q
  | ends {value : Option Predicate} (answers : p.activity = .answer value)
      (nobody : p.callers = []) : Passes p q

theorem step_passes (steps : step tokens p = some q) (busy : p.activity.isBusy = true) :
    Passes p q := by
  have same {q : Process} (callers : q.callers = p.callers) (busy : q.activity.isBusy = true) :
      Passes p q := .goesOn (callers ▸ List.suffix_refl _) busy
  have more {q : Process} {caller : Caller} (callers : q.callers = caller :: p.callers)
      (busy : q.activity.isBusy = true) : Passes p q :=
    .goesOn (callers ▸ List.suffix_cons _ _) busy
  obtain ⟨token, looked, acts⟩ := Option.bind_eq_some_iff.1 steps
  unfold act at acts
  split at acts <;> cases acts
  · next here => rw [here] at busy; cases busy
  · exact more rfl rfl
  · unfold factor
    repeat' split
    all_goals first | exact same rfl rfl | exact more rfl rfl
  · unfold loop
    repeat' split
    all_goals first | exact same rfl busy | exact same rfl rfl | exact more rfl rfl
  · unfold text
    split <;> exact same rfl rfl
  · unfold unknown
    split <;> exact same rfl rfl
  · unfold faults
    repeat' split
    all_goals first | exact same rfl busy | exact same rfl rfl | exact more rfl rfl
  · next value here =>
    unfold answer
    split
    · next nobody => exact .ends here nobody
    · next waits => exact .returns here waits rfl
    · next waits => exact .returns here waits rfl
    · next waits => exact .returns here waits rfl
    · next waits => exact .returns here waits rfl
  · next here => rw [here] at busy; cases busy

/-- Some steps during which the callers wait. -/
abbrev RunsWhile (tokens : List Token) (callers : List Caller) : Process → Process → Prop :=
  Relation.ReflTransGen fun p q => step tokens p = some q ∧ callers <:+ q.callers

/-- The callers are returned to. The induction is on what is left to be done. -/
theorem returned (once : EndsOnce tokens) {callers : List Caller} (orderly : p.Orderly tokens)
    (busy : p.activity.isBusy = true) (waits : callers <:+ p.callers) :
    ∃ q value, RunsWhile tokens callers p q ∧ q.Orderly tokens ∧ q.activity = .answer value ∧
      q.callers = callers := by
  induction less : p.effort tokens using Nat.strongRecOn generalizing p with
  | ind effort ih =>
    by_cases arrived : (∃ value, p.activity = .answer value) ∧ p.callers = callers
    · obtain ⟨⟨value, answers⟩, same⟩ := arrived
      exact ⟨p, value, .refl, orderly, answers, same⟩
    · have goesOn {q : Process} (steps : step tokens p = some q) (waits : callers <:+ q.callers)
          (busy : q.activity.isBusy = true) : ∃ q value, RunsWhile tokens callers p q ∧
            q.Orderly tokens ∧ q.activity = .answer value ∧ q.callers = callers := by
        have advances := step_advances once orderly steps
        obtain ⟨last, value, runs, found⟩ :=
          ih _ (less ▸ advances.easier) advances.orderly busy waits rfl
        exact ⟨last, value, .head ⟨steps, waits⟩ runs, found⟩
      rcases orderly.progress with ⟨q, steps⟩ | ⟨result, ended⟩
      · -- Only a return shortens the list of callers, and it takes off one of them.
        cases step_passes steps busy with
        | goesOn more busy => exact goesOn steps (waits.trans more) busy
        | returns answers back busy =>
          rw [back, List.suffix_cons_iff, ← back] at waits
          rcases waits with same | waits
          · exact absurd ⟨⟨_, answers⟩, same.symm⟩ arrived
          · exact goesOn steps waits busy
        | ends answers nobody =>
          rw [nobody, List.suffix_nil, ← nobody] at waits
          exact absurd ⟨⟨_, answers⟩, waits.symm⟩ arrived
      · rw [ended] at busy
        cases busy

theorem Orderly.waiting (orderly : p.Orderly tokens) :
    ∃ routine excused, Waiting routine excused p.depth p.callers := by
  have nobody (none : p.callers = [] ∧ p.depth = 0) :
      ∃ routine excused, Waiting routine excused p.depth p.callers := by
    rw [none.1, none.2]
    exact ⟨_, _, .nobody⟩
  cases here : p.activity with
  | start => exact nobody (orderly.attended_at here)
  | call routine =>
    obtain ⟨excused, waiting, _⟩ := orderly.attended_at here
    exact ⟨routine, excused, waiting⟩
  | loop series left => exact ⟨_, _, orderly.attended_at here⟩
  | text field => exact ⟨_, orderly.attended_at here⟩
  | unknown => exact ⟨_, orderly.attended_at here⟩
  | faults => exact ⟨_, _, orderly.attended_at here⟩
  | answer value => exact orderly.attended_at here
  | trailing tree reported => exact nobody (orderly.attended_at here)
  | done result => exact nobody (orderly.attended_at here).1

theorem Orderly.depth_eq (orderly : p.Orderly tokens) :
    p.depth = p.callers.countP Caller.isGroup := by
  obtain ⟨_, _, waiting⟩ := orderly.waiting
  exact waiting.count_groups.symm

theorem Orderly.length_callers_le (orderly : p.Orderly tokens) :
    p.callers.length ≤ 4 * maxDepth + 3 := by
  obtain ⟨routine, excused, waiting⟩ := orderly.waiting
  have length := waiting.length_le
  have height := routine.height_le
  have one := excused.toNat_le
  have room := orderly.room
  omega

theorem burden_loop {loop : Loop} (callers : q.callers = p.callers)
    (here : p.activity.loop? = some loop) (there : q.activity.loop? = some loop) :
    p.burden = q.burden := by
  have same : p.activity.effort = q.activity.effort := by
    rw [← there] at here
    revert here there
    cases p.activity <;> cases q.activity <;> simp [Activity.loop?]
  rw [burden, burden, callers, same]

theorem burden_call {caller : Caller} {routine : Routine}
    (callers : q.callers = caller :: p.callers)
    (here : p.activity = .call .factor) (there : q.activity = .call routine) :
    p.burden ≤ q.burden := by
  have heavier : Routine.factor.effort ≤ routine.effort := by
    rcases routine with (_ | _) | _ <;> decide
  rw [burden_eq here, burden_eq there, callers]
  simp only [List.map_cons, List.sum_cons, Activity.effort_call]
  omega

/-- The functions of the parser are what its routines come to in the run. -/
theorem call_reads {visible : List Token} {size : Nat}
    (once : EndsOnce (visible ++ [.atEnd size])) (orderly : p.Orderly (visible ++ [.atEnd size]))
    {routine : Routine} (here : p.activity = .call routine) :
    let read := routine.read (maxDepth - p.depth) (p.reading visible size)
    ∃ q, Runs (visible ++ [.atEnd size]) p q ∧ q.activity = .answer read.1 ∧
      q.callers = p.callers ∧ q.reading visible size = read.2 := by
  intro read
  obtain ⟨others, _, same, _, noEnd⟩ := once
  obtain ⟨rfl, _⟩ := List.append_inj' same rfl
  have within : (p.reading visible size).Within (visible ++ [.atEnd size]) := within_reading noEnd
  have room := orderly.room
  have comes := returns (visible ++ [.atEnd size]) routine (maxDepth - p.depth)
    (p.reading visible size) p.depth p.callers within (by omega)
  have runs := comes.runs
  rw [← here, showing_reading orderly.inside] at runs
  exact ⟨_, runs, rfl, rfl, reading_showing (within.onward comes.onward)⟩

/-- The run of the parser over tokens that end in their only end is over soon, and stands at that
end then, whatever limit was hit. In all that it reaches on the way, there is a token to look at and
a step to take; as many parentheses are counted as callers wait for one to be closed, and neither
they nor the keywords nor all the callers are more than they may be. The run goes back to no token,
and reads one before a loop goes round again and before a factor calls anything. A routine that is
called returns, with the callers waiting meanwhile and the depth as it was, what its function comes
to. -/
theorem run_bounded {tokens : List Token} (once : EndsOnce tokens) :
    (∃ n last result, n ≤ 8 * tokens.length + 2 ∧ after tokens n = some last ∧
      Runs tokens start last ∧ last.activity = .done result ∧
      last.position + 1 = tokens.length ∧
      ∀ visible size, tokens = visible ++ [.atEnd size] → result = ofTokens visible size) ∧
    (∀ p, Runs tokens start p → p.position < tokens.length ∧
      ((∃ q, step tokens p = some q) ∨ ∃ result, p.activity = .done result) ∧
      p.depth = p.callers.countP Caller.isGroup ∧ p.depth ≤ maxDepth ∧
      p.operands ≤ maxOperands ∧ p.callers.length ≤ 4 * maxDepth + 3) ∧
    (∀ p q, Runs tokens start p → Runs tokens p q → p.position ≤ q.position) ∧
    (∀ p q loop, Runs tokens start p → Steps tokens p q → q.callers = p.callers →
      p.activity.loop? = some loop → q.activity.loop? = some loop → p.position < q.position) ∧
    (∀ p q caller routine, Runs tokens start p → Steps tokens p q → p.activity = .call .factor →
      q.activity = .call routine → q.callers = caller :: p.callers → p.position < q.position) ∧
    (∀ p routine, Runs tokens start p → p.activity = .call routine →
      ∃ q value, RunsWhile tokens p.callers p q ∧ q.activity = .answer value ∧
        q.callers = p.callers ∧ q.depth = p.depth) ∧
    ∀ visible size, tokens = visible ++ [.atEnd size] →
      ∀ p routine, Runs tokens start p → p.activity = .call routine →
        let read := routine.read (maxDepth - p.depth) (p.reading visible size)
        ∃ q, Runs tokens p q ∧ q.activity = .answer read.1 ∧ q.callers = p.callers ∧
          q.reading visible size = read.2 := by
  have orderly {p : Process} (runs : Runs tokens start p) : p.Orderly tokens :=
    (runs.advances once (start_orderly once)).1
  refine ⟨?_, fun p runs => ?_, fun p q before runs => ?_,
    fun p q loop before steps callers here there => ?_,
    fun p q caller routine before steps here there callers => ?_,
    fun p routine before here => ?_, ?_⟩
  · obtain ⟨n, last, result, few, reached, runs, ended⟩ :=
      run_finishes once (rfl : after tokens 0 = some start) (start_orderly once)
    refine ⟨n, last, result, ?_, reached, runs, ended, ((orderly runs).attended_at ended).2, ?_⟩
    · have some := (start_orderly once).inside
      have all : start.effort tokens = 8 * (tokens.length - 1) + 10 := rfl
      omega
    · rintro visible size rfl
      obtain ⟨others, _, same, _, noEnd⟩ := once
      obtain ⟨rfl, _⟩ := List.append_inj' same rfl
      obtain ⟨lastToo, runsToo, endedToo⟩ := run_ends visible size noEnd
      obtain rfl := end_unique runs ended runsToo endedToo
      exact Activity.done.inj (ended.symm.trans endedToo)
  · have inOrder := orderly runs
    exact ⟨inOrder.inside, inOrder.progress, inOrder.depth_eq, inOrder.room, inOrder.few,
      inOrder.length_callers_le⟩
  · exact (Runs.advances once (orderly before) runs).2
  · exact steps.reads once (orderly before) (Nat.le_of_eq (burden_loop callers here there))
  · exact steps.reads once (orderly before) (burden_call callers here there)
  · obtain ⟨q, value, runs, inOrder, answers, callers⟩ := returned once (orderly before)
      (by rw [here]; rfl) (List.suffix_refl p.callers)
    refine ⟨q, value, runs, answers, callers, ?_⟩
    rw [inOrder.depth_eq, callers, ← (orderly before).depth_eq]
  · rintro visible size rfl p routine before here
    exact call_reads once (orderly before) here

/-- Faults in place of operands, a word that is no keyword and a parenthesis that is left open. -/
theorem run_bounded_malformed :
    let text := "!! (STUDIO @ OR (BOGUS \"b\") ? AND ! TITLE"
    let tokens := sentence text ++ [.atEnd text.utf8ByteSize]
    EndsOnce tokens ∧ tokens.length = 15 ∧ ∃ n last, n ≤ 122 ∧ after tokens n = some last ∧
      last.position = 14 ∧ last.activity = .done (.error
        [⟨.lexical (.unexpectedChar '!'), ⟨0, 1⟩⟩, ⟨.lexical (.unexpectedChar '!'), ⟨1, 2⟩⟩,
          ⟨.lexical (.unexpectedChar '@'), ⟨11, 12⟩⟩, ⟨.unknownField "BOGUS", ⟨17, 22⟩⟩,
          ⟨.lexical (.unexpectedChar '?'), ⟨28, 29⟩⟩, ⟨.lexical (.unexpectedChar '!'), ⟨34, 35⟩⟩,
          ⟨.missingLiteral .title, ⟨41, 41⟩⟩, ⟨.unclosedParen, ⟨3, 4⟩⟩]) := by
  intro text tokens
  have once : EndsOnce tokens :=
    ⟨sentence text, .atEnd text.utf8ByteSize, rfl, rfl, by decide +kernel⟩
  have length : tokens.length = 15 := by decide +kernel
  obtain ⟨n, last, result, few, reached, _, ended, position, reads⟩ := (run_bounded once).1
  refine ⟨once, length, n, last, by omega, reached, by omega, ?_⟩
  rw [ended, reads _ _ rfl]
  exact congrArg _ (by decide +kernel)

end Process

end SmartCollections.Predicate
