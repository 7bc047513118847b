import SmartCollections.Proofs.Moves
import SmartCollections.Proofs.Placement

/-!
# What is told of a faulty text

Every move tells of at most one fault, at a token that it takes or at the next one, and of every
lexical fault that it takes. So the lexical faults are told one by one, in order, up to the token at
which a limit is hit, and apart from parentheses that are not closed, which are told late, all
faults are told in the order of the text.
-/

namespace SmartCollections

open Text

def ParseError.Kind.isLexical : ParseError.Kind → Bool
  | lexical _ => true
  | _ => false

/-- There is too much of something. -/
def ParseError.Kind.isLimit : ParseError.Kind → Bool
  | tooDeep | tooLong => true
  | _ => false

/-- The lexical fault that a token is. -/
def Token.fault? : Token → Option ParseError
  | ⟨.invalid fault, span⟩ => some ⟨.lexical fault, span⟩
  | _ => none

/-- The lexical faults among tokens. -/
def lexicalFaults (tokens : List Token) : List ParseError := tokens.filterMap Token.fault?

theorem Token.fault?_eq_none {kind : Token.Kind} (sound : Predicate.isFault kind = false)
    (span : Span) : Token.fault? ⟨kind, span⟩ = none := by
  cases kind <;> first | rfl | cases sound

namespace Predicate

/-- The move takes the tokens, and tells of a fault or of none. -/
structure Tells (s t : Standing) (taken : List Token) (told : Option ParseError) : Prop where
  size : t.reading.size = s.reading.size
  halted : t.reading.halted = s.reading.halted
  rest : s.reading.rest = taken ++ t.reading.rest
  errors : t.reading.errors = told.toList ++ s.reading.errors
  lexical : told.toList.filter (·.kind.isLexical) = lexicalFaults taken
  opened : ∀ span ∈ t.opened, span ∈ s.opened ∨ ⟨.openParen, span⟩ ∈ taken
  running : ∀ error ∈ told, s.reading.halted = false
  common : ∀ error ∈ told, error.kind.isLimit = false ∧ error.kind ≠ .empty
  place : ∀ error ∈ told, if error.kind = .unclosedParen then error.span ∈ s.opened
    else ∃ token ∈ taken ++ [t.reading.peek], error.span = token.span

/-- The move hits a limit at the token. -/
structure Halts (s t : Standing) (token : Token) (limit : ParseError.Kind) : Prop where
  at_ : ∃ rest, s.reading.At [token] rest
  isLimit : limit.isLimit = true
  reading : t.reading = s.reading.halt limit token.span
  opened : t.opened = s.opened

/-- Tokens are taken in silence. -/
theorem tells_nothing {place placeThen : Place} {opened openedThen : List Span} {r r' : Reading}
    {taken rest : List Token} (at_ : r.At taken rest) (after : r'.At [] rest)
    (size : r'.size = r.size) (errors : r'.errors = r.errors) (sound : lexicalFaults taken = [])
    (opens : ∀ span ∈ openedThen, span ∈ opened ∨ ⟨.openParen, span⟩ ∈ taken) :
    Tells ⟨place, opened, r⟩ ⟨placeThen, openedThen, r'⟩ taken none :=
  ⟨size, after.running.trans at_.running.symm, at_.takes after, errors, sound.symm, opens, nofun,
    nofun, nofun⟩

/-- No token is taken and nothing is told. -/
theorem tells_stay {place placeThen : Place} {opened openedThen : List Span} {r : Reading}
    (opens : openedThen ⊆ opened) :
    Tells ⟨place, opened, r⟩ ⟨placeThen, openedThen, r⟩ [] none :=
  ⟨rfl, rfl, rfl, rfl, rfl, fun _ mem => .inl (opens mem), nofun, nofun, nofun⟩

/-- Tokens are taken and a fault is told that is found at one of them or at the next one. -/
theorem tells_fault {place placeThen : Place} {opened : List Span} {r r' : Reading}
    {taken rest : List Token} {error : ParseError} (at_ : r.At taken rest) (after : r'.At [] rest)
    (size : r'.size = r.size) (errors : r'.errors = error :: r.errors)
    (lexical : [error].filter (·.kind.isLexical) = lexicalFaults taken)
    (common : error.kind.isLimit = false ∧ error.kind ≠ .empty ∧ error.kind ≠ .unclosedParen)
    (found : ∃ token ∈ taken ++ [r'.peek], error.span = token.span) :
    Tells ⟨place, opened, r⟩ ⟨placeThen, opened, r'⟩ taken (some error) where
  size := size
  halted := after.running.trans at_.running.symm
  rest := at_.takes after
  errors := errors
  lexical := lexical
  opened _ mem := .inl mem
  running _ _ := at_.running
  common _ mem := by cases mem; exact ⟨common.1, common.2.1⟩
  place _ mem := by cases mem; rw [if_neg common.2.2]; exact found

theorem Move.effect {s t : Standing} (move : Move s t) :
    (∃ taken told, Tells s t taken told) ∨ ∃ token limit, Halts s t token limit := by
  cases move with
  | fault at_ =>
    exact .inl ⟨_, _, tells_fault at_ (at_.bump.report _ _) rfl rfl rfl ⟨rfl, nofun, nofun⟩
      ⟨_, List.mem_cons_self, rfl⟩⟩
  | excused => exact .inl ⟨_, _, tells_stay (List.Subset.refl _)⟩
  | @expected opened r running sound absent =>
    have at_ : r.At [] r.rest := ⟨running, rfl⟩
    exact .inl ⟨_, _, tells_fault at_ (at_.report _ _) rfl rfl rfl ⟨rfl, nofun, nofun⟩
      ⟨_, List.mem_cons_self, rfl⟩⟩
  | contains at_ =>
    exact .inl ⟨_, _, tells_nothing at_ at_.pastField.bump rfl rfl rfl fun _ => .inl⟩
  | broken at_ =>
    exact .inl ⟨_, _, tells_fault at_ (at_.pastField.bump.report _ _) rfl rfl rfl
      ⟨rfl, nofun, nofun⟩ ⟨_, List.mem_cons_of_mem _ List.mem_cons_self, rfl⟩⟩
  | missing at_ =>
    exact .inl ⟨_, _, tells_fault at_ (at_.pastField.report _ _) rfl rfl rfl ⟨rfl, nofun, nofun⟩
      ⟨_, List.mem_cons_of_mem _ List.mem_cons_self, rfl⟩⟩
  | tooLong at_ | tooDeep at_ => exact .inr ⟨_, _, ⟨_, at_⟩, rfl, rfl, rfl⟩
  | opening at_ =>
    refine .inl ⟨_, _, tells_nothing at_ at_.bump rfl rfl rfl fun span mem => ?_⟩
    rcases List.mem_cons.1 mem with rfl | mem
    · exact .inr List.mem_cons_self
    · exact .inl mem
  | unknown at_ =>
    exact .inl ⟨_, _, tells_fault at_ (at_.bump.report _ _) rfl rfl rfl ⟨rfl, nofun, nofun⟩
      ⟨_, List.mem_cons_self, rfl⟩⟩
  | unknownWithText at_ =>
    exact .inl ⟨_, _, tells_fault at_ (at_.bump.report _ _).bump rfl rfl rfl ⟨rfl, nofun, nofun⟩
      ⟨_, List.mem_cons_self, rfl⟩⟩
  | stray at_ =>
    exact .inl ⟨_, _, tells_fault at_ (at_.bump.report _ _) rfl rfl rfl ⟨rfl, nofun, nofun⟩
      ⟨_, List.mem_cons_self, rfl⟩⟩
  | sign at_ isSign =>
    refine .inl ⟨_, _, tells_nothing at_ at_.bump rfl rfl ?_ fun _ => .inl⟩
    rcases isSign with rfl | rfl <;> rfl
  | closing at_ =>
    exact .inl ⟨_, _, tells_nothing at_ at_.bump rfl rfl rfl fun _ mem =>
      .inl (List.mem_cons_of_mem _ mem)⟩
  | @unclosed opening opened r running stuck =>
    refine .inl ⟨[], some ⟨.unclosedParen, opening⟩, rfl, rfl, rfl, rfl, rfl,
      fun _ mem => .inl (List.mem_cons_of_mem _ mem), fun _ _ => running, fun _ mem => ?_,
      fun _ mem => ?_⟩
    · cases mem
      exact ⟨rfl, nofun⟩
    · cases mem
      exact List.mem_cons_self
  | abandoned => exact .inl ⟨_, _, tells_stay (List.subset_cons_self _ _)⟩
  | complete => exact .inl ⟨_, _, tells_stay (List.Subset.refl _)⟩
  | trailing at_ sound =>
    refine .inl ⟨_, _, tells_fault at_ (at_.bump.report _ _) rfl rfl ?_ ⟨rfl, nofun, nofun⟩
      ⟨_, List.mem_cons_self, rfl⟩⟩
    simp [lexicalFaults, Token.fault?_eq_none sound, ParseError.Kind.isLexical]
  | passed at_ sound =>
    refine .inl ⟨_, _, tells_nothing at_ at_.bump rfl rfl ?_ fun _ => .inl⟩
    simp [lexicalFaults, Token.fault?_eq_none sound]

namespace Reading

/-- What is still to be read, with the end of the text. -/
def ahead (r : Reading) : List Token := r.rest ++ [Token.atEnd r.size]

theorem ahead_eq (r : Reading) : ∃ later, r.ahead = r.peek :: later := by
  obtain ⟨rest, size, operands, halted, errors⟩ := r
  cases rest with
  | nil => exact ⟨[], rfl⟩
  | cons token rest => exact ⟨rest ++ [Token.atEnd size], rfl⟩

theorem peek_mem_ahead (r : Reading) : r.peek ∈ r.ahead := by
  obtain ⟨later, here⟩ := r.ahead_eq
  rw [here]
  exact List.mem_cons_self

end Reading

section Order

variable {tokens taken : List Token} {size : Nat} {r : Reading} {token : Token}

theorem Placed.whole (placed : Placed tokens size) :
    (tokens ++ [Token.atEnd size]).Pairwise fun first second =>
      first.span.start < second.span.start := by
  refine List.pairwise_append.2 ⟨placed.ordered, List.pairwise_singleton _ _, ?_⟩
  intro token mem last isLast
  obtain rfl := List.mem_singleton.1 isLast
  exact placed.inside token mem

/-- The next token starts no later than what is still to be read. -/
theorem Placed.peek_le (placed : Placed tokens size)
    (split : tokens ++ [Token.atEnd size] = taken ++ r.ahead) (mem : token ∈ r.ahead) :
    r.peek.span.start ≤ token.span.start := by
  have ordered := placed.whole
  rw [split] at ordered
  have later := (List.pairwise_append.1 ordered).2.1
  obtain ⟨others, here⟩ := r.ahead_eq
  rw [here] at later mem
  rcases List.mem_cons.1 mem with rfl | mem
  · exact Nat.le_refl _
  · exact Nat.le_of_lt ((List.pairwise_cons.1 later).1 token mem)

/-- What is read starts before the next token. -/
theorem Placed.lt_peek (placed : Placed tokens size)
    (split : tokens ++ [Token.atEnd size] = taken ++ r.ahead) (mem : token ∈ taken) :
    token.span.start < r.peek.span.start := by
  have ordered := placed.whole
  rw [split] at ordered
  exact (List.pairwise_append.1 ordered).2.2 token mem r.peek r.peek_mem_ahead

end Order

/-- What is told when reading has looked at the `taken` tokens. -/
structure Told (tokens : List Token) (size : Nat) (taken : List Token) (s : Standing) : Prop where
  ofSize : s.reading.size = size
  opened : ∀ span ∈ s.opened, ⟨.openParen, span⟩ ∈ tokens
  lexical : s.reading.errors.reverse.filter (·.kind.isLexical) = lexicalFaults taken
  noEmpty : ∀ error ∈ s.reading.errors, error.kind ≠ .empty
  spans : ∀ error ∈ s.reading.errors,
    ∃ token ∈ tokens ++ [Token.atEnd size], error.span = token.span
  ordered : (s.reading.errors.filter (·.kind ≠ .unclosedParen)).Pairwise
    fun later earlier => earlier.span.start ≤ later.span.start

/-- No limit has been hit. -/
structure Going (tokens taken : List Token) (r : Reading) : Prop where
  running : r.halted = false
  split : tokens = taken ++ r.rest
  noLimit : ∀ error ∈ r.errors, error.kind.isLimit = false
  reached : ∀ error ∈ r.errors, error.kind ≠ .unclosedParen →
    error.span.start ≤ r.peek.span.start

/-- A limit was hit right after the `taken` tokens, and nothing has been told since. -/
structure Ended (tokens taken : List Token) (r : Reading) : Prop where
  halted : r.halted = true
  nothing : r.rest = []
  limit : ∃ token after limit earlier, tokens = taken ++ token :: after ∧
    r.errors = ⟨limit, token.span⟩ :: earlier ∧ limit.isLimit = true ∧
    ∀ error ∈ earlier, error.kind.isLimit = false

section Step

variable {tokens taken more : List Token} {size : Nat} {s t : Standing} {told : Option ParseError}

theorem Told.ended (known : Told tokens size taken s) (ended : Ended tokens taken s.reading)
    (tells : Tells s t more told) : Told tokens size taken t ∧ Ended tokens taken t.reading := by
  have silent : told = none := Option.eq_none_iff_forall_not_mem.2 fun error mem => by
    have running := tells.running error mem
    rw [ended.halted] at running
    cases running
  have nothing : more = [] ∧ t.reading.rest = [] := by
    have rest := tells.rest
    rw [ended.nothing] at rest
    exact List.append_eq_nil_iff.1 rest.symm
  have errors : t.reading.errors = s.reading.errors := by rw [tells.errors, silent]; rfl
  refine ⟨⟨tells.size.trans known.ofSize, fun span mem => ?_, ?_, ?_, ?_, ?_⟩, ?_⟩
  · rcases tells.opened span mem with mem | mem
    · exact known.opened span mem
    · rw [nothing.1] at mem
      cases mem
  · rw [errors]; exact known.lexical
  · rw [errors]; exact known.noEmpty
  · rw [errors]; exact known.spans
  · rw [errors]; exact known.ordered
  · refine ⟨tells.halted.trans ended.halted, nothing.2, ?_⟩
    rw [errors]
    exact ended.limit

/-- Where a fault is told that is not a parenthesis: between what was to be read next and what is to
be read next now. -/
theorem Tells.between (placed : Placed tokens size) (known : Told tokens size taken s)
    (going : Going tokens taken s.reading) (tells : Tells s t more told) :
    s.reading.peek.span.start ≤ t.reading.peek.span.start ∧
    ∀ token ∈ more ++ [t.reading.peek], token ∈ tokens ++ [Token.atEnd size] ∧
      s.reading.peek.span.start ≤ token.span.start ∧
      token.span.start ≤ t.reading.peek.span.start := by
  have ahead : s.reading.ahead = more ++ t.reading.ahead := by
    rw [Reading.ahead, tells.rest, Reading.ahead, tells.size, List.append_assoc]
  have before : tokens ++ [Token.atEnd size] = taken ++ s.reading.ahead := by
    rw [Reading.ahead, known.ofSize, going.split, List.append_assoc]
  have after : tokens ++ [Token.atEnd size] = (taken ++ more) ++ t.reading.ahead := by
    rw [before, ahead, List.append_assoc]
  have each : ∀ token ∈ more ++ [t.reading.peek], token ∈ tokens ++ [Token.atEnd size] ∧
      s.reading.peek.span.start ≤ token.span.start ∧
      token.span.start ≤ t.reading.peek.span.start := by
    intro token mem
    have inside : token ∈ s.reading.ahead := by
      rw [ahead]
      rcases List.mem_append.1 mem with mem | mem
      · exact List.mem_append_left _ mem
      · obtain rfl := List.mem_singleton.1 mem
        exact List.mem_append_right _ t.reading.peek_mem_ahead
    refine ⟨before ▸ List.mem_append_right _ inside, placed.peek_le before inside, ?_⟩
    rcases List.mem_append.1 mem with mem | mem
    · exact Nat.le_of_lt (placed.lt_peek after (List.mem_append_right _ mem))
    · obtain rfl := List.mem_singleton.1 mem
      exact Nat.le_refl _
  exact ⟨(each _ (List.mem_append_right _ List.mem_cons_self)).2.1, each⟩

theorem Told.going (placed : Placed tokens size) (known : Told tokens size taken s)
    (going : Going tokens taken s.reading) (tells : Tells s t more told) :
    Told tokens size (taken ++ more) t ∧ Going tokens (taken ++ more) t.reading := by
  obtain ⟨onward, between⟩ := tells.between placed known going
  have split : tokens = taken ++ more ++ t.reading.rest := by
    rw [going.split, tells.rest, List.append_assoc]
  have opened : ∀ span ∈ t.opened, ⟨.openParen, span⟩ ∈ tokens := by
    intro span mem
    rcases tells.opened span mem with mem | mem
    · exact known.opened span mem
    · rw [split]
      exact List.mem_append_left _ (List.mem_append_right _ mem)
  have ofSize := tells.size.trans known.ofSize
  have running := tells.halted.trans going.running
  have lexical : t.reading.errors.reverse.filter (·.kind.isLexical) =
      lexicalFaults (taken ++ more) := by
    have single : told.toList.reverse = told.toList := by cases told <;> rfl
    rw [tells.errors, List.reverse_append, List.filter_append, single, tells.lexical, known.lexical,
      lexicalFaults, lexicalFaults, lexicalFaults, List.filterMap_append]
  cases told with
  | none =>
    have errors : t.reading.errors = s.reading.errors := tells.errors
    refine ⟨⟨ofSize, opened, lexical, ?_, ?_, ?_⟩, running, split, ?_, fun error mem located => ?_⟩
    · rw [errors]; exact known.noEmpty
    · rw [errors]; exact known.spans
    · rw [errors]; exact known.ordered
    · rw [errors]; exact going.noLimit
    · rw [errors] at mem
      exact Nat.le_trans (going.reached error mem located) onward
  | some fault =>
    have errors : t.reading.errors = fault :: s.reading.errors := tells.errors
    have place := tells.place fault rfl
    obtain ⟨noLimit, noEmpty⟩ := tells.common fault rfl
    have span : ∃ token ∈ tokens ++ [Token.atEnd size], fault.span = token.span := by
      split at place
      · exact ⟨_, List.mem_append_left _ (known.opened _ place), rfl⟩
      · obtain ⟨token, mem, same⟩ := place
        exact ⟨token, (between token mem).1, same⟩
    have located : fault.kind ≠ .unclosedParen →
        s.reading.peek.span.start ≤ fault.span.start ∧
          fault.span.start ≤ t.reading.peek.span.start := by
      intro located
      rw [if_neg located] at place
      obtain ⟨token, mem, same⟩ := place
      rw [same]
      exact (between token mem).2
    refine ⟨⟨ofSize, opened, lexical, ?_, ?_, ?_⟩, running, split, ?_, ?_⟩
    · rw [errors]
      exact List.forall_mem_cons.2 ⟨noEmpty, known.noEmpty⟩
    · rw [errors]
      exact List.forall_mem_cons.2 ⟨span, known.spans⟩
    · rw [errors, List.filter_cons]
      split
      · next isLocated =>
        refine List.pairwise_cons.2 ⟨fun earlier mem => ?_, known.ordered⟩
        obtain ⟨mem, earlierLocated⟩ := List.mem_filter.1 mem
        exact Nat.le_trans (going.reached earlier mem (of_decide_eq_true earlierLocated))
          (located (of_decide_eq_true isLocated)).1
      · exact known.ordered
    · rw [errors]
      exact List.forall_mem_cons.2 ⟨noLimit, going.noLimit⟩
    · rw [errors]
      refine List.forall_mem_cons.2 ⟨fun isLocated => (located isLocated).2, ?_⟩
      exact fun error mem isLocated => Nat.le_trans (going.reached error mem isLocated) onward

theorem Told.halts (known : Told tokens size taken s) (going : Going tokens taken s.reading)
    {token : Token} {limit : ParseError.Kind} (halts : Halts s t token limit) :
    Told tokens size taken t ∧ Ended tokens taken t.reading := by
  obtain ⟨rest, at_⟩ := halts.at_
  have split : tokens = taken ++ token :: rest := by rw [going.split, at_.here]; rfl
  have errors : t.reading.errors = ⟨limit, token.span⟩ :: s.reading.errors := by
    rw [halts.reading]; rfl
  have kinds : limit.isLexical = false ∧ limit ≠ .empty ∧ limit ≠ .unclosedParen := by
    have isLimit := halts.isLimit
    revert isLimit
    cases limit <;> simp [ParseError.Kind.isLimit, ParseError.Kind.isLexical]
  refine ⟨⟨?_, ?_, ?_, ?_, ?_, ?_⟩, ?_, ?_, token, rest, limit, _, split, errors, halts.isLimit,
    going.noLimit⟩
  · rw [halts.reading]; exact known.ofSize
  · rw [halts.opened]; exact known.opened
  · rw [errors, List.reverse_cons, List.filter_append, known.lexical]
    simp [kinds.1]
  · rw [errors]
    exact List.forall_mem_cons.2 ⟨kinds.2.1, known.noEmpty⟩
  · rw [errors]
    refine List.forall_mem_cons.2 ⟨⟨token, ?_, rfl⟩, known.spans⟩
    rw [split]
    simp
  · have first : s.reading.peek = token := at_.peek
    have located : decide ((⟨limit, token.span⟩ : ParseError).kind ≠ .unclosedParen) = true :=
      decide_eq_true kinds.2.2
    rw [errors, List.filter_cons, if_pos located]
    refine List.pairwise_cons.2 ⟨fun earlier mem => ?_, known.ordered⟩
    obtain ⟨mem, earlierLocated⟩ := List.mem_filter.1 mem
    rw [← first]
    exact going.reached earlier mem (of_decide_eq_true earlierLocated)
  · rw [halts.reading]; rfl
  · rw [halts.reading]; rfl

end Step

/-- What is known holds after every number of moves. -/
theorem Leads.told {tokens : List Token} {size : Nat} (placed : Placed tokens size) {s : Standing}
    (leads : Leads (.first tokens size) s) :
    ∃ taken, Told tokens size taken s ∧
      (Going tokens taken s.reading ∨ Ended tokens taken s.reading) := by
  induction leads with
  | refl =>
    exact ⟨[], ⟨rfl, nofun, rfl, nofun, nofun, .nil⟩, .inl ⟨rfl, rfl, nofun, nofun⟩⟩
  | tail _ move ih =>
    obtain ⟨taken, known, going | ended⟩ := ih
    · rcases move.effect with ⟨more, told, tells⟩ | ⟨token, limit, halts⟩
      · obtain ⟨knownThen, goingThen⟩ := known.going placed going tells
        exact ⟨taken ++ more, knownThen, .inl goingThen⟩
      · obtain ⟨knownThen, endedThen⟩ := known.halts going halts
        exact ⟨taken, knownThen, .inr endedThen⟩
    · rcases move.effect with ⟨more, told, tells⟩ | ⟨token, limit, halts⟩
      · obtain ⟨knownThen, endedThen⟩ := known.ended ended tells
        exact ⟨taken, knownThen, .inr endedThen⟩
      · obtain ⟨rest, at_⟩ := halts.at_
        have running := at_.running
        rw [ended.halted] at running
        cases running

/-- The tokens that come before the limit that was hit, if one was. -/
def regarded (errors : List ParseError) (tokens : List Token) : List Token :=
  tokens.filter fun token => errors.all fun error =>
    !error.kind.isLimit || token.span.start < error.span.start

theorem regarded_of_noLimit {errors : List ParseError}
    (noLimit : ∀ error ∈ errors, error.kind.isLimit = false) (tokens : List Token) :
    regarded errors tokens = tokens := by
  refine List.filter_eq_self.2 fun token _ => List.all_eq_true.2 fun error mem => ?_
  rw [noLimit error mem]
  rfl

theorem regarded_of_limit {tokens before after : List Token} {size : Nat} {token : Token}
    {limit : ParseError.Kind} {earlier : List ParseError} (placed : Placed tokens size)
    (split : tokens = before ++ token :: after) (isLimit : limit.isLimit = true)
    (noLimit : ∀ error ∈ earlier, error.kind.isLimit = false) :
    regarded (earlier ++ [(⟨limit, token.span⟩ : ParseError)]) tokens = before := by
  have ordered := placed.ordered
  rw [split, List.pairwise_append, List.pairwise_cons] at ordered
  obtain ⟨_, ⟨later, _⟩, sooner⟩ := ordered
  have regards (other : Token) : ((earlier ++ [(⟨limit, token.span⟩ : ParseError)]).all fun error =>
      !error.kind.isLimit || decide (other.span.start < error.span.start)) =
        decide (other.span.start < token.span.start) := by
    have silent : (earlier.all fun error =>
        !error.kind.isLimit || decide (other.span.start < error.span.start)) = true :=
      List.all_eq_true.2 fun error mem => by rw [noLimit error mem]; rfl
    simp [silent, isLimit]
  simp only [regarded, regards]
  rw [split, List.filter_append, List.filter_eq_self.2, List.filter_eq_nil_iff.2, List.append_nil]
  · intro other mem
    rw [decide_eq_true_eq, Nat.not_lt]
    rcases List.mem_cons.1 mem with rfl | mem
    · exact Nat.le_refl _
    · exact Nat.le_of_lt (later other mem)
  · intro other mem
    exact decide_eq_true (sooner other mem token List.mem_cons_self)

/-- Correction neither makes a lexical fault nor mends one. -/
theorem isFault_corrected (kind : Token.Kind) : isFault kind.corrected = isFault kind := by
  cases kind with
  | word word =>
    simp only [Token.Kind.corrected]
    cases found : correct? word with
    | none => rfl
    | some kind => rcases correct?_cases found with rfl | rfl | ⟨field, rfl⟩ <;> rfl
  | _ => rfl

theorem lexicalFaults_corrected (tokens : List Token) :
    lexicalFaults (tokens.map Token.corrected) = lexicalFaults tokens := by
  rw [lexicalFaults, lexicalFaults, List.filterMap_map]
  congr 1
  refine funext fun token => ?_
  obtain ⟨kind, span⟩ := token
  cases kind with
  | word word => exact Token.fault?_eq_none (isFault_corrected (.word word)) span
  | _ => rfl

/-- The lexical faults of a text, whether it is looked at before or after correction. -/
theorem lexicalFaults_regarded (errors : List ParseError) (text : String) :
    lexicalFaults (regarded errors (tokenize text)) =
      lexicalFaults (regarded errors (sentence text)) := by
  have atEnd (tokens : List Token) (size : Nat) :
      lexicalFaults (regarded errors (tokens ++ [Token.atEnd size])) =
        lexicalFaults (regarded errors tokens) := by
    rw [regarded, List.filter_append, lexicalFaults, List.filterMap_append, List.filter_cons]
    split
    · exact List.append_nil _
    · exact List.append_nil _
  have corrected (tokens : List Token) :
      regarded errors (tokens.map Token.corrected) =
        (regarded errors tokens).map Token.corrected := by
    rw [regarded, regarded, List.filter_map]
    congr 1
    refine List.filter_congr fun token _ => ?_
    simp only [Function.comp_apply, Token.corrected_span]
  rw [tokenize, atEnd, lexicalTokens_eq, sentence_eq, corrected, lexicalFaults_corrected]

theorem mem_tokenize_of_span {text : String} {span : Span}
    (mem : ∃ token ∈ sentence text ++ [Token.atEnd text.utf8ByteSize], span = token.span) :
    ∃ token ∈ tokenize text, span = token.span := by
  obtain ⟨token, mem, same⟩ := mem
  rw [tokenize, lexicalTokens_eq]
  rcases List.mem_append.1 mem with mem | mem
  · rw [sentence_eq] at mem
    obtain ⟨original, originalMem, rfl⟩ := List.mem_map.1 mem
    exact ⟨original, List.mem_append_left _ originalMem, same.trans original.corrected_span⟩
  · exact ⟨token, List.mem_append_right _ mem, same⟩

theorem lexicalFaults_nodup {tokens : List Token}
    (ordered : tokens.Pairwise fun first second => first.span.start < second.span.start) :
    (lexicalFaults tokens).Nodup := by
  have place {token : Token} {error : ParseError} (told : token.fault? = some error) :
      error.span = token.span := by
    obtain ⟨kind, span⟩ := token
    cases kind <;> cases told
    rfl
  refine List.Pairwise.filterMap _ (fun first second before error told other toldToo => ?_) ordered
  rintro rfl
  rw [← place told, ← place toldToo] at before
  exact Nat.lt_irrefl _ before

/-- The moves through a text with tokens end with the faults that are told of it. -/
theorem parse_leads {text : String} {errors : List ParseError}
    (rejected : parse text = .error errors) (visible : sentence text ≠ []) :
    ∃ reported final, Leads (.first (sentence text) text.utf8ByteSize)
      ⟨.finish reported, [], final⟩ ∧ final.rest = [] ∧ errors = final.errors.reverse := by
  obtain ⟨reported, final, leads, nothing, told⟩ := ofTokens_leads visible text.utf8ByteSize
  rw [← parse_eq, rejected] at told
  exact ⟨reported, final, leads, nothing, told.symm⟩

theorem parse_blank {text : String} (blank : sentence text = []) :
    parse text = .error [⟨.empty, ⟨text.utf8ByteSize, text.utf8ByteSize⟩⟩] := by
  rw [parse_eq, blank]
  rfl

/-- What is told of a rejected text. Every fault is found at a token. The lexical faults are told
one by one, up to the limit that was hit, if one was; apart from parentheses that are not closed,
all faults are told in the order of the text. A limit is told last, and only a blank text is called
empty, without any other fault. -/
theorem parse_diagnoses {text : String} {errors : List ParseError}
    (rejected : parse text = .error errors) :
    (∀ error ∈ errors, ∃ token ∈ tokenize text, error.span = token.span) ∧
      errors.filter (·.kind.isLexical) = lexicalFaults (regarded errors (tokenize text)) ∧
      (errors.filter (·.kind.isLexical)).Nodup ∧
      (errors.filter (·.kind ≠ .unclosedParen)).Pairwise
        (fun earlier later => earlier.span.start ≤ later.span.start) ∧
      (∀ error ∈ errors.dropLast, error.kind.isLimit = false) ∧
      (∀ error ∈ errors, error.kind = .empty → errors = [error]) ∧
      ((∃ error ∈ errors, error.kind = .empty) ↔ ∀ c ∈ text.toList, isBlank c = true) := by
  rw [lexicalFaults_regarded]
  by_cases nothing : sentence text = []
  · have blank := (sentence_eq_nil_iff text).1 nothing
    rw [parse_blank nothing] at rejected
    cases rejected
    refine ⟨fun error mem => mem_tokenize_of_span ?_, ?_, .nil, List.pairwise_singleton _ _, nofun,
      fun error mem _ => ?_, ?_⟩
    · obtain rfl := List.mem_singleton.1 mem
      exact ⟨_, List.mem_append_right _ List.mem_cons_self, rfl⟩
    · rw [nothing]
      rfl
    · obtain rfl := List.mem_singleton.1 mem
      rfl
    · exact iff_of_true ⟨_, List.mem_cons_self, rfl⟩ blank
  · have placed := sentence_placed text
    obtain ⟨reported, final, leads, done, rfl⟩ := parse_leads rejected nothing
    obtain ⟨taken, known, stage⟩ := leads.told placed
    have notBlank : ¬ ∀ c ∈ text.toList, isBlank c = true := mt (sentence_eq_nil_iff text).2 nothing
    have noEmpty : ∀ error ∈ final.errors.reverse, error.kind ≠ .empty := fun error mem =>
      known.noEmpty error (List.mem_reverse.1 mem)
    have looked : regarded final.errors.reverse (sentence text) = taken ∧
        ∀ error ∈ final.errors.reverse.dropLast, error.kind.isLimit = false := by
      rcases stage with going | ended
      · have noLimit : ∀ error ∈ final.errors.reverse, error.kind.isLimit = false :=
          fun error mem => going.noLimit error (List.mem_reverse.1 mem)
        refine ⟨?_, fun error mem => noLimit error (List.dropLast_subset _ mem)⟩
        rw [regarded_of_noLimit noLimit, going.split]
        exact (congrArg (taken ++ ·) done).trans (List.append_nil _)
      · obtain ⟨token, after, limit, earlier, split, errors, isLimit, noLimit⟩ := ended.limit
        have noLimitThen : ∀ error ∈ earlier.reverse, error.kind.isLimit = false :=
          fun error mem => noLimit error (List.mem_reverse.1 mem)
        have told : final.errors.reverse = earlier.reverse ++ [⟨limit, token.span⟩] := by
          have told : final.errors = ⟨limit, token.span⟩ :: earlier := errors
          rw [told, List.reverse_cons]
        rw [told, List.dropLast_concat]
        exact ⟨regarded_of_limit placed split isLimit noLimitThen, noLimitThen⟩
    refine ⟨fun error mem => ?_, ?_, ?_, ?_, looked.2, fun error mem isEmpty => ?_, ?_⟩
    · exact mem_tokenize_of_span (known.spans error (List.mem_reverse.1 mem))
    · rw [looked.1]
      exact known.lexical
    · rw [known.lexical, ← looked.1]
      exact lexicalFaults_nodup (placed.ordered.filter _)
    · rw [List.filter_reverse, List.pairwise_reverse]
      exact known.ordered
    · exact absurd isEmpty (noEmpty error mem)
    · refine iff_of_false ?_ notBlank
      rintro ⟨error, mem, isEmpty⟩
      exact noEmpty error mem isEmpty

/-- The fault before the parenthesis that is one too many is told, and the one after it is not. -/
theorem parse_diagnoses_too_deep :
    parse (.ofList ('!' :: List.replicate 65 '(' ++ ['@'])) =
        .error [⟨.lexical (.unexpectedChar '!'), ⟨0, 1⟩⟩, ⟨.tooDeep, ⟨65, 66⟩⟩] ∧
      lexicalFaults (tokenize (.ofList ('!' :: List.replicate 65 '(' ++ ['@']))) =
        [⟨.lexical (.unexpectedChar '!'), ⟨0, 1⟩⟩, ⟨.lexical (.unexpectedChar '@'), ⟨66, 67⟩⟩] ∧
      lexicalFaults (regarded
          [⟨.lexical (.unexpectedChar '!'), ⟨0, 1⟩⟩, ⟨.tooDeep, ⟨65, 66⟩⟩]
          (tokenize (.ofList ('!' :: List.replicate 65 '(' ++ ['@'])))) =
        [⟨.lexical (.unexpectedChar '!'), ⟨0, 1⟩⟩] := by
  have rejected : parse (.ofList ('!' :: List.replicate 65 '(' ++ ['@'])) =
      .error [⟨.lexical (.unexpectedChar '!'), ⟨0, 1⟩⟩, ⟨.tooDeep, ⟨65, 66⟩⟩] := by
    decide +kernel
  have told := (parse_diagnoses rejected).2.1
  exact ⟨rejected, by decide +kernel, told.symm⟩

end Predicate

end SmartCollections
