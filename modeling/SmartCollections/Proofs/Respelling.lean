import SmartCollections.Proofs.Interruptions

/-!
# The parser under another spelling

The parser looks at words and at places only to tell of them. So whatever other words stand in the
place of words, and wherever the tokens stand, it makes the same moves: to spell its tokens and its
faults differently takes moves to moves. What has been read before counts, as it is part of a limit.
-/

namespace SmartCollections

/-- The token with its word spelt differently. -/
def Token.Kind.respelt (word : String → String) : Token.Kind → Token.Kind
  | .word text => .word (word text)
  | kind => kind

/-- The range of bytes with its ends placed differently. -/
def Span.respelt (place : Nat → Nat) (span : Span) : Span := ⟨place span.start, place span.stop⟩

def Token.respelt (word : String → String) (place : Nat → Nat) (token : Token) : Token :=
  ⟨token.kind.respelt word, token.span.respelt place⟩

def ParseError.Kind.respelt (word : String → String) : ParseError.Kind → ParseError.Kind
  | .unknownField text => .unknownField (word text)
  | .expectedField found => .expectedField (found.respelt word)
  | .trailing found => .trailing (found.respelt word)
  | kind => kind

def ParseError.respelt (word : String → String) (place : Nat → Nat) (error : ParseError) :
    ParseError :=
  ⟨error.kind.respelt word, error.span.respelt place⟩

namespace Predicate

/-- The reading of the tokens in another spelling, after so many more keywords. -/
def Reading.respelt (word : String → String) (place : Nat → Nat) (before : Nat) (r : Reading) :
    Reading where
  rest := r.rest.map (Token.respelt word place)
  size := place r.size
  operands := r.operands + before
  halted := r.halted
  errors := r.errors.map (ParseError.respelt word place)

def Standing.respelt (word : String → String) (place : Nat → Nat) (before : Nat) (s : Standing) :
    Standing :=
  ⟨s.place, s.opened.map (Span.respelt place), s.reading.respelt word place before⟩

section Kinds

variable (word : String → String) (kind : Token.Kind)

theorem isFault_respelt : isFault (kind.respelt word) = isFault kind := by cases kind <;> rfl

theorem startsOperand_respelt : startsOperand (kind.respelt word) = startsOperand kind := by
  cases kind <;> rfl

theorem isLiteral_respelt : isLiteral (kind.respelt word) = isLiteral kind := by cases kind <;> rfl

theorem isStuck_respelt : isStuck (kind.respelt word) = isStuck kind := by cases kind <;> rfl

theorem respelt_and_iff : kind.respelt word = .and ↔ kind = .and := by
  cases kind <;> simp [Token.Kind.respelt]

theorem respelt_or_iff : kind.respelt word = .or ↔ kind = .or := by
  cases kind <;> simp [Token.Kind.respelt]

theorem headKind_respelt (place : Nat → Nat) (tokens : List Token) :
    headKind (tokens.map (Token.respelt word place)) = (headKind tokens).respelt word := by
  cases tokens <;> rfl

end Kinds

namespace Reading

variable (word : String → String) (place : Nat → Nat) (before : Nat)

theorem respelt_bump (r : Reading) :
    r.bump.respelt word place before = (r.respelt word place before).bump := by
  simp only [respelt, bump, List.map_tail]

theorem respelt_pastField (r : Reading) :
    r.pastField.respelt word place before = (r.respelt word place before).pastField := by
  simp only [respelt, pastField, bump, List.map_tail, Nat.add_right_comm]

theorem respelt_report (r : Reading) (kind : ParseError.Kind) (span : Span) :
    (r.report kind span).respelt word place before =
      (r.respelt word place before).report (kind.respelt word) (span.respelt place) := rfl

theorem respelt_halt (r : Reading) (kind : ParseError.Kind) (span : Span) :
    (r.halt kind span).respelt word place before =
      (r.respelt word place before).halt (kind.respelt word) (span.respelt place) := rfl

theorem peek_respelt (r : Reading) :
    (r.respelt word place before).peek = r.peek.respelt word place := by
  obtain ⟨rest, size, operands, halted, errors⟩ := r
  cases rest <;> rfl

theorem At.respelt {r : Reading} {tokens rest : List Token} (at_ : r.At tokens rest) :
    (r.respelt word place before).At (tokens.map (Token.respelt word place))
      (rest.map (Token.respelt word place)) where
  running := at_.running
  here := by rw [Reading.respelt, at_.here, List.map_append]

end Reading

/-- A move is a move in another spelling, if a keyword is too many in the one exactly if it is too
many in the other. -/
theorem Move.respelt {s t : Standing} (move : Move s t) (word : String → String)
    (place : Nat → Nat) {before : Nat}
    (limit : isField s.reading.peek.kind = true →
      (s.reading.operands + before = maxOperands ↔ s.reading.operands = maxOperands)) :
    Move (s.respelt word place before) (t.respelt word place before) := by
  have next (r : Reading) : (r.respelt word place before).peek.kind = r.peek.kind.respelt word := by
    rw [Reading.peek_respelt]
    rfl
  have reached {r : Reading} {field : Field} {span : Span} {tokens rest : List Token}
      (at_ : r.At (⟨.field field, span⟩ :: tokens) rest) : isField r.peek.kind = true := by
    rw [at_.peek]
    rfl
  cases move with
  | fault at_ =>
    simp only [Standing.respelt, Reading.respelt_report, Reading.respelt_bump]
    exact .fault (at_.respelt word place before)
  | excused sound absent =>
    refine .excused ?_ ?_
    · rwa [next, isFault_respelt]
    · rwa [next, startsOperand_respelt]
  | @expected opened r running sound absent =>
    have move : Move ⟨.operand false, opened.map (Span.respelt place),
        r.respelt word place before⟩ _ := .expected running
      (by rwa [next, isFault_respelt]) (by rwa [next, startsOperand_respelt])
    rwa [Reading.peek_respelt] at move
  | contains at_ room =>
    simp only [Standing.respelt, Reading.respelt_bump, Reading.respelt_pastField]
    exact .contains (at_.respelt word place before) (mt (limit (reached at_)).1 room)
  | broken at_ room =>
    simp only [Standing.respelt, Reading.respelt_report, Reading.respelt_bump,
      Reading.respelt_pastField]
    exact .broken (at_.respelt word place before) (mt (limit (reached at_)).1 room)
  | @missing excused opened r field span rest at_ sound absent room =>
    have move : Move ⟨.operand excused, opened.map (Span.respelt place),
        r.respelt word place before⟩ _ := .missing (at_.respelt word place before)
      (by rwa [headKind_respelt, isFault_respelt]) (by rwa [headKind_respelt, isLiteral_respelt])
      (mt (limit (reached at_)).1 room)
    rwa [← Reading.respelt_pastField, Reading.peek_respelt] at move
  | tooLong at_ full =>
    simp only [Standing.respelt, Reading.respelt_halt]
    exact .tooLong (at_.respelt word place before) ((limit (reached at_)).2 full)
  | opening at_ room =>
    simp only [Standing.respelt, Reading.respelt_bump]
    exact .opening (at_.respelt word place before) (by rwa [List.length_map])
  | tooDeep at_ full =>
    simp only [Standing.respelt, Reading.respelt_halt]
    exact .tooDeep (at_.respelt word place before) (by rwa [List.length_map])
  | unknown at_ absent =>
    simp only [Standing.respelt, Reading.respelt_report, Reading.respelt_bump]
    exact .unknown (at_.respelt word place before) (by rwa [headKind_respelt, isLiteral_respelt])
  | unknownWithText at_ =>
    simp only [Standing.respelt, Reading.respelt_report, Reading.respelt_bump]
    exact .unknownWithText (at_.respelt word place before)
  | stray at_ =>
    simp only [Standing.respelt, Reading.respelt_report, Reading.respelt_bump]
    exact .stray (at_.respelt word place before)
  | sign at_ isSign =>
    simp only [Standing.respelt, Reading.respelt_bump]
    refine .sign (at_.respelt word place before) ?_
    exact isSign.imp (respelt_and_iff word _).2 (respelt_or_iff word _).2
  | closing at_ =>
    simp only [Standing.respelt, Reading.respelt_bump]
    exact .closing (at_.respelt word place before)
  | unclosed running stuck =>
    refine .unclosed running ?_
    rwa [next, isStuck_respelt]
  | abandoned halted => exact .abandoned halted
  | complete sound noSign =>
    refine .complete ?_ ⟨mt ?_ noSign.1, mt ?_ noSign.2⟩
    · rwa [next, isFault_respelt]
    · rw [next]
      exact (respelt_and_iff word _).1
    · rw [next]
      exact (respelt_or_iff word _).1
  | trailing at_ sound =>
    simp only [Standing.respelt, Reading.respelt_report, Reading.respelt_bump]
    exact .trailing (at_.respelt word place before) ((isFault_respelt word _).trans sound)
  | passed at_ sound =>
    simp only [Standing.respelt, Reading.respelt_bump]
    exact .passed (at_.respelt word place before) ((isFault_respelt word _).trans sound)

theorem Leads.respelt {s t : Standing} (leads : Leads s t) (word : String → String)
    (place : Nat → Nat) : Leads (s.respelt word place 0) (t.respelt word place 0) :=
  leads.lift (Standing.respelt word place 0) fun _ _ move => move.respelt word place fun _ => .rfl

/-- Tokens in another spelling have the same faults, in that spelling. -/
theorem faultsOf_respelt (word : String → String) (place : Nat → Nat) (tokens : List Token)
    (size : Nat) :
    faultsOf (ofTokens (tokens.map (Token.respelt word place)) (place size)) =
      (faultsOf (ofTokens tokens size)).map (ParseError.respelt word place) := by
  by_cases none : tokens = []
  · subst none
    rfl
  obtain ⟨_, final, leads, done, told⟩ := ofTokens_leads none size
  obtain ⟨_, other, otherLeads, otherDone, otherTold⟩ :=
    ofTokens_leads (mt List.map_eq_nil_iff.1 none) (place size)
  have respelt := leads.respelt word place
  have ends : (final.respelt word place 0).rest = [] := congrArg (List.map _) done
  rw [← otherTold, ← told, ← Leads.end_unique respelt ends otherLeads otherDone, List.map_reverse]
  rfl

/-- There is no word in an expression. -/
theorem Derives.eq_of_respelt {level : Level} {kinds others : List Token.Kind} {tree : Predicate}
    (derives : Derives level kinds tree) {word : String → String}
    (same : others.map (Token.Kind.respelt word) = kinds.map (Token.Kind.respelt word)) :
    others = kinds := by
  have kept : ∀ kind ∈ kinds, kind.respelt word = kind := by
    intro kind mem
    have expected := derives.expected kind mem
    cases kind with
    | word text => cases expected
    | _ => rfl
  rw [List.map_congr_left kept, List.map_id'] at same
  have keptToo : ∀ kind ∈ others, kind.respelt word = kind := by
    intro kind mem
    have among : kind.respelt word ∈ kinds := by
      rw [← same]
      exact List.mem_map_of_mem mem
    have expected := derives.expected _ among
    cases kind with
    | word text => cases expected
    | _ => rfl
  rwa [List.map_congr_left keptToo, List.map_id'] at same

/-- Texts with the same tokens, but for how words are spelt, have the same tree or the same kinds of
faults, but for how words are spelt. -/
theorem parse_respelt {text other : String} {word : String → String}
    (same : (kinds text).map (Token.Kind.respelt word) =
      (kinds other).map (Token.Kind.respelt word)) :
    (∀ tree, parse text = .ok tree → parse other = .ok tree) ∧
    ∀ errors, parse text = .error errors → ∃ others, parse other = .error others ∧
      others.map (·.kind.respelt word) = errors.map (·.kind.respelt word) := by
  constructor
  · intro tree parsed
    have derives := (parse_eq_ok_iff.1 parsed).1
    rwa [parse_eq_ok_iff, derives.eq_of_respelt same.symm, ← parse_eq_ok_iff]
  · intro errors rejected
    -- All tokens are put in one place, so that nothing is left of them but their kinds.
    have here (text : String) : (sentence text).map (Token.respelt word fun _ => 0) =
        ((kinds text).map (Token.Kind.respelt word)).map fun kind => ⟨kind, ⟨0, 0⟩⟩ := by
      rw [kinds, List.map_map, List.map_map]
      rfl
    have told (text : String) :=
      faultsOf_respelt word (fun _ => 0) (sentence text) text.utf8ByteSize
    have alike : (faultsOf (parse other)).map (ParseError.respelt word fun _ => 0) =
        (faultsOf (parse text)).map (ParseError.respelt word fun _ => 0) := by
      rw [parse_eq, parse_eq, ← told, ← told, here, here, same]
    rw [rejected] at alike
    cases outcome : parse other with
    | ok tree =>
      rw [outcome] at alike
      exact absurd (List.map_eq_nil_iff.1 alike.symm) (parse_error_ne_nil rejected)
    | error others =>
      rw [outcome] at alike
      have kinds := congrArg (List.map ParseError.kind) alike
      rw [List.map_map, List.map_map] at kinds
      exact ⟨others, rfl, kinds⟩

end Predicate

end SmartCollections
