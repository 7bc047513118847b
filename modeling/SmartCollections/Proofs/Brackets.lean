import SmartCollections.Proofs.Diagnostics

/-!
# Parentheses that are not closed

A closing parenthesis closes the innermost one that is open. The parser tells exactly of the
parentheses that are open where it can read no further. That is the end of the text, unless the
first token left over is reported there as well: then what is left over may hold the closing
parenthesis that was missed.
-/

namespace SmartCollections.Predicate

/-- In no beginning are more than `depth` more parentheses closed than opened. -/
def Within (depth : Nat) (kinds : List Token.Kind) : Prop :=
  ∀ before, before <+: kinds → before.count .closeParen ≤ before.count .openParen + depth

/-- A parenthesis is opened at the span, and none of those that are closed later closes it. -/
def LeftOpen (tokens : List Token) (span : Span) : Prop :=
  ∃ before after, tokens = before ++ ⟨.openParen, span⟩ :: after ∧ Within 0 (after.map Token.kind)

/-- The parentheses that are open after a token, the innermost first. -/
def openAfter (opened : List Span) : Token → List Span
  | ⟨.openParen, span⟩ => span :: opened
  | ⟨.closeParen, _⟩ => opened.tail
  | _ => opened

/-- The parentheses that are open after all tokens, the innermost first. -/
def unclosed (tokens : List Token) : List Span := tokens.foldl openAfter []

/-- A token that is no parenthesis. -/
def isMark : Token.Kind → Bool
  | .openParen | .closeParen => false
  | _ => true

theorem openAfter_mark {token : Token} (mark : isMark token.kind = true) (opened : List Span) :
    openAfter opened token = opened := by
  obtain ⟨kind, span⟩ := token
  cases kind <;> simp_all [isMark, openAfter]

namespace Within

variable {depth : Nat} {kind : Token.Kind} {kinds : List Token.Kind}

theorem nil : Within depth [] := by
  intro before isPrefix
  simp [List.prefix_nil.1 isPrefix]

theorem cons_iff : Within depth (kind :: kinds) ↔ ∀ before, before <+: kinds →
    (kind :: before).count .closeParen ≤ (kind :: before).count .openParen + depth := by
  constructor
  · intro within before isPrefix
    exact within _ (List.cons_prefix_cons.2 ⟨rfl, isPrefix⟩)
  · intro within before isPrefix
    rcases List.prefix_cons_iff.1 isPrefix with rfl | ⟨rest, rfl, restPrefix⟩
    · simp
    · exact within rest restPrefix

theorem openParen_iff : Within depth (.openParen :: kinds) ↔ Within (depth + 1) kinds := by
  rw [cons_iff]
  refine forall_congr' fun before => imp_congr_right fun _ => ?_
  simp only [List.count_cons, beq_iff_eq, reduceCtorEq, if_true, if_false]
  omega

theorem closeParen_iff : Within (depth + 1) (.closeParen :: kinds) ↔ Within depth kinds := by
  rw [cons_iff]
  refine forall_congr' fun before => imp_congr_right fun _ => ?_
  simp only [List.count_cons, beq_iff_eq, reduceCtorEq, if_true, if_false]
  omega

theorem not_closeParen : ¬ Within 0 (.closeParen :: kinds) := by
  intro within
  have first := within [.closeParen] (List.cons_prefix_cons.2 ⟨rfl, List.nil_prefix⟩)
  simp at first

theorem mark_iff (mark : isMark kind = true) :
    Within depth (kind :: kinds) ↔ Within depth kinds := by
  rw [cons_iff]
  refine forall_congr' fun before => imp_congr_right fun _ => ?_
  have noParen : kind ≠ .closeParen ∧ kind ≠ .openParen := by
    constructor <;> rintro rfl <;> cases mark
  rw [List.count_cons_of_ne noParen.1, List.count_cons_of_ne noParen.2]

end Within

theorem leftOpen_cons_iff {token : Token} {tokens : List Token} {span : Span} :
    LeftOpen (token :: tokens) span ↔
      token = ⟨.openParen, span⟩ ∧ Within 0 (tokens.map Token.kind) ∨ LeftOpen tokens span := by
  constructor
  · rintro ⟨before, after, split, within⟩
    rcases List.cons_eq_append_iff.1 split with ⟨rfl, same⟩ | ⟨others, rfl, rest⟩
    · cases same
      exact .inl ⟨rfl, within⟩
    · exact .inr ⟨others, after, rest, within⟩
  · rintro (⟨rfl, within⟩ | ⟨before, after, rfl, within⟩)
    · exact ⟨[], tokens, rfl, within⟩
    · exact ⟨token :: before, after, rfl, within⟩

/-- A parenthesis that was open is still open if the tokens do not close more than those that were
opened since. -/
theorem mem_foldl_openAfter {tokens : List Token} {opened : List Span} {span : Span} :
    span ∈ tokens.foldl openAfter opened ↔
      LeftOpen tokens span ∨ ∃ above below, opened = above ++ span :: below ∧
        Within above.length (tokens.map Token.kind) := by
  induction tokens generalizing opened with
  | nil =>
    have nowhere : ¬ LeftOpen [] span := by
      rintro ⟨before, after, split, _⟩
      simp at split
    rw [List.foldl_nil, List.mem_iff_append]
    simp [nowhere, Within.nil]
  | cons token tokens ih =>
    rw [List.foldl_cons, ih, leftOpen_cons_iff, List.map_cons]
    by_cases mark : isMark token.kind = true
    · have other : token ≠ ⟨.openParen, span⟩ := by rintro rfl; cases mark
      simp only [openAfter_mark mark, Within.mark_iff mark, other, false_and, false_or]
    · obtain ⟨kind, place⟩ := token
      cases kind with
      | openParen =>
        simp only [openAfter, Within.openParen_iff]
        constructor
        · rintro (later | ⟨_ | ⟨first, above⟩, below, split, within⟩)
          · exact .inl (.inr later)
          · cases split
            exact .inl (.inl ⟨rfl, within⟩)
          · cases split
            exact .inr ⟨above, below, rfl, within⟩
        · rintro ((⟨same, within⟩ | later) | ⟨above, below, rfl, within⟩)
          · cases same
            exact .inr ⟨[], opened, rfl, within⟩
          · exact .inl later
          · exact .inr ⟨place :: above, below, rfl, within⟩
      | closeParen =>
        simp only [openAfter, Token.mk.injEq, reduceCtorEq, false_and, false_or]
        refine or_congr_right ?_
        constructor
        · rintro ⟨above, below, split, within⟩
          cases opened with
          | nil => simp at split
          | cons first opened =>
            refine ⟨first :: above, below, ?_, Within.closeParen_iff.2 within⟩
            rw [List.tail_cons] at split
            rw [split]
            rfl
        · rintro ⟨_ | ⟨first, above⟩, below, rfl, within⟩
          · exact absurd within Within.not_closeParen
          · exact ⟨above, below, rfl, Within.closeParen_iff.1 within⟩
      | _ => exact absurd rfl mark

theorem mem_unclosed_iff {tokens : List Token} {span : Span} :
    span ∈ unclosed tokens ↔ LeftOpen tokens span := by
  rw [unclosed, mem_foldl_openAfter]
  simp

instance (tokens : List Token) (span : Span) : Decidable (LeftOpen tokens span) :=
  decidable_of_iff _ mem_unclosed_iff

theorem foldl_openAfter_ordered {tokens : List Token} {opened : List Span}
    (ordered : (opened.reverse ++ tokens.map Token.span).Pairwise fun first second =>
      first.start < second.start) :
    (tokens.foldl openAfter opened).Pairwise fun second first => first.start < second.start := by
  induction tokens generalizing opened with
  | nil =>
    rw [List.map_nil, List.append_nil, List.pairwise_reverse] at ordered
    exact ordered
  | cons token tokens ih =>
    rw [List.foldl_cons]
    apply ih
    have dropped : (opened.reverse ++ tokens.map Token.span).Pairwise fun first second =>
        first.start < second.start := by
      refine ordered.sublist (List.Sublist.append_left ?_ _)
      exact List.sublist_cons_self _ _
    obtain ⟨kind, span⟩ := token
    cases kind with
    | openParen =>
      rw [openAfter, List.reverse_cons, List.append_assoc]
      exact ordered
    | closeParen =>
      refine dropped.sublist (List.Sublist.append_right ?_ _)
      exact (List.tail_sublist opened).reverse
    | _ => exact dropped

theorem unclosed_nodup {tokens : List Token}
    (ordered : tokens.Pairwise fun first second => first.span.start < second.span.start) :
    (unclosed tokens).Nodup := by
  have sorted : (unclosed tokens).Pairwise fun second first => first.start < second.start :=
    foldl_openAfter_ordered (by simpa [List.pairwise_map] using ordered)
  refine sorted.imp ?_
  rintro first _ before rfl
  exact Nat.lt_irrefl _ before

theorem unclosed_append_marks {taken more : List Token}
    (marks : ∀ token ∈ more, isMark token.kind = true) :
    unclosed (taken ++ more) = unclosed taken := by
  rw [unclosed, List.foldl_append]
  induction more generalizing taken with
  | nil => rfl
  | cons token more ih =>
    obtain ⟨mark, marks⟩ := List.forall_mem_cons.1 marks
    rw [List.foldl_cons, openAfter_mark mark]
    exact ih marks

theorem unclosed_concat (taken : List Token) (token : Token) :
    unclosed (taken ++ [token]) = openAfter (unclosed taken) token := by
  rw [unclosed, List.foldl_append]
  rfl

/-- The parentheses that have been told of as not closed. -/
def alarms (errors : List ParseError) : List Span :=
  (errors.filter (·.kind = .unclosedParen)).map ParseError.span

theorem alarms_other {kind : ParseError.Kind} {span : Span} {errors : List ParseError}
    (other : kind ≠ .unclosedParen) : alarms (⟨kind, span⟩ :: errors) = alarms errors := by
  rw [alarms, List.filter_cons, if_neg (by simpa using other)]
  rfl

@[simp] theorem alarms_unclosed (span : Span) (errors : List ParseError) :
    alarms (⟨.unclosedParen, span⟩ :: errors) = span :: alarms errors := rfl

theorem mem_alarms_iff {errors : List ParseError} {span : Span} :
    span ∈ alarms errors ↔ ⟨.unclosedParen, span⟩ ∈ errors := by
  simp only [alarms, List.mem_map, List.mem_filter, decide_eq_true_eq]
  constructor
  · rintro ⟨⟨_, _⟩, ⟨mem, rfl⟩, rfl⟩
    exact mem
  · intro mem
    exact ⟨_, ⟨mem, rfl⟩, rfl⟩

theorem alarms_reverse (errors : List ParseError) :
    alarms errors.reverse = (alarms errors).reverse := by
  rw [alarms, List.filter_reverse, List.map_reverse]
  rfl

/-- The tokens that have been told of as left over. -/
def leftovers (errors : List ParseError) : List Token :=
  errors.filterMap fun
    | ⟨.trailing kind, span⟩ => some ⟨kind, span⟩
    | _ => none

theorem mem_leftovers_iff {errors : List ParseError} {kind : Token.Kind} {span : Span} :
    ⟨kind, span⟩ ∈ leftovers errors ↔ ⟨.trailing kind, span⟩ ∈ errors := by
  rw [leftovers, List.mem_filterMap]
  constructor
  · rintro ⟨⟨told, place⟩, mem, same⟩
    cases told <;> cases same
    exact mem
  · intro mem
    exact ⟨_, mem, rfl⟩

/-- No token is told of as left over before the place is reached where one is. -/
theorem Move.untold {s t : Standing} (move : Move s t)
    (untold : s.place ≠ .finish true → leftovers s.reading.errors = []) :
    t.place ≠ .finish true → leftovers t.reading.errors = [] := by
  cases move with
  | @fault place =>
    cases place with
    | finish reported => exact untold
    | _ => exact fun _ => untold nofun
  | trailing | passed => exact fun early => absurd rfl early
  | _ => exact fun _ => untold nofun

theorem Leads.untold {tokens : List Token} {size : Nat} {t : Standing}
    (leads : Leads (.first tokens size) t) :
    t.place ≠ .finish true → leftovers t.reading.errors = [] := by
  induction leads with
  | refl => exact fun _ => rfl
  | tail _ move ih => exact move.untold ih

/-- Parentheses are open until they are told of. Once one has been told of, nothing is taken any
more: the token at which its group got stuck is one at which all groups around it are stuck. -/
inductive Tracked (tokens : List Token) : Standing → Prop where
  | halted {place : Place} {opened : List Span} {r : Reading} (halted : r.halted = true)
      (early : place ≠ .finish true) (silent : alarms r.errors = []) :
      Tracked tokens ⟨place, opened, r⟩
  | operand {excused : Bool} {r : Reading} {taken : List Token} (running : r.halted = false)
      (split : tokens = taken ++ r.rest) (silent : alarms r.errors = []) :
      Tracked tokens ⟨.operand excused, unclosed taken, r⟩
  | sign {opened : List Span} {r : Reading} (taken : List Token) (running : r.halted = false)
      (split : tokens = taken ++ r.rest)
      (still : unclosed taken = (alarms r.errors).reverse ++ opened)
      (stuck : alarms r.errors ≠ [] → isStuck r.peek.kind = true) :
      Tracked tokens ⟨.sign, opened, r⟩
  | complete {r : Reading} {taken : List Token} (running : r.halted = false)
      (split : tokens = taken ++ r.rest)
      (still : unclosed taken = (alarms r.errors).reverse) (sound : isFault r.peek.kind = false) :
      Tracked tokens ⟨.finish false, [], r⟩
  | leftover {r : Reading} {taken after : List Token} {token : Token} (running : r.halted = false)
      (split : tokens = taken ++ token :: after)
      (still : unclosed taken = (alarms r.errors).reverse)
      (told : leftovers r.errors = [token]) :
      Tracked tokens ⟨.finish true, [], r⟩

namespace Tracked

variable {tokens taken more rest : List Token} {opened : List Span} {r r' : Reading}

/-- Tokens that are no parentheses are taken, and no parenthesis is told of. -/
theorem read (split : tokens = taken ++ r.rest) (silent : alarms r.errors = [])
    (at_ : r.At more rest) (after : r'.At [] rest)
    (marks : ∀ token ∈ more, isMark token.kind = true)
    (same : alarms r'.errors = alarms r.errors) : Tracked tokens ⟨.sign, unclosed taken, r'⟩ := by
  refine .sign (taken ++ more) after.running ?_ ?_ ?_
  · rw [split, at_.takes after, List.append_assoc]
  · rw [unclosed_append_marks marks, same, silent]
    rfl
  · rw [same, silent]
    exact absurd rfl

/-- After a token at which a group goes on or ends: no parenthesis had been told of. -/
theorem silent_of_goesOn {token : Token} (at_ : r.At [token] rest)
    (goesOn : isStuck token.kind = false)
    (stuck : alarms r.errors ≠ [] → isStuck r.peek.kind = true) : alarms r.errors = [] := by
  by_contra some
  have isStuck := stuck some
  rw [at_.peek, goesOn] at isStuck
  cases isStuck

/-- A token is taken. -/
theorem split_concat {token : Token} (split : tokens = taken ++ r.rest) (at_ : r.At [token] rest) :
    tokens = (taken ++ [token]) ++ r.bump.rest := by
  rw [split, at_.takes at_.bump, List.append_assoc]

theorem step {s t : Standing} (tracked : Tracked tokens s) (move : Move s t)
    (untold : s.place ≠ .finish true → leftovers s.reading.errors = []) : Tracked tokens t := by
  cases tracked with
  | halted halted early silent =>
    have stopped {taken rest : List Token} {r : Reading} (halted : r.halted = true) :
        ¬ r.At taken rest := fun at_ => by
      have running := at_.running
      rw [halted] at running
      cases running
    cases move with
    | excused | abandoned | complete => exact .halted halted nofun silent
    | expected running | unclosed running =>
      rw [halted] at running
      cases running
    | fault at_ | contains at_ | broken at_ | missing at_ | tooLong at_ | opening at_ | tooDeep at_
    | unknown at_ | unknownWithText at_ | stray at_ | sign at_ | closing at_ | trailing at_
    | passed at_ => exact absurd at_ (stopped halted)
  | @operand _ r taken running split silent =>
    have here : r.At [] r.rest := ⟨running, rfl⟩
    cases move with
    | @fault _ _ _ fault span _ at_ =>
      have still : unclosed (taken ++ [⟨.invalid fault, span⟩]) = unclosed taken :=
        unclosed_append_marks (by simp [isMark])
      rw [← still]
      exact .operand at_.running (split_concat split at_) ((alarms_other (by nofun)).trans silent)
    | excused => exact read split silent here here (by simp) rfl
    | expected => exact read split silent here (here.report _ _) (by simp) (alarms_other (by nofun))
    | contains at_ => exact read split silent at_ at_.pastField.bump (by simp [isMark]) rfl
    | broken at_ =>
      exact read split silent at_ (at_.pastField.bump.report _ _) (by simp [isMark])
        (alarms_other (by nofun))
    | missing at_ =>
      exact read split silent at_ (at_.pastField.report _ _) (by simp [isMark])
        (alarms_other (by nofun))
    | tooLong | tooDeep =>
      exact .halted rfl nofun ((alarms_other (by nofun)).trans silent)
    | @opening _ _ _ span _ at_ =>
      have more : unclosed (taken ++ [⟨.openParen, span⟩]) = span :: unclosed taken :=
        unclosed_concat _ _
      rw [← more]
      exact .operand at_.running (split_concat split at_) silent
    | unknown at_ =>
      exact read split silent at_ (at_.bump.report _ _) (by simp [isMark]) (alarms_other (by nofun))
    | unknownWithText at_ =>
      exact read split silent at_ (at_.bump.report _ _).bump (by simp [isMark])
        (alarms_other (by nofun))
    | stray at_ =>
      exact read split silent at_ (at_.bump.report _ _) (by simp [isMark]) (alarms_other (by nofun))
  | @sign opened r taken running split still stuck =>
    cases move with
    | @fault _ _ _ fault span _ at_ =>
      have silent := silent_of_goesOn at_ rfl stuck
      rw [silent, List.reverse_nil, List.nil_append] at still
      rw [← still]
      exact read split silent at_ (at_.bump.report _ _) (by simp [isMark]) (alarms_other (by nofun))
    | @sign _ _ kind span _ at_ isSign =>
      have noParen : isMark kind = true ∧ isStuck kind = false := by
        rcases isSign with rfl | rfl <;> exact ⟨rfl, rfl⟩
      have silent := silent_of_goesOn at_ noParen.2 stuck
      rw [silent, List.reverse_nil, List.nil_append] at still
      have same : unclosed (taken ++ [⟨kind, span⟩]) = opened :=
        (unclosed_append_marks (by simpa using noParen.1)).trans still
      rw [← same]
      exact .operand at_.running (split_concat split at_) silent
    | @closing opening opened _ span _ at_ =>
      have silent := silent_of_goesOn at_ rfl stuck
      refine .sign _ at_.running (split_concat split at_) ?_ fun some => absurd silent some
      rw [unclosed_concat, still, show r.bump.errors = r.errors from rfl, silent]
      rfl
    | @unclosed opening opened _ running stuckHere =>
      refine .sign taken running split ?_ fun _ => stuckHere
      rw [still, show (r.report .unclosedParen opening).errors = _ :: r.errors from rfl,
        alarms_unclosed, List.reverse_cons, List.append_assoc]
      rfl
    | abandoned halted =>
      rw [running] at halted
      cases halted
    | complete sound =>
      rw [List.append_nil] at still
      exact .complete running split still sound
  | @complete r taken running split still sound =>
    cases move with
    | fault at_ =>
      rw [at_.peek] at sound
      cases sound
    | @trailing _ kind span _ at_ =>
      have told : leftovers (⟨.trailing kind, span⟩ :: r.errors) = [⟨kind, span⟩] :=
        congrArg (⟨kind, span⟩ :: ·) (untold nofun)
      refine .leftover at_.running (split.trans (congrArg _ at_.here)) ?_ told
      exact still.trans (congrArg _ (alarms_other (by nofun)).symm)
  | @leftover r taken after token running split still told =>
    cases move with
    | fault at_ =>
      refine .leftover at_.running split ?_ told
      exact still.trans (congrArg _ (alarms_other (by nofun)).symm)
    | passed at_ => exact .leftover at_.running split still told

end Tracked

theorem Leads.tracked {tokens : List Token} {size : Nat} {t : Standing}
    (leads : Leads (.first tokens size) t) : Tracked tokens t := by
  induction leads with
  | refl =>
    have start : Tracked tokens ⟨.operand false, unclosed [], .start tokens size⟩ :=
      .operand rfl rfl rfl
    exact start
  | tail leads move ih => exact ih.step move (Leads.untold leads)

/-- What is told in the end. What stands `before` the first token that is left over is taken. -/
theorem Tracked.told {tokens : List Token} {reported : Bool} {r : Reading}
    (tracked : Tracked tokens ⟨.finish reported, [], r⟩) (done : r.rest = [])
    (untold : reported = false → leftovers r.errors = []) :
    ∃ before after, tokens = before ++ after ∧ leftovers r.errors = after.take 1 ∧
      (alarms r.errors).reverse = if r.halted then [] else unclosed before := by
  cases tracked with
  | halted halted early silent =>
    refine ⟨tokens, [], (List.append_nil _).symm, untold ?_, ?_⟩
    · cases reported with
      | false => rfl
      | true => exact absurd rfl early
    · rw [silent, halted]
      rfl
  | @complete _ taken running split still =>
    refine ⟨taken, [], ?_, untold rfl, ?_⟩
    · rw [done] at split
      exact split
    · rw [running]
      exact still.symm
  | leftover running split still told =>
    refine ⟨_, _, split, told, ?_⟩
    rw [running]
    exact still.symm

/-- A parenthesis is told of as not closed exactly if it is left open by the tokens before the first
one that is told of as left over, and no limit is hit. None is told of twice. So one that is closed
is told of only if its closing parenthesis comes after a token that is told of as left over. -/
theorem parse_tells_unclosed {text : String} {errors : List ParseError}
    (rejected : parse text = .error errors) :
    (alarms errors).Nodup ∧
      (∀ span, ⟨.unclosedParen, span⟩ ∈ errors →
        LeftOpen (sentence text) span ∨ ∃ kind place, ⟨.trailing kind, place⟩ ∈ errors) ∧
      ∃ before after, sentence text = before ++ after ∧
        (∀ kind span, ⟨.trailing kind, span⟩ ∈ errors ↔ after.head? = some ⟨kind, span⟩) ∧
        ∀ span, ⟨.unclosedParen, span⟩ ∈ errors ↔
          LeftOpen before span ∧ ∀ error ∈ errors, error.kind.isLimit = false := by
  by_cases nothing : sentence text = []
  · rw [parse_blank nothing] at rejected
    cases rejected
    refine ⟨.nil, by simp, [], [], nothing, by simp, fun span => iff_of_false (by simp) ?_⟩
    rintro ⟨⟨before, after, split, _⟩, _⟩
    simp at split
  · obtain ⟨reported, final, leads, done, rfl⟩ := parse_leads rejected nothing
    have placed := sentence_placed text
    obtain ⟨before, after, split, left, open_⟩ := (Leads.tracked leads).told done fun early =>
      Leads.untold leads (by rw [early]; nofun)
    have trailing (kind : Token.Kind) (span : Span) :
        ⟨.trailing kind, span⟩ ∈ final.errors.reverse ↔ after.head? = some ⟨kind, span⟩ := by
      rw [List.mem_reverse, ← mem_leftovers_iff, left]
      cases after with
      | nil => simp
      | cons token after => simp [eq_comm]
    have unclosed_iff (span : Span) : ⟨.unclosedParen, span⟩ ∈ final.errors.reverse ↔
        LeftOpen before span ∧ ∀ error ∈ final.errors.reverse, error.kind.isLimit = false := by
      rw [List.mem_reverse, ← mem_alarms_iff, ← List.mem_reverse, open_]
      obtain ⟨_, _, going | ended⟩ := leads.told placed
      · have noLimit : ∀ error ∈ final.errors.reverse, error.kind.isLimit = false :=
          fun error mem => going.noLimit error (List.mem_reverse.1 mem)
        rw [going.running, and_iff_left noLimit]
        exact mem_unclosed_iff
      · obtain ⟨token, _, limit, earlier, _, errors, isLimit, _⟩ := ended.limit
        rw [ended.halted]
        refine iff_of_false List.not_mem_nil fun both => ?_
        have told : ⟨limit, token.span⟩ ∈ final.errors := errors ▸ List.mem_cons_self
        have noLimit := both.2 _ (List.mem_reverse.2 told)
        dsimp only at noLimit
        rw [isLimit] at noLimit
        cases noLimit
    refine ⟨?_, fun span told => ?_, before, after, split, trailing, unclosed_iff⟩
    · rw [alarms_reverse, open_]
      split
      · exact .nil
      · have ordered := placed.ordered
        rw [split, List.pairwise_append] at ordered
        exact unclosed_nodup ordered.1
    · have leftOpen := ((unclosed_iff span).1 told).1
      cases after with
      | nil =>
        rw [split, List.append_nil]
        exact .inl leftOpen
      | cons token after => exact .inr ⟨token.kind, token.span, (trailing _ _).2 rfl⟩

/-- Of two parentheses the outer one is not closed. -/
theorem parse_tells_unclosed_outer :
    parse "(TITLE \"x\" AND (TITLE \"y\")" = .error [⟨.unclosedParen, ⟨0, 1⟩⟩] ∧
      LeftOpen (sentence "(TITLE \"x\" AND (TITLE \"y\")") ⟨0, 1⟩ := by
  have rejected : parse "(TITLE \"x\" AND (TITLE \"y\")" = .error [⟨.unclosedParen, ⟨0, 1⟩⟩] := by
    decide +kernel
  refine ⟨rejected, ?_⟩
  rcases (parse_tells_unclosed rejected).2.1 ⟨0, 1⟩ List.mem_cons_self with left | ⟨_, _, mem⟩
  · exact left
  · simp at mem

/-- A missing sign makes the parser tell of a parenthesis that is closed further on. -/
theorem parse_tells_closed :
    parse "(TITLE \"x\" TITLE \"y\")" =
        .error [⟨.unclosedParen, ⟨0, 1⟩⟩, ⟨.trailing (.field .title), ⟨11, 16⟩⟩] ∧
      ¬ LeftOpen (sentence "(TITLE \"x\" TITLE \"y\")") ⟨0, 1⟩ := by
  decide +kernel

end SmartCollections.Predicate
