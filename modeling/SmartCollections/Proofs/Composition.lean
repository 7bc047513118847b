import SmartCollections.Predicate.Evaluation
import SmartCollections.Proofs.Concatenation
import SmartCollections.Proofs.Respelling

/-!
# Expressions put together

What stands before a text does not matter to how it is read: after an expression and an operator
the parser makes the moves that it makes on the text alone, further on in the text, as long as there
are not too many keywords in both. So an expression with `OR` and a faulty text after it has the
faults of that text, and two expressions with an operator between them are an expression.
-/

namespace SmartCollections.Predicate

/-- The reading of the same tokens, so many bytes and so many keywords further on. -/
def Reading.moved (bytes before : Nat) (r : Reading) : Reading where
  rest := r.rest.map (Token.moved bytes)
  size := r.size + bytes
  operands := r.operands + before
  halted := r.halted
  errors := r.errors.map (ParseError.moved bytes)

def Standing.moved (bytes before : Nat) (s : Standing) : Standing :=
  ⟨s.place, s.opened.map (Span.moved bytes), s.reading.moved bytes before⟩

/-- The number of keywords that have been read or are still to be read. -/
def Reading.keywords (r : Reading) : Nat := r.operands + fields r.rest

theorem respelt_id (kind : Token.Kind) : kind.respelt id = kind := by cases kind <;> rfl

/-- To move is to spell the places differently, and nothing else. -/
theorem Standing.moved_eq (bytes before : Nat) (s : Standing) :
    s.moved bytes before = s.respelt id (· + bytes) before := by
  have tokens : Token.moved bytes = Token.respelt id (· + bytes) := by
    funext token
    rw [Token.respelt, respelt_id]
    rfl
  have errors : ParseError.moved bytes = ParseError.respelt id (· + bytes) := by
    funext ⟨kind, span⟩
    cases kind <;> simp only [ParseError.respelt, ParseError.Kind.respelt, respelt_id] <;> rfl
  rw [Standing.moved, Reading.moved, tokens, errors]
  rfl

namespace Reading

variable {r : Reading} {tokens rest : List Token}

theorem fields_pos (field : isField r.peek.kind = true) : 0 < fields r.rest := by
  rw [peek_kind] at field
  cases here : r.rest with
  | nil =>
    rw [here] at field
    cases field
  | cons token rest =>
    rw [here] at field
    exact List.countP_pos_iff.2 ⟨token.kind, List.mem_cons_self, field⟩

theorem At.keywords_le {r' : Reading} (at_ : r.At tokens rest) (after : r'.At [] rest)
    (same : r'.operands = r.operands) : r'.keywords ≤ r.keywords := by
  rw [keywords, keywords, at_.takes after, fields_append, same]
  omega

theorem At.keywords_field_le {r' : Reading} {field : Field} {span : Span}
    (at_ : r.At (⟨.field field, span⟩ :: tokens) rest) (after : r'.At [] rest)
    (one : r'.operands = r.operands + 1) : r'.keywords ≤ r.keywords := by
  rw [keywords, keywords, at_.takes after, fields_append, fields_field, one]
  omega

end Reading

/-- No move adds keywords. -/
theorem Move.keywords_le {s t : Standing} (move : Move s t) :
    t.reading.keywords ≤ s.reading.keywords := by
  cases move with
  | excused | expected | unclosed | abandoned | complete => exact Nat.le_refl _
  | fault at_ | unknown at_ | stray at_ | trailing at_ =>
    exact at_.keywords_le (at_.bump.report _ _) rfl
  | opening at_ | sign at_ | closing at_ | passed at_ => exact at_.keywords_le at_.bump rfl
  | unknownWithText at_ => exact at_.keywords_le (at_.bump.report _ _).bump rfl
  | contains at_ => exact at_.keywords_field_le at_.pastField.bump rfl
  | broken at_ => exact at_.keywords_field_le (at_.pastField.bump.report _ _) rfl
  | missing at_ => exact at_.keywords_field_le (at_.pastField.report _ _) rfl
  | tooLong | tooDeep => exact Nat.add_le_add_left (Nat.zero_le _) _

/-- What can be done at the start of a text can be done further on, if there are not too many
keywords in all. -/
theorem Move.moved {s t : Standing} (move : Move s t) (bytes : Nat) {before : Nat}
    (few : s.reading.keywords + before ≤ maxOperands) :
    Move (s.moved bytes before) (t.moved bytes before) := by
  rw [Standing.moved_eq, Standing.moved_eq]
  refine move.respelt id (· + bytes) fun field => ?_
  -- neither reading is at its limit, as this keyword is still to be read
  have more := Reading.fields_pos field
  rw [Reading.keywords] at few
  omega

theorem Leads.moved {s t : Standing} (leads : Leads s t) (bytes : Nat) {before : Nat}
    (few : s.reading.keywords + before ≤ maxOperands) :
    Leads (s.moved bytes before) (t.moved bytes before) := by
  -- the keywords never become more, so there is room for all of them at every move
  have each : Leads (s.moved bytes before) (t.moved bytes before) ∧
      t.reading.keywords ≤ s.reading.keywords := by
    induction leads with
    | refl => exact ⟨.refl, Nat.le_refl _⟩
    | tail _ move ih =>
      obtain ⟨leads, fewer⟩ := ih
      exact ⟨leads.tail (move.moved bytes ((Nat.add_le_add_right fewer _).trans few)),
        move.keywords_le.trans fewer⟩
  exact each.1

theorem leads_join {opened : List Span} {r : Reading} {first second rest : List Token}
    {token : Token} (isSign : token.kind = .and ∨ token.kind = .or)
    (at_ : r.At (first ++ token :: second) rest)
    (left : Leads ⟨.operand false, opened, r⟩
      ⟨.sign, opened, r.past first (token :: second ++ rest)⟩)
    (right : ∀ later : Reading, later.At second rest → later.operands = r.operands + fields first →
      Leads ⟨.operand false, opened, later⟩ ⟨.sign, opened, later.past second rest⟩) :
    Leads ⟨.operand false, opened, r⟩ ⟨.sign, opened, r.past (first ++ token :: second) rest⟩ := by
  have plain : isPlain token.kind = true := by rcases isSign with h | h <;> rw [h] <;> rfl
  have there : (r.past first (token :: second ++ rest)).At [token] (second ++ rest) :=
    ⟨at_.running, rfl⟩
  have goesOn : Move ⟨.sign, opened, r.past first (token :: second ++ rest)⟩
      ⟨.operand false, opened, (r.past first (token :: second ++ rest)).bump⟩ := .sign there isSign
  have onward := right (r.past first (token :: second ++ rest)).bump ⟨at_.running, rfl⟩ rfl
  rw [r.past_join plain] at onward
  exact (left.tail goesOn).trans onward

/-- A phrase within the limits is passed without a fault, whatever comes after it. -/
theorem Derives.leads {level : Level} {kinds : List Token.Kind} {tree : Predicate}
    (derives : Derives level kinds tree) {tokens rest : List Token}
    (spelt : tokens.map Token.kind = kinds) {opened : List Span} {r : Reading}
    (at_ : r.At tokens rest) {room : Nat} (shallow : Shallow room kinds)
    (deep : opened.length + room ≤ maxDepth) (few : r.operands + fields tokens ≤ maxOperands) :
    Leads ⟨.operand false, opened, r⟩ ⟨.sign, opened, r.past tokens rest⟩ := by
  induction derives generalizing tokens rest opened r room with
  | term _ ih => exact ih spelt at_ shallow deep few
  | factor _ ih => exact ih spelt at_ shallow deep few
  | or before _ ihLeft ihRight | and before _ ihLeft ihRight =>
    obtain ⟨first, token, second, rfl, hfirst, htoken, hsecond⟩ := split_at_sign spelt
    obtain ⟨shallowLeft, shallowRight⟩ := (Shallow.join_iff before.closed rfl).1 shallow
    rw [fields_append, fields_plain (by rw [htoken]; rfl)] at few
    refine leads_join (by simp [htoken]) at_ ?_ fun later here operands => ?_
    · refine ihLeft hfirst ⟨at_.running, ?_⟩ shallowLeft deep (by omega)
      rw [at_.here, List.append_assoc]
    · exact ihRight hsecond here shallowRight deep (by omega)
  | contains field text =>
    obtain ⟨place, span, rfl⟩ := split_match spelt
    rw [fields_field] at few
    have past : r.pastField.bump = r.past [⟨.field field, place⟩, ⟨.literal text, span⟩] rest := by
      have here : r.pastField.bump.rest = rest := at_.pastField.bump.here
      rw [Reading.past, ← here]
      rfl
    rw [← past]
    exact .single (.contains at_ (by omega))
  | group inner ih =>
    obtain ⟨opening, tokens, closing, rfl, htokens⟩ := split_group spelt
    obtain ⟨room, rfl, within⟩ := (Shallow.group_iff inner.closed).1 shallow
    rw [fields_group] at few
    have first : r.At [⟨.openParen, opening⟩]
        (tokens ++ ⟨.closeParen, closing⟩ :: rest) := ⟨at_.running, by simp [at_.here]⟩
    have opens : Move ⟨.operand false, opened, r⟩
        ⟨.operand false, opening :: opened, r.bump⟩ := .opening first (by omega)
    have deeper : (opening :: opened).length + room ≤ maxDepth := by
      rw [List.length_cons]
      omega
    have content : r.bump.At tokens (⟨.closeParen, closing⟩ :: rest) :=
      ⟨at_.running, first.bump.here⟩
    have inside := ih htokens content within deeper few
    have last : (r.bump.past tokens (⟨.closeParen, closing⟩ :: rest)).At
        [⟨.closeParen, closing⟩] rest := ⟨at_.running, rfl⟩
    have closed := inside.tail (.closing last)
    have past : (r.bump.past tokens (⟨.closeParen, closing⟩ :: rest)).bump =
        r.past (⟨.openParen, opening⟩ :: tokens ++ [⟨.closeParen, closing⟩]) rest := by
      rw [Reading.past, Reading.past, fields_group]
      rfl
    rw [past] at closed
    exact .head opens closed

theorem leads_past {tokens : List Token} {tree : Predicate}
    (derives : Derives .expression (tokens.map Token.kind) tree)
    (fits : Fits maxDepth 0 (tokens.map Token.kind)) (rest : List Token) (size : Nat) :
    Leads (.first (tokens ++ rest) size)
      ⟨.sign, [], (Reading.start (tokens ++ rest) size).past tokens rest⟩ := by
  have shallow : ([] : List Span).length + maxDepth ≤ maxDepth := (Nat.zero_add maxDepth).le
  exact derives.leads rfl ⟨rfl, rfl⟩ fits.depth shallow fits.length

theorem eq_error_of_faultsOf {outcome : Except (List ParseError) Predicate}
    {errors : List ParseError} (some : errors ≠ []) (told : faultsOf outcome = errors) :
    outcome = .error errors := by
  cases outcome with
  | ok tree => exact absurd told.symm some
  | error _ => exact congrArg Except.error told

section Join

variable {first second : String} {tree other : Predicate}

/-- The operators lean to the left, so the trees are not simply joined; the meaning is. -/
theorem Derives.or_expression {left right : List Token.Kind}
    (before : Derives .expression left tree) (after : Derives .expression right other) :
    ∃ joined, Derives .expression (left ++ .or :: right) joined ∧
      ∀ caseSensitive item, joined.eval caseSensitive item =
        (tree.eval caseSensitive item || other.eval caseSensitive item) := by
  generalize isExpression : Level.expression = level at after
  induction after with
  | term single => exact ⟨_, .or before single, fun _ _ => rfl⟩
  | or _ last ih =>
    obtain ⟨joined, derives, evals⟩ := ih isExpression
    have more := Derives.or derives last
    rw [List.append_assoc] at more
    refine ⟨_, more, fun caseSensitive item => ?_⟩
    rw [eval, evals, Bool.or_assoc, eval]
  | _ => cases isExpression

theorem parse_or (parsed : parse first = .ok tree) (parsedToo : parse second = .ok other)
    (few : (kinds first).countP isField + (kinds second).countP isField ≤ maxOperands) :
    ∃ joined, parse (first ++ " OR " ++ second) = .ok joined ∧
      ∀ caseSensitive item, joined.eval caseSensitive item =
        (tree.eval caseSensitive item || other.eval caseSensitive item) := by
  obtain ⟨derives, fits⟩ := parse_eq_ok_iff.1 parsed
  obtain ⟨derivesToo, fitsToo⟩ := parse_eq_ok_iff.1 parsedToo
  obtain ⟨joined, derivation, evals⟩ := derives.or_expression derivesToo
  refine ⟨joined, parse_eq_ok_iff.2 ?_, evals⟩
  rw [kinds_or parsed]
  refine ⟨derivation, (Shallow.join_iff derives.closed rfl).2 ⟨fits.depth, fitsToo.depth⟩, ?_⟩
  simpa [isField] using few

theorem parse_and (parsed : parse first = .ok tree) (parsedToo : parse second = .ok other)
    (few : (kinds first).countP isField + (kinds second).countP isField ≤ maxOperands)
    {room : Nat} (deep : room + 1 = maxDepth) (shallow : Shallow room (kinds first))
    (shallowToo : Shallow room (kinds second)) :
    parse ("(" ++ first ++ ") AND (" ++ second ++ ")") = .ok (.and tree other) := by
  have derives := (parse_eq_ok_iff.1 parsed).1
  have derivesToo := (parse_eq_ok_iff.1 parsedToo).1
  rw [parse_eq_ok_iff, kinds_and parsed parsedToo]
  refine ⟨.term (.and (.factor (.group derives)) (.group derivesToo)), ?_, ?_⟩
  · refine (Shallow.join_iff derives.group.closed rfl).2 ⟨?_, ?_⟩
    · exact (Shallow.group_iff derives.closed).2 ⟨room, deep.symm, shallow⟩
    · exact (Shallow.group_iff derivesToo.closed).2 ⟨room, deep.symm, shallowToo⟩
  · simpa [isField] using few

/-- The second half of the text is read as it is read alone, further on. -/
theorem leads_or (parsed : parse first = .ok tree) (second : String) :
    Leads (.first (sentence (first ++ " OR " ++ second)) (first ++ " OR " ++ second).utf8ByteSize)
      ((Standing.first (sentence second) second.utf8ByteSize).moved (first.utf8ByteSize + 4)
        (fields (sentence first))) := by
  obtain ⟨derives, fits⟩ := parse_eq_ok_iff.1 parsed
  have size : (first ++ " OR " ++ second).utf8ByteSize =
      second.utf8ByteSize + (first.utf8ByteSize + 4) := by
    rw [String.utf8ByteSize_append, String.utf8ByteSize_append]
    exact Nat.add_comm _ _
  rw [sentence_or parsed, size]
  exact (leads_past derives fits _ _).tail (.sign ⟨rfl, rfl⟩ (.inr rfl))

/-- The faults of a text are its faults after an expression, further on. -/
theorem parse_or_of_rejected (parsed : parse first = .ok tree) (visible : sentence second ≠ [])
    (few : (kinds first).countP isField + (kinds second).countP isField ≤ maxOperands)
    {errors : List ParseError} (rejected : parse second = .error errors) :
    parse (first ++ " OR " ++ second) =
      .error (errors.map (ParseError.moved (first.utf8ByteSize + 4))) := by
  obtain ⟨reported, final, leads, done, rfl⟩ := parse_leads rejected visible
  have fewer : (Standing.first (sentence second) second.utf8ByteSize).reading.keywords +
      fields (sentence first) ≤ maxOperands := by
    have keywords : (Standing.first (sentence second) second.utf8ByteSize).reading.keywords =
        fields (sentence second) := Nat.zero_add _
    rw [keywords, Nat.add_comm]
    exact few
  have some : sentence (first ++ " OR " ++ second) ≠ [] := by
    rw [sentence_or parsed]
    exact List.append_ne_nil_of_right_ne_nil _ (List.cons_ne_nil _ _)
  have onward : Leads _ ⟨.finish reported, [], final.moved (first.utf8ByteSize + 4) _⟩ :=
    (leads_or parsed second).trans (leads.moved _ fewer)
  -- the parser's own moves end where these do, as no two moves are possible at once
  obtain ⟨_, last, lastLeads, lastDone, told⟩ :=
    ofTokens_leads some (first ++ " OR " ++ second).utf8ByteSize
  have same := Leads.end_unique onward (congrArg (List.map _) done) lastLeads lastDone
  have anyFault : final.errors.reverse.map (ParseError.moved (first.utf8ByteSize + 4)) ≠ [] :=
    mt List.map_eq_nil_iff.1 (parse_error_ne_nil rejected)
  refine eq_error_of_faultsOf anyFault ?_
  rw [parse_eq, ← told, ← same, List.map_reverse]
  rfl

end Join

/-- After an expression and `OR`, an expression is read with its meaning, and a faulty text with its
faults, further on; two expressions in parentheses are joined by `AND` as they are. Together they
may have as many keywords as one expression. -/
theorem parse_composes {first second : String} {tree : Predicate} (parsed : parse first = .ok tree)
    (visible : sentence second ≠ [])
    (few : (kinds first).countP isField + (kinds second).countP isField ≤ 512) :
    (∀ other, parse second = .ok other →
      (∃ joined, parse (first ++ " OR " ++ second) = .ok joined ∧
        ∀ caseSensitive item, joined.eval caseSensitive item =
          (tree.eval caseSensitive item || other.eval caseSensitive item)) ∧
      (Nested 63 first → Nested 63 second →
        parse ("(" ++ first ++ ") AND (" ++ second ++ ")") = .ok (.and tree other))) ∧
    ∀ errors, parse second = .error errors →
      parse (first ++ " OR " ++ second) =
        .error (errors.map (ParseError.moved (first.utf8ByteSize + 4))) := by
  refine ⟨fun other parsedToo => ⟨parse_or parsed parsedToo few, fun nested nestedToo => ?_⟩, ?_⟩
  · exact parse_and parsed parsedToo few rfl (nested_iff.1 nested) (nested_iff.1 nestedToo)
  · exact fun errors rejected => parse_or_of_rejected parsed visible few rejected

/-- The tree after `OR` leans to the left, and a text that leaves a parenthesis open is told of
where it stands, after a letter of two bytes. -/
theorem parse_composes_around :
    let first := "TITLES \"é\" OR GENRE \"b\""
    let tree : Predicate := .or (.contains .title "é") (.contains .genre "b")
    let second := "actor \"c\" || (STUDIO \"d\")"
    let other : Predicate := .or (.contains .actor "c") (.contains .studio "d")
    let joined : Predicate := .or (.or tree (.contains .actor "c")) (.contains .studio "d")
    let faulty := "(ACTOR ! OR"
    parse (first ++ " OR " ++ second) = .ok joined ∧
    (∀ caseSensitive item, joined.eval caseSensitive item =
      (tree.eval caseSensitive item || other.eval caseSensitive item)) ∧
    parse ("(" ++ first ++ ") AND (" ++ second ++ ")") = .ok (.and tree other) ∧
    parse (first ++ " OR " ++ faulty) = .error [⟨.lexical (.unexpectedChar '!'), ⟨35, 36⟩⟩,
      ⟨.expectedField .eof, ⟨39, 39⟩⟩, ⟨.unclosedParen, ⟨28, 29⟩⟩] := by
  intro first tree second other joined faulty
  have parsed : parse first = .ok tree := by decide +kernel
  have parsedToo : parse second = .ok other := by decide +kernel
  have rejected : parse faulty = .error [⟨.lexical (.unexpectedChar '!'), ⟨7, 8⟩⟩,
      ⟨.expectedField .eof, ⟨11, 11⟩⟩, ⟨.unclosedParen, ⟨0, 1⟩⟩] := by decide +kernel
  have leans : parse (first ++ " OR " ++ second) = .ok joined := by decide +kernel
  obtain ⟨⟨found, composed, evals⟩, joins⟩ :=
    (parse_composes parsed (by decide +kernel) (by decide +kernel)).1 other parsedToo
  have same : found = joined := Except.ok.inj (composed.symm.trans leans)
  exact ⟨leans, same ▸ evals, joins (by decide +kernel) (by decide +kernel),
    (parse_composes parsed (by decide +kernel) (by decide +kernel)).2 _ rejected⟩

end SmartCollections.Predicate
