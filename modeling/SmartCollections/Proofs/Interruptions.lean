import Mathlib.Data.List.Chain
import SmartCollections.Proofs.Diagnostics

/-!
# Lexical faults between the tokens of an expression

The parser reads an expression in the same way with lexical faults scattered over it and without
them: it steps over them at every place, and tells of nothing else. The exception is the place after
a keyword. A fault that stands there is taken for the literal that the keyword needs, and the
literal is left over.
-/

namespace SmartCollections.Predicate

/-- The kinds of the tokens that are no lexical faults. -/
def soundKinds (tokens : List Token) : List Token.Kind :=
  (tokens.map Token.kind).filter (!isFault ·)

/-- No keyword is directly followed by a lexical fault. -/
def Tight (tokens : List Token) : Prop :=
  tokens.IsChain fun keyword next => isField keyword.kind = true → isFault next.kind = false

instance (tokens : List Token) : Decidable (Tight tokens) :=
  inferInstanceAs (Decidable (tokens.IsChain _))

section Tokens

variable {tokens rest : List Token} {kind : Token.Kind} {kinds : List Token.Kind} {token : Token}

theorem soundKinds_fault (fault : isFault token.kind = true) :
    soundKinds (token :: rest) = soundKinds rest := by
  rw [soundKinds, List.map_cons, List.filter_cons, fault]
  rfl

theorem soundKinds_sound (sound : isFault token.kind = false) :
    soundKinds (token :: rest) = token.kind :: soundKinds rest := by
  rw [soundKinds, List.map_cons, List.filter_cons, sound]
  rfl

/-- What stands first, apart from faults, stands first. -/
theorem soundKinds_eq_cons (spelt : soundKinds tokens = kind :: kinds)
    (sound : isFault (headKind tokens) = false) :
    ∃ span rest, tokens = ⟨kind, span⟩ :: rest ∧ soundKinds rest = kinds := by
  cases tokens with
  | nil => cases spelt
  | cons token rest =>
    rw [soundKinds_sound sound] at spelt
    cases spelt
    exact ⟨token.span, rest, rfl, rfl⟩

theorem soundKinds_eq_nil (spelt : soundKinds tokens = [])
    (sound : isFault (headKind tokens) = false) : tokens = [] := by
  cases tokens with
  | nil => rfl
  | cons token rest =>
    rw [soundKinds_sound sound] at spelt
    cases spelt

theorem Tight.tail (tight : Tight (token :: rest)) : Tight rest := List.IsChain.tail tight

theorem Tight.head (tight : Tight (token :: rest)) (field : isField token.kind = true) :
    isFault (headKind rest) = false := by
  cases rest with
  | nil => rfl
  | cons next rest => exact (List.isChain_cons_cons.1 tight).1 field

end Tokens

theorem Place.of_excuse_operand {place : Place} {excused : Bool}
    (same : place.excuse = (operand excused).excuse) : ∃ excused, place = .operand excused := by
  cases place with
  | operand excused => exact ⟨excused, rfl⟩
  | _ => cases same

theorem Place.of_excuse {place other : Place} (same : place.excuse = other.excuse)
    (noOperand : ∀ excused, other ≠ .operand excused) : place = other := by
  cases other with
  | operand excused => exact absurd rfl (noOperand excused)
  | _ =>
    cases place with
    | operand => cases same
    | _ => exact same

/-- The second standing is what becomes of the first one, at which nothing has been told, if lexical
faults stand between the tokens. -/
structure Muffled (clean noisy : Standing) : Prop where
  place : noisy.place.excuse = clean.place.excuse
  calm : clean.place ≠ .operand true ∧ clean.place ≠ .finish true
  opened : noisy.opened.length = clean.opened.length
  operands : noisy.reading.operands = clean.reading.operands
  running : clean.reading.halted = false ∧ noisy.reading.halted = false
  kinds : soundKinds noisy.reading.rest = clean.reading.rest.map Token.kind
  tight : Tight noisy.reading.rest
  lexical : ∀ error ∈ noisy.reading.errors, error.kind.isLexical = true

namespace Muffled

variable {clean noisy : Standing}

/-- The faults that come next are stepped over. -/
theorem settle (muffled : Muffled clean noisy) :
    ∃ place r, Leads noisy ⟨place, noisy.opened, r⟩ ∧ Muffled clean ⟨place, noisy.opened, r⟩ ∧
      isFault r.peek.kind = false := by
  obtain ⟨place, opened, r⟩ := noisy
  induction here : r.rest generalizing place r with
  | nil =>
    refine ⟨place, r, .refl, muffled, ?_⟩
    rw [peek_kind, here]
    rfl
  | cons token rest ih =>
    have at_ : r.At [token] rest := ⟨muffled.running.2, here⟩
    cases fault : isFault token.kind with
    | false =>
      refine ⟨place, r, .refl, muffled, ?_⟩
      rw [at_.peek]
      exact fault
    | true =>
      obtain ⟨kind, span⟩ := token
      cases kind with
      | invalid lexical =>
        have next : Move ⟨place, opened, r⟩
            ⟨place.excuse, opened, r.bump.report (.lexical lexical) span⟩ := .fault at_
        have rest_eq : (r.bump.report (.lexical lexical) span).rest = rest :=
          (at_.bump.report _ _).here
        have kinds : soundKinds r.rest = clean.reading.rest.map Token.kind := muffled.kinds
        have tight : Tight r.rest := muffled.tight
        rw [here] at kinds tight
        have after : Muffled clean
            ⟨place.excuse, opened, r.bump.report (.lexical lexical) span⟩ := by
          refine ⟨?_, muffled.calm, muffled.opened, muffled.operands, muffled.running, ?_, ?_, ?_⟩
          · rw [← muffled.place]
            cases place <;> rfl
          · rw [rest_eq, ← kinds, soundKinds_fault fault]
          · rw [rest_eq]
            exact tight.tail
          · exact List.forall_mem_cons.2 ⟨rfl, muffled.lexical⟩
        obtain ⟨placeThen, final, leads, settled, sound⟩ := ih _ _ after rest_eq
        exact ⟨placeThen, final, .head next leads, settled, sound⟩
      | _ => cases fault

/-- Without faults before it, the next token is the same. -/
theorem next {token : Token} {tokens rest : List Token} (muffled : Muffled clean noisy)
    (sound : isFault noisy.reading.peek.kind = false)
    (at_ : clean.reading.At (token :: tokens) rest) :
    ∃ span others, noisy.reading.At [⟨token.kind, span⟩] others ∧
      soundKinds others = (tokens ++ rest).map Token.kind ∧ Tight others ∧
      (isField token.kind = true → isFault (headKind others) = false) := by
  have spelt : soundKinds noisy.reading.rest = token.kind :: (tokens ++ rest).map Token.kind := by
    rw [muffled.kinds, at_.here]
    rfl
  rw [peek_kind] at sound
  obtain ⟨span, others, here, kinds⟩ := soundKinds_eq_cons spelt sound
  have tight := muffled.tight
  rw [here] at tight
  exact ⟨span, others, ⟨muffled.running.2, here⟩, kinds, tight.tail, tight.head⟩

/-- With faults or without them, the same kind of token comes next, as long as it is none. -/
theorem peek_eq (muffled : Muffled clean noisy)
    (sound : isFault noisy.reading.peek.kind = false) :
    noisy.reading.peek.kind = clean.reading.peek.kind := by
  have spelt := muffled.kinds
  rw [peek_kind] at sound ⊢
  rw [peek_kind]
  cases here : clean.reading.rest with
  | nil =>
    rw [here] at spelt
    rw [soundKinds_eq_nil spelt sound]
  | cons token rest =>
    rw [here] at spelt
    obtain ⟨span, others, same, _⟩ := soundKinds_eq_cons spelt sound
    rw [same]
    rfl

theorem advance {place : Place} {opened noisyOpened : List Span} {clean noisy : Reading}
    {rest others : List Token} (at_ : clean.At [] rest) (noisyAt : noisy.At [] others)
    (kinds : soundKinds others = rest.map Token.kind) (tight : Tight others)
    (calm : place ≠ .operand true ∧ place ≠ .finish true)
    (sameDepth : noisyOpened.length = opened.length) (operands : noisy.operands = clean.operands)
    (lexical : ∀ error ∈ noisy.errors, error.kind.isLexical = true) :
    Muffled ⟨place, opened, clean⟩ ⟨place, noisyOpened, noisy⟩ := by
  refine ⟨rfl, calm, sameDepth, operands, ⟨at_.running, noisyAt.running⟩, ?_, ?_, lexical⟩
  · rw [noisyAt.here, at_.here]
    exact kinds
  · rw [noisyAt.here]
    exact tight

/-- What is done without telling of anything can be done with faults between the tokens. -/
theorem step {s t : Standing} (muffled : Muffled s noisy) (move : Move s t)
    (silent : t.reading.errors = []) : ∃ m, Leads noisy m ∧ Muffled t m := by
  obtain ⟨_, opened, _⟩ := noisy
  obtain ⟨place, r, settles, muffled, sound⟩ := muffled.settle
  suffices onward : ∃ m, Leads ⟨place, opened, r⟩ m ∧ Muffled t m by
    obtain ⟨m, leads, after⟩ := onward
    exact ⟨m, settles.trans leads, after⟩
  cases move with
  | fault | expected | broken | missing | tooLong | tooDeep | unknown | unknownWithText | stray
  | unclosed | trailing => exact absurd silent (List.cons_ne_nil _ _)
  | excused => exact absurd rfl muffled.calm.1
  | passed => exact absurd rfl muffled.calm.2
  | abandoned halted =>
    have running := muffled.running.1
    rw [halted] at running
    cases running
  | @contains _ _ _ field _ text _ _ at_ room =>
    obtain ⟨excused, rfl⟩ := Place.of_excuse_operand muffled.place
    obtain ⟨place, others, here, kinds, tight, sound⟩ := muffled.next sound at_
    obtain ⟨span, others, rfl, later⟩ := soundKinds_eq_cons kinds (sound rfl)
    have both : r.At [⟨.field field, place⟩, ⟨.literal text, span⟩] others :=
      ⟨here.running, here.here⟩
    have few : r.operands ≠ maxOperands := muffled.operands.trans_ne room
    exact ⟨_, .single (.contains both few), .advance at_.pastField.bump both.pastField.bump later
      tight.tail ⟨nofun, nofun⟩ muffled.opened (congrArg (· + 1) muffled.operands)
      muffled.lexical⟩
  | opening at_ room =>
    obtain ⟨excused, rfl⟩ := Place.of_excuse_operand muffled.place
    obtain ⟨span, others, here, kinds, tight, _⟩ := muffled.next sound at_
    have shallow : opened.length < maxDepth := muffled.opened.trans_lt room
    exact ⟨_, .single (.opening here shallow), .advance at_.bump here.bump kinds tight
      ⟨nofun, nofun⟩ (congrArg (· + 1) muffled.opened) muffled.operands muffled.lexical⟩
  | sign at_ isSign =>
    obtain rfl := Place.of_excuse muffled.place nofun
    obtain ⟨span, others, here, kinds, tight, _⟩ := muffled.next sound at_
    exact ⟨_, .single (.sign here isSign), .advance at_.bump here.bump kinds tight
      ⟨nofun, nofun⟩ muffled.opened muffled.operands muffled.lexical⟩
  | closing at_ =>
    obtain rfl := Place.of_excuse muffled.place nofun
    obtain ⟨span, others, here, kinds, tight, _⟩ := muffled.next sound at_
    obtain ⟨opening, opened, rfl⟩ := List.exists_cons_of_length_eq_add_one muffled.opened
    exact ⟨_, .single (.closing here), .advance at_.bump here.bump kinds tight
      ⟨nofun, nofun⟩ (Nat.succ.inj muffled.opened) muffled.operands muffled.lexical⟩
  | complete atEnd noSign =>
    obtain rfl := Place.of_excuse muffled.place nofun
    obtain rfl := List.length_eq_zero_iff.1 muffled.opened
    have same := muffled.peek_eq sound
    have running := muffled.running
    refine ⟨_, .single (.complete sound ?_), .advance ⟨running.1, rfl⟩ ⟨running.2, rfl⟩
      muffled.kinds muffled.tight ⟨nofun, nofun⟩ rfl muffled.operands muffled.lexical⟩
    rw [same]
    exact noSign

end Muffled

/-- What has been told stays told. -/
theorem Move.errors_suffix {s t : Standing} (move : Move s t) :
    s.reading.errors <:+ t.reading.errors := by
  rcases move.effect with ⟨_, told, tells⟩ | ⟨_, _, halts⟩
  · rw [tells.errors]
    exact List.suffix_append _ _
  · rw [halts.reading]
    exact List.suffix_cons _ _

theorem Leads.muffled {tokens noisyTokens : List Token} {t : Standing} (size noisySize : Nat)
    (kinds : soundKinds noisyTokens = tokens.map Token.kind) (tight : Tight noisyTokens)
    (leads : Leads (.first tokens size) t) (silent : t.reading.errors = []) :
    ∃ m, Leads (.first noisyTokens noisySize) m ∧ Muffled t m := by
  induction leads with
  | refl =>
    exact ⟨_, .refl, .advance ⟨rfl, rfl⟩ ⟨rfl, rfl⟩ kinds tight ⟨nofun, nofun⟩ rfl rfl nofun⟩
  | tail _ move ih =>
    obtain ⟨m, leads, muffled⟩ := ih (List.suffix_nil.1 (silent ▸ move.errors_suffix))
    obtain ⟨after, onward, muffled⟩ := muffled.step move silent
    exact ⟨after, leads.trans onward, muffled⟩

/-- Two sequences of moves that both end where all tokens are taken end in the same way. -/
theorem Leads.end_unique {s : Standing} {reported otherReported : Bool} {r other : Reading}
    (leads : Leads s ⟨.finish reported, [], r⟩) (done : r.rest = [])
    (otherLeads : Leads s ⟨.finish otherReported, [], other⟩) (otherDone : other.rest = []) :
    r = other := by
  have stuck {reported : Bool} {r : Reading} (done : r.rest = []) (t : Standing) :
      ¬ Move ⟨.finish reported, [], r⟩ t := fun move => by
    cases move with
    | fault at_ | trailing at_ | passed at_ =>
      have here := at_.here
      rw [done] at here
      cases here
  have unique : Relator.RightUnique Move := fun _ _ _ move other => move.unique other
  rcases Relation.ReflTransGen.total_of_right_unique unique leads otherLeads with onward | onward
  · rcases Relation.ReflTransGen.cases_head onward with same | ⟨t, move, _⟩
    · cases same
      rfl
    · exact absurd move (stuck done t)
  · rcases Relation.ReflTransGen.cases_head onward with same | ⟨t, move, _⟩
    · cases same
      rfl
    · exact absurd move (stuck otherDone t)

theorem ofTokens_ok_ne_nil {tokens : List Token} {size : Nat} {tree : Predicate}
    (accepted : ofTokens tokens size = .ok tree) : tokens ≠ [] := by
  rintro rfl
  cases accepted

/-- The number of literals among tokens. -/
def literalCount (tokens : List Token) : Nat := (tokens.map Token.kind).countP isLiteral

theorem literalCount_append (first second : List Token) :
    literalCount (first ++ second) = literalCount first + literalCount second := by
  simp [literalCount]

theorem Derives.count_literals {level : Level} {kinds : List Token.Kind} {tree : Predicate}
    (derives : Derives level kinds tree) : kinds.countP isLiteral = kinds.countP isField := by
  induction derives with
  | term _ ih => exact ih
  | factor _ ih => exact ih
  | or _ _ ihLeft ihRight => simp [isLiteral, isField, ihLeft, ihRight]
  | and _ _ ihLeft ihRight => simp [isLiteral, isField, ihLeft, ihRight]
  | contains field text => rfl
  | group _ ih => simp [isLiteral, isField, ih]

/-- Faults do not matter when other tokens are counted. -/
theorem countP_soundKinds {p : Token.Kind → Bool} (others : ∀ fault, p (.invalid fault) = false)
    (tokens : List Token) : (soundKinds tokens).countP p = (tokens.map Token.kind).countP p := by
  rw [soundKinds, List.countP_filter]
  refine List.countP_congr fun kind _ => ?_
  cases kind with
  | invalid fault => simp [others]
  | _ => simp [isFault]

/-- Literals are taken after keywords only, and a keyword without a literal has a lexical fault in
its place. -/
structure Supplied (taken : List Token) : Prop where
  enough : literalCount taken ≤ fields taken
  tight : literalCount taken = fields taken → Tight taken
  last : ∀ token ∈ taken.getLast?, isField token.kind = false

namespace Supplied

theorem append {first second : List Token} (before : Supplied first) (after : Supplied second) :
    Supplied (first ++ second) where
  enough := by
    rw [literalCount_append, fields_append]
    exact Nat.add_le_add before.enough after.enough
  tight same := by
    rw [literalCount_append, fields_append] at same
    have few := before.enough
    have fewAfter := after.enough
    refine List.isChain_append.2 ⟨before.tight (by omega), after.tight (by omega), ?_⟩
    intro keyword mem next _ isKeyword
    rw [before.last keyword mem] at isKeyword
    cases isKeyword
  last token mem := by
    rw [List.getLast?_append] at mem
    cases empty : second.getLast? with
    | none =>
      rw [empty] at mem
      exact before.last token mem
    | some other =>
      rw [empty] at mem
      exact after.last token (empty ▸ mem)

theorem nil : Supplied [] := ⟨Nat.le_refl _, fun _ => .nil, nofun⟩

/-- A token that is neither a keyword nor a literal. -/
theorem single {token : Token} (noKeyword : isField token.kind = false)
    (noLiteral : isLiteral token.kind = false) : Supplied [token] := by
  refine ⟨?_, fun _ => .singleton _, fun last mem => ?_⟩
  · simp [literalCount, noLiteral]
  · obtain rfl := Option.some.inj mem
    exact noKeyword

theorem contains (field : Field) (text : String) (place span : Span) :
    Supplied [⟨.field field, place⟩, ⟨.literal text, span⟩] := by
  refine ⟨Nat.le_refl _, fun _ => ?_, fun last mem => ?_⟩
  · exact List.isChain_pair.2 fun _ => rfl
  · cases Option.some.inj mem
    rfl

/-- A keyword with a fault in the place of its literal: from here on keywords outnumber literals. -/
theorem broken (field : Field) (fault : LexicalFault) (place span : Span) :
    Supplied [⟨.field field, place⟩, ⟨.invalid fault, span⟩] := by
  refine ⟨Nat.zero_le _, nofun, fun last mem => ?_⟩
  cases Option.some.inj mem
  rfl

end Supplied

/-- As long as all that is told is lexical, nothing is left over, and all literals taken come after
keywords. -/
def Untroubled (tokens : List Token) (s : Standing) : Prop :=
  (∀ error ∈ s.reading.errors, error.kind.isLexical = true) →
    s.place ≠ .finish true ∧ ∃ taken, tokens = taken ++ s.reading.rest ∧ Supplied taken

theorem Supplied.take {tokens taken more rest : List Token} {r r' : Reading}
    (supplied : Supplied taken) (split : tokens = taken ++ r.rest) (at_ : r.At more rest)
    (after : r'.At [] rest) (new : Supplied more) :
    ∃ taken, tokens = taken ++ r'.rest ∧ Supplied taken := by
  refine ⟨taken ++ more, ?_, supplied.append new⟩
  rw [split, at_.takes after, List.append_assoc]

theorem Untroubled.step {tokens : List Token} {s t : Standing} (untroubled : Untroubled tokens s)
    (move : Move s t) : Untroubled tokens t := by
  intro lexical
  obtain ⟨early, taken, split, supplied⟩ := untroubled fun error mem =>
    lexical error (move.errors_suffix.subset mem)
  cases move with
  | expected | missing | tooLong | tooDeep | unknown | unknownWithText | stray | unclosed
  | trailing => exact absurd (lexical _ List.mem_cons_self) Bool.false_ne_true
  | passed => exact absurd rfl early
  | @fault place _ _ _ _ _ at_ =>
    refine ⟨?_, supplied.take split at_ (at_.bump.report _ _) (.single rfl rfl)⟩
    cases place with
    | finish reported => exact early
    | _ => nofun
  | excused | abandoned | complete => exact ⟨nofun, taken, split, supplied⟩
  | contains at_ =>
    exact ⟨nofun, supplied.take split at_ at_.pastField.bump (.contains _ _ _ _)⟩
  | broken at_ =>
    exact ⟨nofun, supplied.take split at_ (at_.pastField.bump.report _ _) (.broken _ _ _ _)⟩
  | opening at_ | closing at_ => exact ⟨nofun, supplied.take split at_ at_.bump (.single rfl rfl)⟩
  | sign at_ isSign =>
    refine ⟨nofun, supplied.take split at_ at_.bump ?_⟩
    rcases isSign with rfl | rfl <;> exact .single rfl rfl

theorem Leads.untroubled {tokens : List Token} {size : Nat} {t : Standing}
    (leads : Leads (.first tokens size) t) : Untroubled tokens t := by
  induction leads with
  | refl => exact fun _ => ⟨nofun, [], rfl, .nil⟩
  | tail _ move ih => exact ih.step move

section Accepted

variable {tokens noisy : List Token} {size noisySize : Nat} {tree : Predicate}

theorem faultsOf_tight (accepted : ofTokens tokens size = .ok tree)
    (kinds : soundKinds noisy = tokens.map Token.kind) (placed : Placed noisy noisySize)
    (tight : Tight noisy) : faultsOf (ofTokens noisy noisySize) = lexicalFaults noisy := by
  have some := ofTokens_ok_ne_nil accepted
  have noisySome : noisy ≠ [] := by
    rintro rfl
    exact some (List.map_eq_nil_iff.1 kinds.symm)
  obtain ⟨reported, final, leads, done, told⟩ := ofTokens_leads some size
  rw [accepted] at told
  have silent : final.errors = [] := List.reverse_eq_nil_iff.1 told
  obtain ⟨⟨_, opened, _⟩, arrives, muffled⟩ :=
    Leads.muffled size noisySize kinds tight leads silent
  obtain ⟨place, r, settles, muffled, sound⟩ := muffled.settle
  obtain rfl := Place.of_excuse muffled.place nofun
  obtain rfl := List.length_eq_zero_iff.1 muffled.opened
  have noisyLeads := arrives.trans settles
  have noisyDone : r.rest = [] := by
    refine soundKinds_eq_nil ?_ ((peek_kind r).symm ▸ sound)
    rw [muffled.kinds, done]
    rfl
  have noisyTold : r.errors.reverse = faultsOf (ofTokens noisy noisySize) := by
    obtain ⟨_, last, lastLeads, lastDone, lastTold⟩ := ofTokens_leads noisySome noisySize
    rw [Leads.end_unique noisyLeads noisyDone lastLeads lastDone]
    exact lastTold
  obtain ⟨taken, known, going | ended⟩ := Leads.told placed noisyLeads
  · have all : noisy = taken := by
      rw [going.split, noisyDone, List.append_nil]
    rw [← noisyTold, all, ← known.lexical, List.filter_eq_self.2]
    exact fun error mem => muffled.lexical error (List.mem_reverse.1 mem)
  · have running := muffled.running.2
    rw [ended.halted] at running
    cases running

theorem tight_of_lexical (accepted : ofTokens tokens size = .ok tree)
    (kinds : soundKinds noisy = tokens.map Token.kind)
    (lexical : ∀ error ∈ faultsOf (ofTokens noisy noisySize), error.kind.isLexical = true) :
    Tight noisy := by
  have noisySome : noisy ≠ [] := by
    rintro rfl
    exact ofTokens_ok_ne_nil accepted (List.map_eq_nil_iff.1 kinds.symm)
  obtain ⟨_, final, leads, done, told⟩ := ofTokens_leads noisySome noisySize
  obtain ⟨_, taken, split, supplied⟩ := Leads.untroubled leads fun error mem =>
    lexical error (told ▸ List.mem_reverse.2 mem)
  have all : noisy = taken := split.trans (by rw [done, List.append_nil])
  have asMany : literalCount noisy = fields noisy := by
    rw [literalCount, fields, ← countP_soundKinds fun _ => rfl,
      ← countP_soundKinds fun _ => rfl, kinds]
    exact (derives_of_ofTokens accepted).count_literals
  rw [all] at asMany ⊢
  exact supplied.tight asMany

/-- Lexical faults between the tokens of an expression are told of alone, one by one, exactly if
none stands directly after a keyword. -/
theorem faultsOf_eq_lexicalFaults_iff (accepted : ofTokens tokens size = .ok tree)
    (kinds : soundKinds noisy = tokens.map Token.kind) (placed : Placed noisy noisySize) :
    faultsOf (ofTokens noisy noisySize) = lexicalFaults noisy ↔ Tight noisy := by
  refine ⟨fun alone => ?_, faultsOf_tight accepted kinds placed⟩
  have lexical : ∀ error ∈ faultsOf (ofTokens noisy noisySize), error.kind.isLexical = true := by
    rw [alone]
    intro error mem
    obtain ⟨⟨kind, span⟩, _, told⟩ := List.mem_filterMap.1 mem
    cases kind <;> cases told
    rfl
  exact tight_of_lexical accepted kinds lexical

end Accepted

end SmartCollections.Predicate
