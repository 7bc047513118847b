import SmartCollections.Proofs.Interruptions

/-!
# Stray characters

Characters that no token starts with, put between the tokens of an expression, leave its tokens as
they are and become lexical faults themselves. The parser tells of each of them and of nothing else,
unless one stands between a keyword and its literal.
-/

namespace SmartCollections

open Text

/-- No token starts with the character, and it is no blank either. -/
def isStray (c : Char) : Bool :=
  (firstLexeme c []).kind = some (.invalid (.unexpectedChar c))

/-- A character of a text, or one that has been put in. -/
inductive Mark where
  | kept (c : Char)
  | inserted (c : Char)

namespace Mark

def char : Mark → Char
  | kept c => c
  | inserted c => c

def original : List Mark → List Char
  | [] => []
  | kept c :: marks => c :: original marks
  | inserted _ :: marks => original marks

def additions : List Mark → List Char
  | [] => []
  | kept _ :: marks => additions marks
  | inserted c :: marks => c :: additions marks

/-- Where characters have been put in: the byte of the text before, which starts at byte `start`. -/
def gaps (start : Nat) : List Mark → List Nat
  | [] => []
  | kept c :: marks => gaps (start + c.utf8Size) marks
  | inserted _ :: marks => start :: gaps start marks

/-- One fault for each character that has been put in, where it stands in the text that starts at
byte `start`. -/
def strays (start : Nat) : List Mark → List ParseError
  | [] => []
  | kept c :: marks => strays (start + c.utf8Size) marks
  | inserted c :: marks =>
    ⟨.lexical (.unexpectedChar c), ⟨start, start + c.utf8Size⟩⟩ :: strays (start + c.utf8Size) marks

def whole (marks : List Mark) : String := .ofList (marks.map char)

end Mark

open Mark

/-- Stray characters have been put into the text, none of them inside a token. -/
structure Strewn (text : String) (marks : List Mark) : Prop where
  kept : original marks = text.toList
  stray : ∀ c ∈ additions marks, isStray c = true
  apart : ∀ gap ∈ gaps 0 marks, ∀ token ∈ tokenize text,
    gap ≤ token.span.start ∨ token.span.stop ≤ gap

theorem firstLexeme_unexpected {c : Char} (rest : List Char)
    (odd : isBlank c = false ∧ c ≠ '"' ∧ c ≠ '(' ∧ c ≠ ')' ∧ ¬ (c = '&' ∨ c = '|') ∧
      isWordCharacter c = false) :
    firstLexeme c rest = ⟨some (.invalid (.unexpectedChar c)), [c], rest⟩ := by
  obtain ⟨noBlank, noQuote, noOpening, noClosing, noSign, noWord⟩ := odd
  rw [firstLexeme, if_neg (by simp [noBlank]), if_neg noQuote, if_neg noOpening, if_neg noClosing,
    if_neg noSign, if_neg (by simp [noWord])]

theorem isStray_iff {c : Char} : isStray c = true ↔
    isBlank c = false ∧ c ≠ '"' ∧ c ≠ '(' ∧ c ≠ ')' ∧ ¬ (c = '&' ∨ c = '|') ∧
      isWordCharacter c = false := by
  have noFault : ∀ word, classify word ≠ .invalid (.unexpectedChar c) := by
    intro word
    unfold classify
    repeat' split
    all_goals nofun
  rw [isStray, decide_eq_true_iff]
  constructor
  · intro stray
    unfold firstLexeme at stray
    repeat' split at stray
    all_goals simp only [Option.some.injEq, Token.Kind.invalid.injEq, reduceCtorEq] at stray
    · exact absurd stray (noFault _)
    · next blank quote opening closing sign word =>
      exact ⟨Bool.eq_false_iff.2 blank, quote, opening, closing, sign, Bool.eq_false_iff.2 word⟩
  · intro odd
    rw [firstLexeme_unexpected [] odd]

theorem firstLexeme_stray {c : Char} (stray : isStray c = true) (rest : List Char) :
    firstLexeme c rest = ⟨some (.invalid (.unexpectedChar c)), [c], rest⟩ :=
  firstLexeme_unexpected rest (isStray_iff.1 stray)

/-- No run of characters goes on with the character. -/
def isBreak (c : Char) : Bool := c != '&' && c != '|' && !isWordCharacter c

theorem isBreak_of_isStray {c : Char} (stray : isStray c = true) : isBreak c = true := by
  obtain ⟨_, _, _, _, noSign, noWord⟩ := isStray_iff.1 stray
  obtain ⟨noAnd, noOr⟩ := not_or.1 noSign
  simp [isBreak, noAnd, noOr, noWord]

/-- The two characters belong to one run, of word characters or of one sign. -/
def joined (c d : Char) : Bool :=
  (isWordCharacter c && isWordCharacter d) || (c == d && (c == '&' || c == '|'))

theorem joined_break_left {c : Char} (breaks : isBreak c = true) (d : Char) :
    joined c d = false := by
  simp only [isBreak, Bool.and_eq_true, bne_iff_ne, Bool.not_eq_true'] at breaks
  simp [joined, breaks]

theorem joined_break_right {d : Char} (breaks : isBreak d = true) (c : Char) :
    joined c d = false := by
  simp only [isBreak, Bool.and_eq_true, bne_iff_ne, Bool.not_eq_true'] at breaks
  by_cases same : c = d
  · subst same
    simp [joined, breaks]
  · simp [joined, breaks, same]

/-- A first piece is a single character, or a literal, or a run of characters as far as it goes. -/
theorem firstLexeme_shape (c : Char) :
    (∃ kind, ∀ rest, firstLexeme c rest = ⟨kind, [c], rest⟩) ∨ c = '"' ∨
      ∃ (p : Char → Bool) (kind : String → Token.Kind),
        (∀ d e, d = c ∨ p d = true → joined d e = false → p e = false) ∧
        ∀ rest, firstLexeme c rest = ⟨some (kind (.ofList (c :: rest.takeWhile p))),
          c :: rest.takeWhile p, rest.dropWhile p⟩ := by
  by_cases blank : isBlank c = true
  · exact .inl ⟨none, firstLexeme_blank blank⟩
  by_cases quote : c = '"'
  · exact .inr (.inl quote)
  by_cases opening : c = '('
  · refine .inl ⟨some .openParen, fun rest => ?_⟩
    rw [firstLexeme, if_neg blank, if_neg quote, if_pos opening]
  by_cases closing : c = ')'
  · refine .inl ⟨some .closeParen, fun rest => ?_⟩
    rw [firstLexeme, if_neg blank, if_neg quote, if_neg opening, if_pos closing]
  by_cases sign : c = '&' ∨ c = '|'
  · refine .inr (.inr ⟨(· = c), .word, fun d e here apart => ?_, fun rest => ?_⟩)
    · obtain rfl : d = c := by simpa using here
      refine decide_eq_false fun same => ?_
      subst same
      rcases sign with rfl | rfl <;> revert apart <;> decide
    · rw [firstLexeme, if_neg blank, if_neg quote, if_neg opening, if_neg closing, if_pos sign]
  by_cases word : isWordCharacter c = true
  · refine .inr (.inr ⟨isWordCharacter, classify, fun d e here apart => ?_, fun rest => ?_⟩)
    · have inside : isWordCharacter d = true := here.elim (fun same => same ▸ word) id
      simp only [joined, inside, Bool.true_and, Bool.or_eq_false_iff] at apart
      exact apart.1
    · rw [firstLexeme, if_neg blank, if_neg quote, if_neg opening, if_neg closing, if_neg sign,
        if_pos word]
  · refine .inl ⟨some (.invalid (.unexpectedChar c)), fun rest => ?_⟩
    rw [firstLexeme, if_neg blank, if_neg quote, if_neg opening, if_neg closing, if_neg sign,
      if_neg word]

/-- A run of characters ends where it ended before, if no character that could go on with it comes
next. -/
theorem takeWhile_run {p : Char → Bool} {tail : List Char} (stops : ∀ d ∈ tail.head?, p d = false)
    (text : List Char) :
    (text.takeWhile p ++ tail).takeWhile p = text.takeWhile p ∧
      (text.takeWhile p ++ tail).dropWhile p = tail := by
  have run : ∀ d ∈ text.takeWhile p, p d = true := fun d mem => List.mem_takeWhile_imp mem
  rw [List.takeWhile_append_of_pos run, List.dropWhile_append_of_pos run]
  cases tail with
  | nil => simp
  | cons d tail => simp [stops d rfl]

theorem firstLexeme_quote (rest : List Char) :
    firstLexeme '"' rest = match rest.dropWhile (· ≠ '"') with
      | quote :: others =>
        ⟨some (.literal (.ofList (rest.takeWhile (· ≠ '"')))),
          '"' :: rest.takeWhile (· ≠ '"') ++ [quote], others⟩
      | [] => ⟨some (.invalid .unterminatedLiteral), '"' :: rest.takeWhile (· ≠ '"'), []⟩ := by
  have visible : ¬ isBlank '"' = true := by decide
  exact (if_neg visible).trans (if_pos rfl)

/-- A first piece is the same whatever comes after it, if what comes after it does not go on with it
or starts with what came after it before. -/
theorem firstLexeme_append_of_closed {c : Char} {rest tail : List Char}
    (closed : (firstLexeme c rest).kind ≠ some (.invalid .unterminatedLiteral))
    (next : ∀ d ∈ tail.head?, (∀ e ∈ (firstLexeme c rest).chars.getLast?, joined e d = false) ∨
      d ∈ (firstLexeme c rest).rest.head?) :
    ∃ chars, (firstLexeme c rest).chars = c :: chars ∧
      firstLexeme c (chars ++ tail) = ⟨(firstLexeme c rest).kind, c :: chars, tail⟩ := by
  rcases firstLexeme_shape c with ⟨kind, single⟩ | rfl | ⟨p, kind, ends, run⟩
  · refine ⟨[], ?_, ?_⟩
    · rw [single]
    · rw [single, single]
      rfl
  · rw [firstLexeme_quote] at closed ⊢
    cases closes : rest.dropWhile (· ≠ '"') with
    | nil =>
      rw [closes] at closed
      exact absurd rfl closed
    | cons quote others =>
      obtain rfl : quote = '"' := by
        have stop := List.head?_dropWhile_not (· ≠ '"') rest
        rw [closes] at stop
        simpa using stop
      have stops : ∀ d ∈ ('"' :: tail).head?, decide (d ≠ '"') = false := by simp
      obtain ⟨taken, left⟩ := takeWhile_run stops rest
      refine ⟨rest.takeWhile (· ≠ '"') ++ ['"'], rfl, ?_⟩
      rw [List.append_assoc, List.singleton_append, firstLexeme_quote, taken, left]
      rfl
  · rw [run] at next
    have stops : ∀ d ∈ tail.head?, p d = false := by
      intro d mem
      rcases next d mem with apart | same
      · have inside : ∀ e ∈ c :: rest.takeWhile p, e = c ∨ p e = true :=
          List.forall_mem_cons.2 ⟨.inl rfl, fun e run => .inr (List.mem_takeWhile_imp run)⟩
        have last := List.getLast?_eq_some_getLast (List.cons_ne_nil c (rest.takeWhile p))
        exact ends _ d (inside _ (List.getLast_mem _)) (apart _ last)
      · have stop := List.head?_dropWhile_not p rest
        rw [Option.mem_def.1 same] at stop
        exact stop
    obtain ⟨taken, left⟩ := takeWhile_run stops rest
    refine ⟨rest.takeWhile p, ?_, ?_⟩
    · rw [run]
    · rw [run, run, taken, left]

namespace Mark

variable {chars : List Char} {marks : List Mark}

theorem original_append_kept (chars : List Char) (marks : List Mark) :
    original (chars.map kept ++ marks) = chars ++ original marks := by
  induction chars with
  | nil => rfl
  | cons c chars ih => exact congrArg (c :: ·) ih

theorem strays_append_kept (start : Nat) (chars : List Char) (marks : List Mark) :
    strays start (chars.map kept ++ marks) = strays (start + byteLength chars) marks := by
  induction chars generalizing start with
  | nil => rfl
  | cons c chars ih =>
    rw [byteLength_cons, ← Nat.add_assoc]
    exact ih _

theorem char_append_kept (chars : List Char) (marks : List Mark) :
    (chars.map kept ++ marks).map char = chars ++ marks.map char := by
  rw [List.map_append, List.map_map]
  congr 1
  exact List.map_id chars

theorem strays_eq_nil_iff {start : Nat} {marks : List Mark} :
    strays start marks = [] ↔ additions marks = [] := by
  induction marks generalizing start with
  | nil => exact iff_of_true rfl rfl
  | cons mark marks ih =>
    cases mark with
    | kept c => exact ih
    | inserted c => exact iff_of_false (List.cons_ne_nil _ _) (List.cons_ne_nil _ _)

theorem le_of_mem_gaps {start gap : Nat} {marks : List Mark} (mem : gap ∈ gaps start marks) :
    start ≤ gap := by
  induction marks generalizing start with
  | nil => cases mem
  | cons mark marks ih =>
    cases mark with
    | kept c => exact Nat.le_trans (Nat.le_add_right _ _) (ih mem)
    | inserted c =>
      rcases List.mem_cons.1 mem with rfl | mem
      · exact Nat.le_refl _
      · exact ih mem

/-- If nothing is put in before the end of the characters, they stand there as they are. -/
theorem kept_of_le_gaps {start : Nat} {chars rest : List Char} {marks : List Mark}
    (same : original marks = chars ++ rest)
    (apart : ∀ gap ∈ gaps start marks, start + byteLength chars ≤ gap) :
    ∃ others, marks = chars.map kept ++ others ∧ original others = rest ∧
      additions others = additions marks ∧
      gaps start marks = gaps (start + byteLength chars) others := by
  induction chars generalizing start marks with
  | nil => exact ⟨marks, rfl, same, rfl, rfl⟩
  | cons c chars ih =>
    cases marks with
    | nil => cases same
    | cons mark marks =>
      cases mark with
      | inserted d =>
        have far := apart start List.mem_cons_self
        have := byteLength_pos (List.cons_ne_nil c chars)
        omega
      | kept d =>
        obtain ⟨rfl, sameThen⟩ := List.cons.inj same
        rw [byteLength_cons, ← Nat.add_assoc] at apart ⊢
        have later : ∀ gap ∈ gaps (start + d.utf8Size) marks,
            start + d.utf8Size + byteLength chars ≤ gap := apart
        obtain ⟨others, rfl, left, additions, gaps⟩ := ih sameThen later
        exact ⟨others, rfl, left, additions, gaps⟩

end Mark

/-- Stray characters stand between the first pieces of a text. -/
inductive Woven : List Mark → Prop where
  | nil : Woven []
  | inserted {c : Char} {marks : List Mark} (stray : isStray c = true) (later : Woven marks) :
      Woven (.inserted c :: marks)
  | lexeme {c : Char} {rest : List Char} {marks : List Mark}
      (left : original marks = (firstLexeme c rest).rest)
      (sound : ∀ kind ∈ (firstLexeme c rest).kind, Predicate.isFault kind = false)
      (later : Woven marks) : Woven ((firstLexeme c rest).chars.map .kept ++ marks)

/-- What is read next is stray, or it is what would have been read next. -/
theorem Woven.head {marks : List Mark} (woven : Woven marks) {d : Char}
    (mem : d ∈ (marks.map char).head?) : isStray d = true ∨ d ∈ (original marks).head? := by
  cases woven with
  | nil => cases mem
  | inserted stray =>
    cases mem
    exact .inl stray
  | @lexeme c rest marks =>
    obtain ⟨first, chars, same⟩ := List.exists_cons_of_ne_nil (firstLexeme_chars_ne_nil c rest)
    rw [same] at mem ⊢
    exact .inr mem

theorem tokensFrom_of_firstLexeme {c : Char} {rest chars left : List Char}
    {kind : Option Token.Kind} (first : firstLexeme c rest = ⟨kind, chars, left⟩) (start : Nat) :
    tokensFrom start (c :: rest) =
      (kind.map fun kind => ⟨kind, ⟨start, start + byteLength chars⟩⟩).toList ++
        tokensFrom (start + byteLength chars) left := by
  rw [tokensFrom, first]

/-- The characters that have been put in are lexical faults, and apart from them the tokens are the
same. -/
theorem Woven.tokens {marks : List Mark} (woven : Woven marks) (start place : Nat) :
    lexicalFaults (tokensFrom start (marks.map char)) = strays start marks ∧
      Predicate.soundKinds (tokensFrom start (marks.map char)) =
        (tokensFrom place (original marks)).map Token.kind := by
  induction woven generalizing start place with
  | nil =>
    rw [List.map_nil, original, tokensFrom_nil, tokensFrom_nil]
    exact ⟨rfl, rfl⟩
  | @inserted c marks stray later ih =>
    have first : tokensFrom start ((.inserted c :: marks).map char) =
        ⟨.invalid (.unexpectedChar c), ⟨start, start + c.utf8Size⟩⟩ ::
          tokensFrom (start + c.utf8Size) (marks.map char) :=
      tokensFrom_of_firstLexeme (firstLexeme_stray stray _) start
    obtain ⟨faults, kinds⟩ := ih (start + c.utf8Size) place
    rw [first, Predicate.soundKinds_fault rfl]
    exact ⟨congrArg _ faults, kinds⟩
  | @lexeme c rest marks left sound later ih =>
    have closed : (firstLexeme c rest).kind ≠ some (.invalid .unterminatedLiteral) :=
      fun fault => absurd (sound _ fault) (by decide)
    obtain ⟨chars, same, swapped⟩ := firstLexeme_append_of_closed closed fun d mem =>
      (left ▸ later.head mem).imp_left fun stray e _ =>
        joined_break_right (isBreak_of_isStray stray) e
    have whole : firstLexeme c rest = ⟨(firstLexeme c rest).kind, c :: chars, original marks⟩ := by
      rw [left, ← same]
    have before : original ((firstLexeme c rest).chars.map .kept ++ marks) = c :: rest := by
      rw [original_append_kept, left, firstLexeme_append]
    obtain ⟨faults, kinds⟩ := ih (start + byteLength (c :: chars)) (place + byteLength (c :: chars))
    rw [before, same, char_append_kept, strays_append_kept, List.cons_append,
      tokensFrom_of_firstLexeme swapped, tokensFrom_of_firstLexeme whole]
    cases found : (firstLexeme c rest).kind with
    | none => exact ⟨faults, kinds⟩
    | some kind =>
      have noFault := sound kind found
      refine ⟨?_, ?_⟩
      · rw [← faults, lexicalFaults, Option.map_some, Option.toList_some, List.singleton_append,
          List.filterMap_cons_none (Token.fault?_eq_none noFault _)]
        rfl
      · rw [Option.map_some, Option.toList_some, List.singleton_append,
          Predicate.soundKinds_sound noFault, kinds]
        rfl

theorem mem_tokensFrom_first {c : Char} {rest : List Char} {kind : Token.Kind}
    (start : Nat) (found : kind ∈ (firstLexeme c rest).kind) :
    ⟨kind, ⟨start, start + byteLength (firstLexeme c rest).chars⟩⟩ ∈
      tokensFrom start (c :: rest) := by
  rw [tokensFrom, Option.mem_def.1 found]
  exact List.mem_cons_self

/-- Stray characters have been put between the tokens of a text that starts at byte `start` and has
no lexical faults. -/
structure Apart (start : Nat) (marks : List Mark) : Prop where
  stray : ∀ c ∈ additions marks, isStray c = true
  sound : ∀ token ∈ tokensFrom start (original marks), Predicate.isFault token.kind = false
  apart : ∀ gap ∈ gaps start marks, ∀ token ∈ tokensFrom start (original marks),
    gap ≤ token.span.start ∨ token.span.stop ≤ gap

namespace Apart

variable {start : Nat} {c : Char} {marks : List Mark}

theorem tail (apart : Apart start (.inserted c :: marks)) : Apart start marks :=
  ⟨fun d mem => apart.stray d (List.mem_cons_of_mem _ mem), apart.sound,
    fun gap mem => apart.apart gap (List.mem_cons_of_mem _ mem)⟩

/-- No character has been put into the first piece. -/
theorem le_gap (apart : Apart start (.kept c :: marks)) {gap : Nat}
    (mem : gap ∈ gaps start (.kept c :: marks)) :
    start + byteLength (firstLexeme c (original marks)).chars ≤ gap := by
  have after : start + c.utf8Size ≤ gap := le_of_mem_gaps mem
  cases found : (firstLexeme c (original marks)).kind with
  | none =>
    have blank : isBlank c = true := by
      by_contra visible
      exact firstLexeme_kind_ne_none visible _ found
    rw [firstLexeme_blank blank]
    exact after
  | some kind =>
    rcases apart.apart gap mem _ (mem_tokensFrom_first start found) with before | far
    · have size := c.utf8Size_pos
      dsimp only at before
      omega
    · exact far

theorem first (apart : Apart start (.kept c :: marks)) :
    ∃ others, Mark.kept c :: marks = (firstLexeme c (original marks)).chars.map .kept ++ others ∧
      original others = (firstLexeme c (original marks)).rest ∧
      Apart (start + byteLength (firstLexeme c (original marks)).chars) others := by
  have same : original (.kept c :: marks) =
      (firstLexeme c (original marks)).chars ++ (firstLexeme c (original marks)).rest :=
    (firstLexeme_append c (original marks)).symm
  obtain ⟨others, split, left, added, later⟩ := kept_of_le_gaps same fun gap => apart.le_gap
  have within : tokensFrom (start + byteLength (firstLexeme c (original marks)).chars)
      (original others) ⊆ tokensFrom start (original (.kept c :: marks)) := by
    rw [left, original, tokensFrom]
    exact List.subset_append_right _ _
  refine ⟨others, split, left, ?_, fun token mem => apart.sound token (within mem), ?_⟩
  · rw [added]
    exact apart.stray
  · rw [← later]
    exact fun gap mem token tokenMem => apart.apart gap mem token (within tokenMem)

/-- The induction is on the number of characters: a whole piece is taken at a time. -/
theorem woven (apart : Apart start marks) : Woven marks := by
  induction hlength : marks.length using Nat.strong_induction_on generalizing marks start with
  | _ length ih =>
    subst hlength
    cases marks with
    | nil => exact .nil
    | cons mark marks =>
      cases mark with
      | inserted c =>
        exact .inserted (apart.stray c List.mem_cons_self)
          (ih _ (Nat.lt_succ_self _) apart.tail rfl)
      | kept c =>
        have sound : ∀ kind ∈ (firstLexeme c (original marks)).kind,
            Predicate.isFault kind = false := fun kind found =>
          apart.sound _ (mem_tokensFrom_first start found)
        obtain ⟨others, split, left, later⟩ := apart.first
        have fewer : others.length < (Mark.kept c :: marks).length := by
          have some := List.length_pos_iff.2 (firstLexeme_chars_ne_nil c (original marks))
          rw [split, List.length_append, List.length_map]
          omega
        rw [split]
        exact .lexeme left sound (ih _ fewer later rfl)

end Apart

namespace Predicate

theorem soundKinds_corrected (tokens : List Token) :
    soundKinds (tokens.map Token.corrected) = (soundKinds tokens).map Token.Kind.corrected := by
  have kinds : (tokens.map Token.corrected).map Token.kind =
      (tokens.map Token.kind).map Token.Kind.corrected := by
    rw [List.map_map, List.map_map]
    exact List.map_congr_left fun token _ => token.corrected_kind
  rw [soundKinds, soundKinds, kinds, List.filter_map]
  congr 1
  refine List.filter_congr fun kind _ => ?_
  rw [Function.comp_apply, isFault_corrected]

theorem Derives.faultless {level : Level} {kinds : List Token.Kind} {tree : Predicate}
    (derives : Derives level kinds tree) : ∀ kind ∈ kinds, isFault kind = false := by
  intro kind mem
  have expected := derives.expected kind mem
  cases kind with
  | invalid fault => cases expected
  | _ => rfl

/-- An expression has no lexical faults. -/
theorem tokensFrom_faultless {text : String} {tree : Predicate} (accepted : parse text = .ok tree) :
    ∀ token ∈ tokensFrom 0 text.toList, isFault token.kind = false := by
  intro token mem
  have derives := (parse_eq_ok_iff.1 accepted).1
  rw [kinds, sentence_eq] at derives
  have sound := derives.faultless _ (List.mem_map_of_mem (List.mem_map_of_mem mem))
  rwa [token.corrected_kind, isFault_corrected] at sound

/-- The tokens of an expression into which stray characters have been put. -/
theorem sentence_strewn {text : String} {tree : Predicate} {marks : List Mark}
    (accepted : parse text = .ok tree) (strewn : Strewn text marks) :
    lexicalFaults (sentence (whole marks)) = strays 0 marks ∧
      soundKinds (sentence (whole marks)) = (sentence text).map Token.kind := by
  have apart : Apart 0 marks := by
    refine ⟨strewn.stray, ?_, fun gap mem token tokenMem => strewn.apart gap mem token ?_⟩
    · rw [strewn.kept]
      exact tokensFrom_faultless accepted
    · rw [strewn.kept] at tokenMem
      rw [tokenize, lexicalTokens_eq]
      exact List.mem_append_left _ tokenMem
  obtain ⟨faults, kinds⟩ := apart.woven.tokens 0 0
  rw [sentence_eq, sentence_eq, whole, String.toList_ofList, ← strewn.kept]
  constructor
  · rw [lexicalFaults_corrected, faults]
  · rw [soundKinds_corrected, kinds, List.map_map, List.map_map]
    exact List.map_congr_left fun token _ => token.corrected_kind.symm

/-- Stray characters put between the tokens of an expression are told of alone, one by one and where
they stand, exactly if none comes directly after a keyword. -/
theorem parse_strewn {text : String} {tree : Predicate} {marks : List Mark}
    (accepted : parse text = .ok tree) (strewn : Strewn text marks) (some : additions marks ≠ []) :
    parse (whole marks) = .error (strays 0 marks) ↔ Tight (sentence (whole marks)) := by
  obtain ⟨faults, kinds⟩ := sentence_strewn accepted strewn
  rw [parse_eq] at accepted ⊢
  rw [← faultsOf_eq_lexicalFaults_iff accepted kinds (sentence_placed _), faults]
  constructor
  · intro rejected
    rw [rejected]
    rfl
  · intro told
    cases outcome : ofTokens (sentence (whole marks)) (whole marks).utf8ByteSize with
    | ok tree =>
      rw [outcome] at told
      exact absurd (strays_eq_nil_iff.1 told.symm) some
    | error errors =>
      rw [outcome] at told
      exact congrArg Except.error told

/-- A character is put in at each end. -/
theorem parse_strewn_ends :
    parse "!TITLE \"a\"@" = .error [⟨.lexical (.unexpectedChar '!'), ⟨0, 1⟩⟩,
      ⟨.lexical (.unexpectedChar '@'), ⟨10, 11⟩⟩] := by
  have strewn : Strewn "TITLE \"a\""
      (.inserted '!' :: "TITLE \"a\"".toList.map .kept ++ [.inserted '@']) :=
    ⟨by decide +kernel, List.all_eq_true.1 (by decide +kernel), by decide +kernel⟩
  have accepted : parse "TITLE \"a\"" = .ok (.contains .title "a") := by decide +kernel
  have alone := parse_strewn accepted strewn (List.cons_ne_nil _ _)
  rw [show whole _ = "!TITLE \"a\"@" by decide +kernel] at alone
  exact alone.2 (by decide +kernel)

/-- A character that comes directly after a keyword is not told of alone: the literal is told of as
left over. -/
theorem parse_strewn_after_keyword :
    Strewn "TITLE \"a\"" ("TITLE ".toList.map .kept ++ .inserted '!' :: "\"a\"".toList.map .kept) ∧
      parse "TITLE \"a\"" = .ok (.contains .title "a") ∧
      parse "TITLE !\"a\"" = .error [⟨.lexical (.unexpectedChar '!'), ⟨6, 7⟩⟩,
        ⟨.trailing (.literal "a"), ⟨7, 10⟩⟩] :=
  ⟨⟨by decide +kernel, List.all_eq_true.1 (by decide +kernel), by decide +kernel⟩,
    by decide +kernel, by decide +kernel⟩

end Predicate

end SmartCollections
