import SmartCollections.Proofs.Lexing

/-!
# Where tokens stand

The tokens of a text stand one after another, each covers at least one byte, and none lies outside
the text. So a token is known by where it starts.
-/

namespace SmartCollections

open Text

theorem byteLength_cons (c : Char) (text : List Char) :
    byteLength (c :: text) = c.utf8Size + byteLength text := rfl

theorem byteLength_append (first second : List Char) :
    byteLength (first ++ second) = byteLength first + byteLength second := by
  induction first with
  | nil => simp [byteLength]
  | cons c first ih => rw [List.cons_append, byteLength_cons, byteLength_cons, ih, Nat.add_assoc]

theorem byteLength_pos {text : List Char} (some : text ≠ []) : 0 < byteLength text := by
  cases text with
  | nil => exact absurd rfl some
  | cons c text =>
    have := c.utf8Size_pos
    rw [byteLength_cons]
    omega

theorem byteLength_toList (text : String) : byteLength text.toList = text.utf8ByteSize := by
  have ofList (chars : List Char) : byteLength chars = (String.ofList chars).utf8ByteSize := by
    induction chars with
    | nil => rfl
    | cons c chars ih =>
      rw [byteLength_cons, ih, ← List.singleton_append, String.ofList_append,
        String.utf8ByteSize_append]
      simp
  rw [ofList, String.ofList_toList]

/-- The tokens of a text that starts at byte `start`. -/
def tokensFrom (start : Nat) : List Char → List Token
  | [] => []
  | c :: rest =>
    let lexeme := firstLexeme c rest
    let stop := start + byteLength lexeme.chars
    (lexeme.kind.map fun kind => ⟨kind, ⟨start, stop⟩⟩).toList ++ tokensFrom stop lexeme.rest
  termination_by text => text.length
  decreasing_by exact length_firstLexeme_rest_lt c rest

theorem tokensFrom_nil (start : Nat) : tokensFrom start [] = [] := by rw [tokensFrom]

theorem readTokens_eq (done : Array Token) (start : Nat) (text : List Char) :
    (readTokens done start text).toList = done.toList ++ tokensFrom start text := by
  fun_induction readTokens done start text with
  | case1 done start => simp [tokensFrom]
  | case2 done start c rest lexeme stop next ih =>
    rw [ih, tokensFrom, ← List.append_assoc]
    congr 1
    simp only [next, lexeme, stop]
    cases (firstLexeme c rest).kind <;> simp

theorem lexicalTokens_eq (text : List Char) : lexicalTokens text = tokensFrom 0 text := by
  simp [lexicalTokens, readTokens_eq]

/-- A first piece and what is left after it share the bytes of a text. -/
theorem byteLength_firstLexeme (c : Char) (rest : List Char) :
    byteLength (c :: rest) =
      byteLength (firstLexeme c rest).chars + byteLength (firstLexeme c rest).rest := by
  rw [← byteLength_append, firstLexeme_append]

/-- No token lies outside the text, and none is empty. -/
theorem mem_tokensFrom {start : Nat} {text : List Char} {token : Token}
    (mem : token ∈ tokensFrom start text) :
    start ≤ token.span.start ∧ token.span.start < token.span.stop ∧
      token.span.stop ≤ start + byteLength text := by
  fun_induction tokensFrom start text with
  | case1 start => cases mem
  | case2 start c rest lexeme stop ih =>
    have whole : byteLength (c :: rest) = byteLength lexeme.chars + byteLength lexeme.rest :=
      byteLength_firstLexeme c rest
    rcases List.mem_append.1 mem with first | later
    · obtain ⟨kind, _, rfl⟩ := Option.map_eq_some_iff.1 (Option.mem_toList.1 first)
      have : 0 < byteLength lexeme.chars := byteLength_pos (firstLexeme_chars_ne_nil c rest)
      simp only [stop]
      omega
    · have := ih later
      simp only [stop] at this
      omega

/-- Every token ends before the next one starts. -/
theorem tokensFrom_ordered (start : Nat) (text : List Char) :
    (tokensFrom start text).Pairwise fun first second => first.span.stop ≤ second.span.start := by
  fun_induction tokensFrom start text with
  | case1 start => exact .nil
  | case2 start c rest lexeme stop ih =>
    refine List.pairwise_append.2 ⟨?_, ih, fun token first other later => ?_⟩
    · cases lexeme.kind <;> simp
    · obtain ⟨kind, _, rfl⟩ := Option.map_eq_some_iff.1 (Option.mem_toList.1 first)
      exact (mem_tokensFrom later).1

theorem firstLexeme_blank {c : Char} (blank : isBlank c = true) (rest : List Char) :
    firstLexeme c rest = ⟨none, [c], rest⟩ := by
  rw [firstLexeme, if_pos blank]

theorem firstLexeme_kind_ne_none {c : Char} (visible : ¬ isBlank c = true) (rest : List Char) :
    (firstLexeme c rest).kind ≠ none := by
  unfold firstLexeme
  rw [if_neg visible]
  repeat' split
  all_goals nofun

theorem tokensFrom_eq_nil_iff (start : Nat) (text : List Char) :
    tokensFrom start text = [] ↔ ∀ c ∈ text, isBlank c = true := by
  induction text generalizing start with
  | nil => simp [tokensFrom]
  | cons c rest ih =>
    rw [List.forall_mem_cons]
    by_cases blank : isBlank c = true
    · rw [tokensFrom, firstLexeme_blank blank]
      simp only [Option.map_none, Option.toList_none, List.nil_append, blank, true_and]
      exact ih _
    · refine iff_of_false (fun none => ?_) fun all => blank all.1
      rw [tokensFrom] at none
      have first := (List.append_eq_nil_iff.1 none).1
      simp [firstLexeme_kind_ne_none blank rest] at first

/-- Tokens that start one after another, the last one before the end of the text. -/
structure Predicate.Placed (tokens : List Token) (size : Nat) : Prop where
  ordered : tokens.Pairwise fun first second => first.span.start < second.span.start
  inside : ∀ token ∈ tokens, token.span.start < size

theorem Token.corrected_span (token : Token) : token.corrected.span = token.span := by
  obtain ⟨kind, span⟩ := token
  cases kind <;> rfl

theorem Predicate.sentence_eq (text : String) :
    sentence text = (tokensFrom 0 text.toList).map Token.corrected := by
  rw [sentence, tokenize, List.map_append, List.map_singleton, List.dropLast_concat,
    lexicalTokens_eq]

theorem Predicate.sentence_eq_nil_iff (text : String) :
    sentence text = [] ↔ ∀ c ∈ text.toList, isBlank c = true := by
  rw [sentence_eq, List.map_eq_nil_iff, tokensFrom_eq_nil_iff]

theorem Predicate.sentence_placed (text : String) : Placed (sentence text) text.utf8ByteSize := by
  rw [sentence_eq, ← byteLength_toList]
  constructor
  · refine List.pairwise_map.2 ((tokensFrom_ordered 0 text.toList).imp_of_mem ?_)
    intro first second mem _ before
    have := mem_tokensFrom mem
    rw [Token.corrected_span, Token.corrected_span]
    omega
  · intro token mem
    obtain ⟨original, originalMem, rfl⟩ := List.mem_map.1 mem
    have := mem_tokensFrom originalMem
    rw [Token.corrected_span]
    omega

end SmartCollections
