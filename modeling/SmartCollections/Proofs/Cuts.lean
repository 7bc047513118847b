import SmartCollections.Proofs.Slices

/-!
# Cutting a text in two

Where no literal is open and no run of characters goes on, a text can be cut: its tokens are those
of what stands before the cut and those of what comes after it. A literal is open where the quotes
before it are odd in number, and a text without lexical faults ends where none is.
-/

namespace SmartCollections

open Text

/-- What comes next stands between quotes, or after a quote that is never closed. -/
def endsQuoted (text : List Char) : Bool := text.count '"' % 2 == 1

theorem endsQuoted_cons (c : Char) (text : List Char) :
    endsQuoted (c :: text) = (endsQuoted text != (c == '"')) := by
  rw [endsQuoted, endsQuoted, List.count_cons]
  rcases Nat.mod_two_eq_zero_or_one (text.count '"') with even | odd <;>
    by_cases quote : c = '"' <;> simp [Nat.add_mod, *]

theorem endsQuoted_append (first second : List Char) :
    endsQuoted (first ++ second) = (endsQuoted first != endsQuoted second) := by
  induction first with
  | nil => simp [endsQuoted]
  | cons c first ih =>
    rw [List.cons_append, endsQuoted_cons, endsQuoted_cons, ih]
    cases endsQuoted first <;> cases endsQuoted second <;> simp

theorem endsQuoted_of_not_mem {text : List Char} (noQuote : '"' ∉ text) :
    endsQuoted text = false := by
  rw [endsQuoted, List.count_eq_zero.2 noQuote]
  rfl

/-- The last quote of an odd number is never closed. -/
theorem split_of_endsQuoted {text : List Char} (odd : endsQuoted text = true) :
    ∃ before inner, text = before ++ '"' :: inner ∧ endsQuoted before = false ∧ '"' ∉ inner := by
  induction text using List.reverseRecOn with
  | nil => cases odd
  | append_singleton text c ih =>
    rw [endsQuoted_append, endsQuoted_cons] at odd
    by_cases quote : c = '"'
    · subst quote
      exact ⟨text, [], rfl, by simpa [endsQuoted] using odd, List.not_mem_nil⟩
    · obtain ⟨before, inner, rfl, even, noQuote⟩ := ih (by simpa [endsQuoted, quote] using odd)
      exact ⟨before, inner ++ [c], by simp, even, by simp [noQuote, Ne.symm quote]⟩

section Cut

variable {before after : List Char}

theorem cut_of_isBreak (breaks : ∀ d ∈ after.head?, isBreak d = true) : Cut before after :=
  fun c _ d first => joined_break_right (breaks d first) c

/-- A token leaves no quote open, unless it is a literal that is never closed. -/
theorem Justified.closed {slice : List Char} {kind : Token.Kind}
    (justified : Justified before slice after kind) :
    (endsQuoted slice = false ∧ kind ≠ .invalid .unterminatedLiteral) ∨
      (endsQuoted slice = true ∧ after = []) := by
  have word (run : MaximalRun isWordCharacter before slice after) : endsQuoted slice = false :=
    endsQuoted_of_not_mem fun quote => absurd (run.all _ quote) (by decide)
  cases justified with
  | literal text whole =>
    refine .inl ⟨?_, nofun⟩
    rw [endsQuoted_cons, endsQuoted_append, endsQuoted_of_not_mem whole]
    rfl
  | unterminated text unclosed =>
    refine .inr ⟨?_, rfl⟩
    rw [endsQuoted_cons, endsQuoted_of_not_mem unclosed]
    rfl
  | unexpected c visible noWord noMark =>
    refine .inl ⟨endsQuoted_of_not_mem fun quote => noMark ?_, nofun⟩
    rw [← List.mem_singleton.1 quote]
    exact List.mem_cons_self
  | openParen | closeParen => exact .inl ⟨rfl, nofun⟩
  | signs c sign run =>
    refine .inl ⟨endsQuoted_of_not_mem fun quote => ?_, nofun⟩
    rcases sign with rfl | rfl <;> exact absurd (run.all _ quote) (by decide)
  | and run | or run | field _ run | word run => exact .inl ⟨word run, nofun⟩

theorem firstLexeme_closed {c : Char} {rest : List Char} (closed : endsQuoted (c :: rest) = false) :
    (firstLexeme c rest).kind ≠ some (.invalid .unterminatedLiteral) ∧
      endsQuoted (firstLexeme c rest).rest = false := by
  have whole := firstLexeme_append c rest
  rw [← whole, endsQuoted_append] at closed
  cases found : (firstLexeme c rest).kind with
  | some kind =>
    have start : Cut [] (c :: rest) := nofun
    rcases (firstLexeme_justified start found).closed with ⟨even, noFault⟩ | ⟨odd, nothing⟩
    · rw [even] at closed
      exact ⟨mt Option.some.inj noFault, by simpa using closed⟩
    · rw [odd, nothing] at closed
      cases closed
  | none =>
    have blank : isBlank c = true := by
      by_contra visible
      exact firstLexeme_kind_ne_none visible rest found
    have noQuote : '"' ∉ [c] := fun quote => by
      rw [← List.mem_singleton.1 quote] at blank
      exact absurd blank (by decide)
    rw [firstLexeme_blank blank, endsQuoted_of_not_mem noQuote] at closed
    rw [firstLexeme_blank blank]
    exact ⟨nofun, by simpa using closed⟩

/-- The first piece of a text is the same whatever comes after a cut. -/
theorem firstLexeme_cut_append {c : Char} {rest : List Char}
    (closed : endsQuoted (c :: rest) = false) (cut : Cut (c :: rest) after) :
    firstLexeme c (rest ++ after) =
      { firstLexeme c rest with rest := (firstLexeme c rest).rest ++ after } := by
  have whole := firstLexeme_append c rest
  have next : ∀ d ∈ ((firstLexeme c rest).rest ++ after).head?,
      (∀ e ∈ (firstLexeme c rest).chars.getLast?, joined e d = false) ∨
        d ∈ (firstLexeme c rest).rest.head? := by
    intro d mem
    cases left : (firstLexeme c rest).rest with
    | nil =>
      rw [left] at whole mem
      rw [List.append_nil] at whole
      rw [whole]
      exact .inl fun e last => cut e last d mem
    | cons e more =>
      rw [left] at mem
      exact .inr mem
  obtain ⟨chars, same, swapped⟩ := firstLexeme_append_of_closed (firstLexeme_closed closed).1 next
  rw [same] at whole
  have split : rest ++ after = chars ++ ((firstLexeme c rest).rest ++ after) := by
    rw [← List.append_assoc]
    exact congrArg (· ++ after) (List.cons.inj whole).2.symm
  rw [split, swapped]
  exact congrArg (Lexeme.mk _ · _) same.symm

/-- The tokens of a text are those before and those after a cut. -/
theorem tokensFrom_cut (start : Nat) (closed : endsQuoted before = false) (cut : Cut before after) :
    tokensFrom start (before ++ after) =
      tokensFrom start before ++ tokensFrom (start + byteLength before) after := by
  fun_induction tokensFrom start before with
  | case1 start => rfl
  | case2 start c rest lexeme stop ih =>
    have later : Cut lexeme.rest after := by
      intro d last e first
      refine cut d ?_ e first
      rw [← firstLexeme_append, List.getLast?_append, Option.mem_def.1 last]
      rfl
    have further : start + byteLength (c :: rest) = stop + byteLength lexeme.rest := by
      rw [byteLength_firstLexeme, ← Nat.add_assoc]
    rw [further, List.append_assoc, ← ih (firstLexeme_closed closed).2 later, List.cons_append,
      tokensFrom_of_firstLexeme (firstLexeme_cut_append closed cut)]

end Cut

theorem tokensFrom_unclosed (start : Nat) {inner : List Char} (unclosed : '"' ∉ inner) :
    tokensFrom start ('"' :: inner) =
      [⟨.invalid .unterminatedLiteral, ⟨start, start + byteLength ('"' :: inner)⟩⟩] := by
  have passed : ∀ c ∈ inner, decide (c ≠ '"') = true :=
    fun c mem => decide_eq_true fun quote => unclosed (quote ▸ mem)
  have lexeme :
      firstLexeme '"' inner = ⟨some (.invalid .unterminatedLiteral), '"' :: inner, []⟩ := by
    rw [firstLexeme_quote, List.dropWhile_eq_nil_iff.2 passed, List.takeWhile_eq_self_iff.2 passed]
  rw [tokensFrom_of_firstLexeme lexeme, tokensFrom_nil]
  rfl

/-- A text without lexical faults leaves no quote open. -/
theorem endsQuoted_of_sound {start : Nat} {text : List Char}
    (sound : ∀ token ∈ tokensFrom start text, Predicate.isFault token.kind = false) :
    endsQuoted text = false := by
  cases odd : endsQuoted text with
  | false => rfl
  | true =>
    obtain ⟨before, inner, rfl, even, unclosed⟩ := split_of_endsQuoted odd
    have cut : Cut before ('"' :: inner) := cut_of_isBreak (by rintro d ⟨⟩; decide)
    rw [tokensFrom_cut start even cut, tokensFrom_unclosed _ unclosed] at sound
    cases sound _ (List.mem_append_right _ (List.mem_singleton_self _))

end SmartCollections
