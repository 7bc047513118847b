import Mathlib.Data.List.Infix
import SmartCollections.Proofs.Printing

/-!
# Canonical texts

A predicate that was read from a text is written with no more parentheses open at once than the text
had: every pair that is written stands where the text had one. Its written form is therefore within
the limits whenever the text was, and reading and writing it once more changes nothing.
-/

namespace SmartCollections.Predicate

theorem size_pos (tree : Predicate) : 1 ≤ tree.size := by
  induction tree with
  | contains field literal => exact Nat.le_refl 1
  | and left right ihLeft _ => exact ihLeft.trans (Nat.le_add_right _ _)
  | or left right ihLeft _ => exact ihLeft.trans (Nat.le_add_right _ _)

/-- At no point are more than `room` parentheses open. -/
def Shallow (room : Nat) (kinds : List Token.Kind) : Prop :=
  ∀ before, before <+: kinds → before.count .openParen ≤ before.count .closeParen + room

/-- Every parenthesis that is opened is closed. -/
def Closed (kinds : List Token.Kind) : Prop := kinds.count .openParen = kinds.count .closeParen

theorem Derives.closed {level : Level} {kinds : List Token.Kind} {tree : Predicate}
    (derives : Derives level kinds tree) : Closed kinds := by
  induction derives with
  | term _ ih => exact ih
  | factor _ ih => exact ih
  | or _ _ ihLeft ihRight =>
    rw [Closed] at ihLeft ihRight ⊢
    simp [ihLeft, ihRight]
  | and _ _ ihLeft ihRight =>
    rw [Closed] at ihLeft ihRight ⊢
    simp [ihLeft, ihRight]
  | contains field text => rfl
  | group _ ih =>
    rw [Closed] at ih ⊢
    simp [ih]

namespace Shallow

variable {room : Nat} {left right kinds : List Token.Kind} {sign : Token.Kind}

theorem mono {more : Nat} (shallow : Shallow room kinds) (le : room ≤ more) :
    Shallow more kinds :=
  fun before isPrefix => (shallow before isPrefix).trans (Nat.add_le_add_left le _)

/-- Two phrases with a sign between them are as shallow as both are. -/
theorem join_iff (closed : Closed left) (plain : isPlain sign = true) :
    Shallow room (left ++ sign :: right) ↔ Shallow room left ∧ Shallow room right := by
  have counts : sign ≠ .openParen ∧ sign ≠ .closeParen := by
    constructor <;> rintro rfl <;> cases plain
  have after (before : List Token.Kind) :
      (left ++ sign :: before).count .openParen ≤ (left ++ sign :: before).count .closeParen + room ↔
        before.count .openParen ≤ before.count .closeParen + room := by
    rw [Closed] at closed
    rw [List.count_append, List.count_append, List.count_cons_of_ne counts.1,
      List.count_cons_of_ne counts.2]
    omega
  constructor
  · intro shallow
    refine ⟨fun before isPrefix => shallow before (isPrefix.trans (List.prefix_append _ _)), ?_⟩
    intro before isPrefix
    refine (after before).1 (shallow _ ?_)
    exact (List.prefix_append_right_inj left).2 (List.cons_prefix_cons.2 ⟨rfl, isPrefix⟩)
  · rintro ⟨first, second⟩ before isPrefix
    rcases List.prefix_or_prefix_of_prefix isPrefix (List.prefix_append left _) with
      within | ⟨rest, rfl⟩
    · exact first before within
    · have restPrefix := (List.prefix_append_right_inj left).1 isPrefix
      rcases List.prefix_cons_iff.1 restPrefix with rfl | ⟨more, rfl, morePrefix⟩
      · rw [List.append_nil]
        exact first left (List.prefix_refl left)
      · exact (after more).2 (second more morePrefix)

/-- A group has one parenthesis more open than what is inside it. -/
theorem group_iff (closed : Closed kinds) :
    Shallow room (.openParen :: kinds ++ [.closeParen]) ↔
      ∃ inner, room = inner + 1 ∧ Shallow inner kinds := by
  constructor
  · intro shallow
    have first := shallow [.openParen] (List.cons_prefix_cons.2 ⟨rfl, List.nil_prefix⟩)
    obtain ⟨inner, rfl⟩ : ∃ inner, room = inner + 1 := ⟨room - 1, by simp at first; omega⟩
    refine ⟨inner, rfl, fun before isPrefix => ?_⟩
    have opened := shallow (.openParen :: before)
      (List.cons_prefix_cons.2 ⟨rfl, isPrefix.trans (List.prefix_append _ _)⟩)
    simp only [List.count_cons, beq_self_eq_true, if_true, beq_iff_eq, reduceCtorEq,
      if_false] at opened
    omega
  · rintro ⟨inner, rfl, shallow⟩ before isPrefix
    rw [List.cons_append] at isPrefix
    rcases List.prefix_cons_iff.1 isPrefix with rfl | ⟨rest, rfl, restPrefix⟩
    · simp
    · have within : rest.count .openParen ≤ rest.count .closeParen + inner := by
        rcases List.prefix_concat_iff.1 restPrefix with rfl | restPrefix
        · rw [Closed] at closed
          simp only [List.count_append, closed]
          simp
          omega
        · exact shallow rest restPrefix
      simp only [List.count_cons, beq_self_eq_true, if_true, beq_iff_eq, reduceCtorEq, if_false]
      omega

theorem enclose_of_imp {needed more : Bool} (closed : Closed kinds)
    (fewer : needed = true → more = true) (shallow : Shallow room (enclose more kinds)) :
    Shallow room (enclose needed kinds) := by
  cases needed with
  | true => rwa [fewer rfl] at shallow
  | false =>
    cases more with
    | false => exact shallow
    | true =>
      obtain ⟨inner, rfl, within⟩ := (group_iff closed).1 shallow
      exact within.mono (Nat.le_succ inner)

end Shallow

def Level.precedence : Level → Nat
  | .expression => 0
  | .term => 1
  | .factor => 2

theorem closed_enclose (tree : Predicate) (precedence : Nat) :
    Closed (enclose (tree.precedence < precedence) tree.signs) :=
  (tree.signs_derive.enclose precedence).closed

/-- An operand that stands where looser ones may stand needs no more parentheses. -/
theorem Shallow.looser {tree : Predicate} {room precedence tighter : Nat}
    (shallow : Shallow room (enclose (tree.precedence < tighter) tree.signs))
    (le : precedence ≤ tighter) :
    Shallow room (enclose (tree.precedence < precedence) tree.signs) := by
  refine shallow.enclose_of_imp tree.signs_derive.closed fun loose => ?_
  exact decide_eq_true ((of_decide_eq_true loose).trans_le le)

/-- The tree of a phrase, enclosed if it binds more loosely than the phrase does, goes no deeper
than the phrase. -/
theorem Derives.shallow {level : Level} {kinds : List Token.Kind} {tree : Predicate}
    (derives : Derives level kinds tree) {room : Nat} (shallow : Shallow room kinds) :
    Shallow room (Predicate.enclose (tree.precedence < level.precedence) tree.signs) := by
  induction derives generalizing room with
  | term _ ih => exact (ih shallow).looser (Nat.zero_le 1)
  | factor _ ih => exact (ih shallow).looser (Nat.le_succ 1)
  | or before _ ihLeft ihRight =>
    obtain ⟨left, right⟩ := (Shallow.join_iff before.closed rfl).1 shallow
    refine (Shallow.join_iff (closed_enclose _ 0) rfl).2 ⟨ihLeft left, ?_⟩
    simpa only [Level.precedence, Nat.lt_succ_iff] using ihRight right
  | and before _ ihLeft ihRight =>
    obtain ⟨left, right⟩ := (Shallow.join_iff before.closed rfl).1 shallow
    refine (Shallow.join_iff (closed_enclose _ 1) rfl).2 ⟨ihLeft left, ?_⟩
    simpa only [Level.precedence, Nat.lt_succ_iff] using ihRight right
  | contains field text => exact shallow
  | @group kinds tree inner ih =>
    -- the pair of the text is kept, or left out where the tree needs none
    obtain ⟨room, rfl, within⟩ := (Shallow.group_iff inner.closed).1 shallow
    have kept : Shallow (room + 1) (Predicate.enclose true tree.signs) :=
      (Shallow.group_iff tree.signs_derive.closed).2 ⟨room, rfl, ih within⟩
    exact kept.enclose_of_imp tree.signs_derive.closed fun _ => rfl

theorem Nested.text {text : String} {tree : Predicate} (parsed : parse text = .ok tree)
    {room : Nat} (nested : Nested room text) : Nested room tree.text := by
  have derives := (parse_eq_ok_iff.1 parsed).1
  have written := kinds_text fun literal mem => quote_not_mem_of_parse parsed mem
  rw [nested_iff, written]
  exact derives.shallow (nested_iff.1 nested)

/-- A predicate that a text is read as has literals without quotes and at most 512 field matches. It
is written with no more parentheses open at once than the text has, and is read back from what is
written. -/
theorem parse_canonical {text : String} {tree : Predicate} (parsed : parse text = .ok tree) :
    (∀ literal ∈ tree.literals, '"' ∉ literal.toList) ∧
      (1 ≤ tree.size ∧ tree.size ≤ 512) ∧
      (∀ room, Nested room text → Nested room tree.text) ∧
      parse tree.text = .ok tree ∧
      (parse tree.text).map Predicate.text = .ok tree.text := by
  obtain ⟨derives, fits⟩ := parse_eq_ok_iff.1 parsed
  obtain ⟨short, shallow⟩ := (fits_iff derives).1 fits
  have noQuote : ∀ literal ∈ tree.literals, '"' ∉ literal.toList := fun literal mem =>
    quote_not_mem_of_parse parsed mem
  have again := parse_text noQuote short (shallow.text parsed)
  refine ⟨noQuote, ⟨tree.size_pos, short⟩, fun room nested => nested.text parsed, again, ?_⟩
  rw [again]
  rfl

/-- Parentheses that are not needed, and spellings that are not the keywords, are gone after one
reading. -/
theorem parse_canonical_redundant :
    let text := "((TITLES \"a\" || (genre \"(b\"))) and (ACTOR \"c\")"
    let tree : Predicate :=
      .and (.or (.contains .title "a") (.contains .genre "(b")) (.contains .actor "c")
    parse text = .ok tree ∧ Nested 3 text ∧ Nested 3 tree.text ∧
      tree.text = "(TITLE \"a\" OR GENRE \"(b\") AND ACTOR \"c\"" ∧ parse tree.text = .ok tree := by
  intro text tree
  have parsed : parse text = .ok tree := by decide +kernel
  have within : ∀ before ∈ (brackets false text.toList).inits,
      before.count '(' ≤ before.count ')' + 3 := by decide +kernel
  have nested : Nested 3 text := fun before isPrefix =>
    within before ((List.mem_inits _ _).2 isPrefix)
  obtain ⟨_, _, noDeeper, again, _⟩ := parse_canonical parsed
  exact ⟨parsed, nested, noDeeper 3 nested, by decide +kernel, again⟩

end SmartCollections.Predicate
