import Mathlib.Data.List.Forall2
import SmartCollections.Document.Json.Decoding
import SmartCollections.Document.Json.Writer

/-!
# Texts, flags, lists and tables survive as JSON

A document without numbers and absent values is written as text that reads as the same document,
whatever characters its texts and keys are made of. The text is cut into the tokens of the document,
and these are put together again.
-/

namespace SmartCollections.Json

/-- Documents that texts, flags, lists and tables are enough for. -/
inductive Textual : Document → Prop where
  | bool (value : Bool) : Textual (.bool value)
  | text (value : String) : Textual (.text value)
  | list (items : List Document) (textual : ∀ item ∈ items, Textual item) : Textual (.list items)
  | table (entries : List (String × Document)) (textual : ∀ entry ∈ entries, Textual entry.2) :
      Textual (.table entries)

theorem Textual.map {α : Type} {write : α → Document} (each : ∀ value, Textual (write value))
    (values : List α) : Textual (.list (values.map write)) := by
  refine .list _ fun item mem => ?_
  obtain ⟨value, _, rfl⟩ := List.mem_map.1 mem
  exact each value

mutual

/-- The tokens that the text of a document is cut into. -/
def tokens : Document → List Token
  | .bool value => [.scalar (.bool value)]
  | .text value => [.text (some value)]
  | .list items => .openList :: ([Token.comma].intercalate (itemTokens items) ++ [.closeList])
  | .table entries =>
    .openTable :: ([Token.comma].intercalate (entryTokens entries) ++ [.closeTable])
  | _ => []

def itemTokens : List Document → List (List Token)
  | [] => []
  | item :: rest => tokens item :: itemTokens rest

def entryTokens : List (String × Document) → List (List Token)
  | [] => []
  | (key, value) :: rest => (.text (some key) :: .colon :: tokens value) :: entryTokens rest

end

theorem hexQuad?_control :
    ∀ n < 32, hexQuad? '0' '0' (hexDigit (n / 16)) (hexDigit n) = some n := by
  decide

/-- What stands for a character between quotes is read as that character. -/
theorem readText_escapedChar (r : TextReading) (c : Char) (rest : List Char) :
    readText none r (escapedChar c ++ rest) = readText none (r.add c) rest := by
  unfold escapedChar
  split
  all_goals try simp [readText, escape?]
  split
  · next control =>
    have small : c.toNat < 32 := control
    have unit : r.addUnit c.toNat = r.add c := by
      rw [TextReading.addUnit, if_neg (by omega), if_neg (by omega), Char.ofNat_toNat]
    simp [readText, hexQuad?_control _ small, unit]
  · next quote backslash _ _ _ _ _ visible =>
    rw [List.singleton_append, readText]
    · simp [visible, show c ≠ '\\' from backslash]
    · exact quote
    · exact fun _ _ _ _ _ heq _ => backslash heq
    · exact fun _ _ heq _ => backslash heq

theorem readText_escaped (done text : List Char) (rest : List Char) :
    readText none ⟨done, none, true⟩ (text.flatMap escapedChar ++ '"' :: rest) =
      some (some (.ofList (done.reverse ++ text)), rest) := by
  induction text generalizing done with
  | nil => simp [readText, TextReading.finish]
  | cons c text ih =>
    rw [List.flatMap_cons, List.append_assoc, readText_escapedChar]
    have added : TextReading.add ⟨done, none, true⟩ c = ⟨c :: done, none, true⟩ := rfl
    rw [added, ih]
    simp

theorem readTokens_token {c : Char} {chars rest : List Char} {token : Token}
    (visible : isSpace c = false) (reads : readToken none c chars = some (token, rest))
    (done : List Token) :
    readTokens none done (c :: chars) = readTokens none (token :: done) rest := by
  rw [readTokens, if_neg (by simp [visible])]
  split
  · next heq =>
    rw [reads] at heq
    cases heq
    rfl
  · next heq =>
    rw [reads] at heq
    cases heq

/-- The characters are cut into the tokens, whatever follows them. -/
def Lexes (chars : List Char) (cut : List Token) : Prop :=
  ∀ done rest, readTokens none done (chars ++ rest) = readTokens none (cut.reverse ++ done) rest

/-- The characters are cut into the tokens, if no letter follows them. -/
def LexesApart (chars : List Char) (cut : List Token) : Prop :=
  ∀ done rest, (∀ c ∈ rest.head?, c.isAlpha = false) →
    readTokens none done (chars ++ rest) = readTokens none (cut.reverse ++ done) rest

namespace Lexes

theorem nil : Lexes [] [] := fun _ _ => rfl

theorem append {chars more : List Char} {cut later : List Token} (first : Lexes chars cut)
    (second : Lexes more later) : Lexes (chars ++ more) (cut ++ later) := by
  intro done rest
  rw [List.append_assoc, first, second, List.reverse_append, List.append_assoc]

theorem apart {chars : List Char} {cut : List Token} (lexes : Lexes chars cut) :
    LexesApart chars cut := fun done rest _ => lexes done rest

theorem append_apart {chars more : List Char} {cut later : List Token} (first : Lexes chars cut)
    (second : LexesApart more later) : LexesApart (chars ++ more) (cut ++ later) := by
  intro done rest noLetter
  rw [List.append_assoc, first, second _ _ noLetter, List.reverse_append, List.append_assoc]

theorem space {c : Char} (blank : isSpace c = true) : Lexes [c] [] := by
  intro done rest
  rw [List.singleton_append, readTokens, if_pos blank]
  rfl

theorem mark {c : Char} {token : Token} (visible : isSpace c = false)
    (reads : ∀ rest, readToken none c rest = some (token, rest)) : Lexes [c] [token] :=
  fun done rest => readTokens_token visible (reads rest) done

theorem text (value : String) : Lexes (writeText value).toList [.text (some value)] := by
  intro done rest
  have quoted : (writeText value).toList ++ rest =
      '"' :: (value.toList.flatMap escapedChar ++ '"' :: rest) := by
    simp [writeText]
  have reads : readToken none '"' (value.toList.flatMap escapedChar ++ '"' :: rest) =
      some (.text (some value), rest) := by
    have inner := readText_escaped [] value.toList rest
    rw [List.reverse_nil, List.nil_append, String.ofList_toList] at inner
    simp [readToken, TextReading.start, inner]
  rw [quoted, readTokens_token rfl reads]
  rfl

theorem indentation (level : Nat) : Lexes (indentation level).toList [] := by
  rw [Json.indentation, String.toList_ofList]
  induction 2 * level with
  | zero => exact nil
  | succ n ih => exact (space (c := ' ') rfl).append ih

theorem comma : Lexes [','] [.comma] := mark rfl fun _ => rfl

theorem newline : Lexes ['\n'] [] := space rfl

end Lexes

namespace LexesApart

theorem append {chars more : List Char} {c : Char} {cut later : List Token}
    (first : LexesApart chars cut) (noLetter : c.isAlpha = false)
    (second : Lexes (c :: more) later) :
    Lexes (chars ++ c :: more) (cut ++ later) := by
  intro done rest
  have head : ∀ d ∈ (c :: more ++ rest).head?, d.isAlpha = false := by
    rintro d ⟨⟩
    exact noLetter
  rw [List.append_assoc, first _ _ head, second, List.reverse_append, List.append_assoc]

theorem bool (value : Bool) : LexesApart (if value then "true" else "false").toList
    [.scalar (.bool value)] := by
  intro done rest noLetter
  have word (letters : List Char) (alphabetic : letters.all Char.isAlpha = true) :
      (letters ++ rest).takeWhile Char.isAlpha = letters ∧
        (letters ++ rest).dropWhile Char.isAlpha = rest := by
    have run := List.all_eq_true.1 alphabetic
    rw [List.takeWhile_append_of_pos run, List.dropWhile_append_of_pos run]
    cases rest with
    | nil => simp
    | cons c rest => simp [noLetter c rfl]
  cases value with
  | false =>
    obtain ⟨taken, left⟩ := word ['a', 'l', 's', 'e'] rfl
    have reads : readToken none 'f' (['a', 'l', 's', 'e'] ++ rest) =
        some (.scalar (.bool false), rest) := by
      rw [readToken, taken, left]
      · rfl
      all_goals decide
    exact readTokens_token rfl reads done
  | true =>
    obtain ⟨taken, left⟩ := word ['r', 'u', 'e'] rfl
    have reads : readToken none 't' (['r', 'u', 'e'] ++ rest) =
        some (.scalar (.bool true), rest) := by
      rw [readToken, taken, left]
      · rfl
      all_goals decide
    exact readTokens_token rfl reads done

/-- Lines between commas. -/
theorem lines {lines : List String} {cuts : List (List Token)}
    (each : List.Forall₂ (fun line cut => LexesApart line.toList cut) lines cuts) :
    LexesApart (String.intercalate ",\n" lines).toList ([Token.comma].intercalate cuts) := by
  induction each with
  | nil => exact Lexes.nil.apart
  | cons first rest ih =>
    cases rest with
    | nil => simpa using first
    | cons second rest =>
      rw [String.intercalate_cons_cons, String.toList_append, String.toList_append,
        List.intercalate_cons_cons]
      exact (first.append rfl (Lexes.comma.append Lexes.newline)).append_apart ih

end LexesApart

theorem Lexes.bracketed {level : Nat} {opening closing : String} {first last : Token}
    {lines : List String} {cuts : List (List Token)} (opens : Lexes opening.toList [first])
    (closes : Lexes closing.toList [last])
    (each : List.Forall₂ (fun line cut => LexesApart line.toList cut) lines cuts) :
    Lexes (bracketed level opening closing lines).toList
      (first :: ([Token.comma].intercalate cuts ++ [last])) := by
  rw [Json.bracketed]
  split
  · next nothing =>
    rw [List.isEmpty_iff.1 nothing] at each
    cases each
    rw [String.toList_append]
    exact opens.append closes
  · simp only [String.toList_append]
    have inner := (opens.append newline).append_apart (LexesApart.lines each)
    have outer := ((inner.append rfl newline).append (Lexes.indentation level)).append closes
    simpa using outer

/-- The text of a document is cut into its tokens. -/
theorem write_lexes {document : Document} (textual : Textual document) (level : Nat) :
    LexesApart (write level document).toList (tokens document) := by
  induction textual generalizing level with
  | bool value =>
    rw [write, tokens]
    exact .bool value
  | text value =>
    rw [write, tokens]
    exact (Lexes.text value).apart
  | list items textual ih =>
    rw [write, tokens]
    have opens : Lexes ['['] [.openList] := .mark rfl fun _ => rfl
    have closes : Lexes [']'] [.closeList] := .mark rfl fun _ => rfl
    refine Lexes.apart (.bracketed opens closes ?_)
    induction items with
    | nil =>
      rw [itemLines, itemTokens]
      exact .nil
    | cons item items tail =>
      rw [itemLines, itemTokens]
      have others := tail (fun _ h => textual _ (List.mem_cons_of_mem _ h))
        fun _ h => ih _ (List.mem_cons_of_mem _ h)
      refine .cons ?_ others
      rw [String.toList_append]
      exact (Lexes.indentation _).append_apart (ih item List.mem_cons_self _)
  | table entries textual ih =>
    rw [write, tokens]
    have opens : Lexes ['\x7b'] [.openTable] := .mark rfl fun _ => rfl
    have closes : Lexes ['\x7d'] [.closeTable] := .mark rfl fun _ => rfl
    refine Lexes.apart (.bracketed opens closes ?_)
    induction entries with
    | nil =>
      rw [entryLines, entryTokens]
      exact .nil
    | cons entry entries tail =>
      obtain ⟨key, value⟩ := entry
      rw [entryLines, entryTokens]
      have others := tail (fun _ h => textual _ (List.mem_cons_of_mem _ h))
        fun _ h => ih _ (List.mem_cons_of_mem _ h)
      refine .cons ?_ others
      have separator : Lexes ": ".toList [.colon] :=
        (Lexes.mark (c := ':') rfl fun _ => rfl).append (.space (c := ' ') rfl)
      rw [String.toList_append, String.toList_append, String.toList_append]
      exact (((Lexes.indentation _).append (.text key)).append separator).append_apart
        (ih (key, value) List.mem_cons_self _)

theorem readTokens_pretty {document : Document} (textual : Textual document) :
    readTokens none [] (pretty document).toList = some (tokens document) := by
  have cut := write_lexes textual 0 [] [] nofun
  rw [List.append_nil, List.append_nil] at cut
  rw [pretty, cut, readTokens, List.reverse_reverse]

/-- The tokens are put together to the document, inside whatever lists and tables are open. -/
def Builds (document : Document) : Prop :=
  ∀ frames rest, ofTokens none ⟨.value, frames⟩ (tokens document ++ rest) =
    ofTokens none ⟨.after document, frames⟩ rest

/-- The first item of a list is read like any other: no document starts with the end of a list. -/
theorem tokens_head {document : Document} (textual : Textual document) :
    ∃ token later, tokens document = token :: later ∧ ∀ frames rest,
      ofTokens none ⟨.firstItem, frames⟩ (token :: rest) =
        ofTokens none ⟨.value, frames⟩ (token :: rest) := by
  cases textual with
  | bool value => exact ⟨_, [], by rw [tokens], fun _ _ => by simp [ofTokens, Progress.step]⟩
  | text value => exact ⟨_, [], by rw [tokens], fun _ _ => by simp [ofTokens, Progress.step]⟩
  | list items _ => exact ⟨_, _, by rw [tokens], fun _ _ => by simp [ofTokens, Progress.step]⟩
  | table entries _ => exact ⟨_, _, by rw [tokens], fun _ _ => by simp [ofTokens, Progress.step]⟩

theorem ofTokens_items {first : Document} {items : List Document}
    (builds : ∀ item ∈ first :: items, Builds item) (done : List Document) (frames : List Frame)
    (rest : List Token) :
    ofTokens none ⟨.value, .list done :: frames⟩
        ([Token.comma].intercalate (itemTokens (first :: items)) ++ .closeList :: rest) =
      ofTokens none ⟨.after (.list (done.reverse ++ first :: items)), frames⟩ rest := by
  induction items generalizing first done with
  | nil =>
    have single := builds first List.mem_cons_self (.list done :: frames) (.closeList :: rest)
    rw [itemTokens, itemTokens, List.intercalate_singleton, single]
    simp [ofTokens, Progress.step]
  | cons second items ih =>
    have others := ih (fun item h => builds item (List.mem_cons_of_mem _ h)) (first :: done)
    rw [itemTokens, itemTokens, List.intercalate_cons_cons, List.append_assoc, List.append_assoc,
      builds first List.mem_cons_self]
    rw [List.reverse_cons, List.append_assoc] at others
    exact others

theorem ofTokens_entries {first : String × Document} {entries : List (String × Document)}
    (builds : ∀ entry ∈ first :: entries, Builds entry.2) (done : List (String × Document))
    (key : String) (frames : List Frame) (rest : List Token) :
    ofTokens none ⟨.key, .table done true key :: frames⟩
        ([Token.comma].intercalate (entryTokens (first :: entries)) ++ .closeTable :: rest) =
      ofTokens none ⟨.after (.table (done.reverse ++ first :: entries)), frames⟩ rest := by
  induction entries generalizing first done key with
  | nil =>
    have single := builds first List.mem_cons_self (.table done true first.1 :: frames)
      (.closeTable :: rest)
    rw [entryTokens, entryTokens, List.intercalate_singleton]
    change ofTokens none ⟨.value, .table done true first.1 :: frames⟩ (tokens first.2 ++ _) = _
    rw [single]
    simp [ofTokens, Progress.step, closedTable]
  | cons second entries ih =>
    have others := ih (fun entry h => builds entry (List.mem_cons_of_mem _ h)) (first :: done) ""
    rw [entryTokens, entryTokens, List.intercalate_cons_cons, List.append_assoc, List.append_assoc]
    change ofTokens none ⟨.value, .table done true first.1 :: frames⟩ (tokens first.2 ++ _) = _
    rw [builds first List.mem_cons_self]
    rw [List.reverse_cons, List.append_assoc] at others
    exact others

theorem tokens_build {document : Document} (textual : Textual document) : Builds document := by
  induction textual with
  | bool value | text value =>
    intro frames rest
    simp [tokens, ofTokens, Progress.step, beginValue]
  | list items textual ih =>
    intro frames rest
    cases items with
    | nil => simp [tokens, itemTokens, ofTokens, Progress.step, beginValue]
    | cons item items =>
      obtain ⟨token, later, split, same⟩ := tokens_head (textual item List.mem_cons_self)
      have inner := ofTokens_items ih [] frames rest
      rw [itemTokens, split, List.intercalate_cons_cons_left, List.cons_append, ← same] at inner
      rw [tokens, itemTokens, split, List.intercalate_cons_cons_left, List.cons_append,
        List.append_assoc]
      exact inner
  | table entries textual ih =>
    intro frames rest
    cases entries with
    | nil => simp [tokens, entryTokens, ofTokens, Progress.step, beginValue, closedTable]
    | cons entry entries =>
      have inner := ofTokens_entries ih [] "" frames rest
      rw [entryTokens, List.intercalate_cons_cons_left, List.cons_append] at inner
      rw [tokens, entryTokens, List.intercalate_cons_cons_left, List.cons_append,
        List.append_assoc]
      exact inner

/-- The text of a document is read as that document, however deep it is nested. -/
theorem read_pretty {document : Document} (textual : Textual document) :
    read none none (pretty document).toList = some document := by
  have built := tokens_build textual [] []
  rw [List.append_nil] at built
  rw [read, readTokens_pretty textual]
  exact built

/-- The bytes of the text stand for the document. -/
theorem decode_pretty {document : Document} (textual : Textual document) :
    decode none (pretty document).toUTF8 = some document := by
  have characters : String.fromUTF8? (pretty document).toUTF8 = some (pretty document) := by
    have valid : (pretty document).toUTF8.IsValidUTF8 := (pretty document).isValidUTF8
    rw [String.fromUTF8?, dif_pos valid]
    rfl
  rw [decode, characters]
  exact read_pretty textual

end SmartCollections.Json
