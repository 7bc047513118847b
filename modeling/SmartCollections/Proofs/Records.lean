import Mathlib.Data.List.Forall2
import SmartCollections.Item.Record
import SmartCollections.Proofs.JsonRoundTrip
import SmartCollections.Proofs.StringSet
import SmartCollections.Rule.Record

/-!
# Records as documents

Items and rule sets are read from what is written of them, and nothing is lost in between: an absent
studio stays absent, lists of names are the same sets, flags are kept. What else may be written is
described apart from how it is read: a record is a table, with further keys and with keys left out,
or a list in the order of the keys whose last values are left out. Whatever is read from such a
document is read again from what is written of it.
-/

namespace SmartCollections

/-- A list can be read exactly if each of its items can be. -/
theorem mapM_eq_some_iff {α β : Type} {read : α → Option β} {items : List α} {values : List β} :
    items.mapM read = some values ↔
      List.Forall₂ (fun item value => read item = some value) items values := by
  induction items generalizing values with
  | nil => simp [eq_comm]
  | cons item items ih =>
    simp only [List.mapM_cons, Option.bind_eq_bind, Option.bind_eq_some_iff, ih,
      List.forall₂_cons_left_iff, Option.pure_def, Option.some.injEq]
    constructor
    · rintro ⟨first, found, others, rest, rfl⟩
      exact ⟨first, others, found, rest, rfl⟩
    · rintro ⟨first, others, found, rest, rfl⟩
      exact ⟨first, found, others, rest, rfl⟩

namespace Document

/-- What stands under a key that occurs once at most. -/
inductive Under (entries : List (String × Document)) (key : String) : Option Document → Prop
  | absent (others : ∀ entry ∈ entries, entry.1 ≠ key) : Under entries key none
  | once {before after : List (String × Document)} {value : Document}
      (split : entries = before ++ (key, value) :: after)
      (others : ∀ entry ∈ before ++ after, entry.1 ≠ key) : Under entries key (some value)

/-- A record with these values under its keys: a table, where there may be other keys too, or a list
in the order of the keys, where the last ones may be missing. -/
inductive IsRecord (keys : List String) : Document → List (Option Document) → Prop
  | table {entries : List (String × Document)} {values : List (Option Document)}
      (under : List.Forall₂ (Under entries) keys values) : IsRecord keys (.table entries) values
  | list {items : List Document} {missing : Nat} (whole : items.length + missing = keys.length) :
      IsRecord keys (.list items) (items.map some ++ List.replicate missing none)

/-- What stands for the value, or nothing if it is the default. -/
def Given {α : Type} (stands : α → Document → Prop) (default value : α) : Option Document → Prop
  | none => value = default
  | some document => stands value document

variable {entries : List (String × Document)} {key : String} {document : Document}

theorem unique?_eq_some_iff {value : Option Document} :
    unique? entries key = some value ↔ Under entries key value := by
  constructor
  · intro found
    unfold unique? at found
    split at found
    · next nothing =>
      obtain rfl := Option.some.inj found
      exact .absent fun entry mem => by simpa using List.filter_eq_nil_iff.1 nothing entry mem
    · next entry single =>
      obtain rfl := Option.some.inj found
      obtain ⟨before, after, rfl, first, same, last⟩ := List.filter_eq_cons_iff.1 single
      obtain ⟨name, value⟩ := entry
      obtain rfl : name = key := by simpa using same
      refine .once rfl (List.forall_mem_append.2 ⟨fun entry mem => ?_, fun entry mem => ?_⟩)
      · simpa using first entry mem
      · simpa using List.filter_eq_nil_iff.1 last entry mem
    · cases found
  · have apart {entries : List (String × Document)} (others : ∀ entry ∈ entries, entry.1 ≠ key) :
        entries.filter (·.1 == key) = [] :=
      List.filter_eq_nil_iff.2 fun entry mem => by simpa using others entry mem
    rintro (others | ⟨rfl, others⟩)
    · rw [unique?, apart others]
    · obtain ⟨first, last⟩ := List.forall_mem_append.1 others
      simp [unique?, List.filter_append, apart first, apart last]

theorem record?_eq_some_iff {keys : List String} {values : List (Option Document)} :
    record? keys document = some values ↔ IsRecord keys document values := by
  constructor
  · intro found
    cases document with
    | table entries =>
      refine .table ((mapM_eq_some_iff.1 found).imp fun _ _ => unique?_eq_some_iff.1)
    | list items =>
      rw [record?] at found
      split at found
      · next short =>
        obtain rfl := Option.some.inj found
        exact .list (Nat.add_sub_cancel' short)
      · cases found
    | _ => cases found
  · rintro (under | whole)
    · exact mapM_eq_some_iff.2 (under.imp fun _ _ => unique?_eq_some_iff.2)
    · rw [record?, if_pos (by omega), ← whole, Nat.add_sub_cancel_left]

theorem text?_eq_some_iff {value : String} :
    text? document = some value ↔ document = .text value := by
  cases document <;> simp [text?]

theorem bool?_eq_some_iff {value : Bool} :
    bool? document = some value ↔ document = .bool value := by
  cases document <;> simp [bool?]

theorem list?_eq_some_iff {α : Type} {item? : Document → Option α} {values : List α} :
    list? item? document = some values ↔ ∃ items, document = .list items ∧
      List.Forall₂ (fun item value => item? item = some value) items values := by
  cases document <;> simp [list?, mapM_eq_some_iff]

theorem required?_text_eq_some_iff {given : Option Document} {value : String} :
    required? text? given = some value ↔ given = some (.text value) := by
  cases given <;> simp [required?, text?_eq_some_iff]

theorem optional?_eq_some_iff {α : Type} {value? : Document → Option α}
    {stands : α → Document → Prop}
    (reads : ∀ document value, value? document = some value ↔ stands value document)
    {default value : α} {given : Option Document} :
    optional? value? default given = some value ↔ Given stands default value given := by
  cases given with
  | none => exact Option.some_inj.trans eq_comm
  | some document => exact reads document value

end Document

open Document

/-- A studio, or null for an absent one. -/
def WrittenStudio (studio : Option String) (document : Document) : Prop :=
  (studio = none ∧ document = .null) ∨ ∃ name, studio = some name ∧ document = .text name

/-- The names in any order, and as often as one likes. -/
def WrittenNames (names : StringSet) (document : Document) : Prop :=
  ∃ texts : List String, document = .list (texts.map .text) ∧ ∀ name, name ∈ names ↔ name ∈ texts

/-- A document that describes the item. -/
def Item.WrittenAs (item : Item) (document : Document) : Prop :=
  ∃ studio genres actors directors,
    IsRecord ["id", "title", "studio", "genres", "actors", "directors"] document
      [some (.text item.id), some (.text item.title), studio, genres, actors, directors] ∧
    Given WrittenStudio none item.studio studio ∧ Given WrittenNames .empty item.genres genres ∧
    Given WrittenNames .empty item.actors actors ∧
    Given WrittenNames .empty item.directors directors

theorem studio?_eq_some_iff {document : Document} {studio : Option String} :
    studio? document = some studio ↔ WrittenStudio studio document := by
  cases document <;> simp [studio?, WrittenStudio, text?, eq_comm]

theorem texts_eq_some_iff {items : List Document} {texts : List String} :
    List.Forall₂ (fun item text => text? item = some text) items texts ↔
      items = texts.map .text := by
  simp only [text?_eq_some_iff]
  rw [← List.forall₂_map_right_iff, List.forall₂_eq_eq_eq]

theorem names?_eq_some_iff {document : Document} {names : StringSet} :
    names? document = some names ↔ WrittenNames names document := by
  simp only [names?, Option.map_eq_some_iff, list?_eq_some_iff, texts_eq_some_iff, WrittenNames]
  constructor
  · rintro ⟨texts, ⟨_, rfl, rfl⟩, rfl⟩
    exact ⟨texts, rfl, fun name => StringSet.mem_ofList⟩
  · rintro ⟨texts, rfl, same⟩
    exact ⟨texts, ⟨_, rfl, rfl⟩, StringSet.ext_mem fun name => by simp [same]⟩

theorem Item.ofDocument?_eq_some_iff {document : Document} {item : Item} :
    Item.ofDocument? document = some item ↔ item.WrittenAs document := by
  constructor
  · intro read
    obtain ⟨values, record, rest⟩ := Option.bind_eq_some_iff.1 read
    split at rest
    · simp only [Option.bind_eq_bind, Option.bind_eq_some_iff, Option.pure_def,
        Option.some.injEq, required?_text_eq_some_iff,
        optional?_eq_some_iff fun _ _ => studio?_eq_some_iff,
        optional?_eq_some_iff fun _ _ => names?_eq_some_iff] at rest
      obtain ⟨_, rfl, _, rfl, _, isStudio, _, isGenres, _, isActors, _, isDirectors, rfl⟩ := rest
      exact ⟨_, _, _, _, record?_eq_some_iff.1 record, isStudio, isGenres, isActors, isDirectors⟩
    · cases rest
  · rintro ⟨studio, genres, actors, directors, record, isStudio, isGenres, isActors, isDirectors⟩
    have readStudio := (optional?_eq_some_iff fun _ _ => studio?_eq_some_iff).2 isStudio
    have readNames {names : StringSet} {given : Option Document}
        (isNames : Given WrittenNames .empty names given) :
        optional? names? .empty given = some names :=
      (optional?_eq_some_iff fun _ _ => names?_eq_some_iff).2 isNames
    simp [ofDocument?, record?_eq_some_iff.2 record, required?, text?, readStudio,
      readNames isGenres, readNames isActors, readNames isDirectors]

theorem writtenNames (names : StringSet) :
    WrittenNames names (.list (names.toList.map .text)) := ⟨names.toList, rfl, fun _ => .rfl⟩

theorem Item.toDocument_written (item : Item) : item.WrittenAs item.toDocument := by
  have record : record? ["id", "title", "studio", "genres", "actors", "directors"] item.toDocument =
      some [some (.text item.id), some (.text item.title), item.studio.map .text,
        some (.list (item.genres.toList.map .text)), some (.list (item.actors.toList.map .text)),
        some (.list (item.directors.toList.map .text))] := by
    cases given : item.studio <;> simp [toDocument, record?, unique?, given]
  have isStudio : Given WrittenStudio none item.studio (item.studio.map .text) := by
    cases item.studio with
    | none => rfl
    | some name => exact .inr ⟨name, rfl, rfl⟩
  exact ⟨_, _, _, _, record?_eq_some_iff.1 record, isStudio, writtenNames _, writtenNames _,
    writtenNames _⟩

def WrittenFlag (flag : Bool) (document : Document) : Prop := document = .bool flag

/-- A list of what stands for the values. -/
def WrittenList {α : Type} (written : α → Document → Prop) (values : List α) (document : Document) :
    Prop :=
  ∃ items, document = .list items ∧ List.Forall₂ (fun item value => written value item) items values

/-- A document that describes the rule. -/
def TitleRule.WrittenAs (rule : TitleRule) (document : Document) : Prop :=
  ∃ flag, IsRecord ["match", "collection", "case_sensitive"] document
      [some (.text rule.pattern), some (.text rule.collection), flag] ∧
    Given WrittenFlag false rule.caseSensitive flag

/-- A document that describes the rule. -/
def ExpressionRule.WrittenAs (rule : ExpressionRule) (document : Document) : Prop :=
  ∃ flag, IsRecord ["collection", "expression", "case_sensitive"] document
      [some (.text rule.collection), some (.text rule.expression), flag] ∧
    Given WrittenFlag false rule.caseSensitive flag

/-- A document that describes the rules. -/
def RuleSet.WrittenAs (rules : RuleSet) (document : Document) : Prop :=
  ∃ titleRules expressionRules,
    IsRecord ["title_rules", "expression_rules"] document [titleRules, expressionRules] ∧
    Given (WrittenList TitleRule.WrittenAs) [] rules.titleRules titleRules ∧
    Given (WrittenList ExpressionRule.WrittenAs) [] rules.expressionRules expressionRules

theorem optional?_flag_eq_some_iff {flag : Bool} {given : Option Document} :
    optional? bool? false given = some flag ↔ Given WrittenFlag false flag given :=
  optional?_eq_some_iff fun _ _ => bool?_eq_some_iff

theorem optional?_list_eq_some_iff {α : Type} {item? : Document → Option α}
    {written : α → Document → Prop}
    (reads : ∀ document value, item? document = some value ↔ written value document)
    {values : List α} {given : Option Document} :
    optional? (list? item?) [] given = some values ↔ Given (WrittenList written) [] values given :=
  optional?_eq_some_iff fun document values => by simp only [list?_eq_some_iff, reads, WrittenList]

/-- Two texts and a flag make a rule of either kind. -/
theorem flagged_eq_some_iff {α : Type} {keys : List String} {rule : String → String → Bool → α}
    {document : Document} {value : α} :
    (do
      match ← record? keys document with
      | [first, second, flag] =>
        return rule (← required? text? first) (← required? text? second)
          (← optional? bool? false flag)
      | _ => none) = some value ↔
    ∃ first second isSet flag,
      IsRecord keys document [some (.text first), some (.text second), flag] ∧
        Given WrittenFlag false isSet flag ∧ rule first second isSet = value := by
  constructor
  · intro read
    obtain ⟨values, record, rest⟩ := Option.bind_eq_some_iff.1 read
    split at rest
    · simp only [Option.bind_eq_bind, Option.bind_eq_some_iff, Option.pure_def, Option.some.injEq,
        required?_text_eq_some_iff, optional?_flag_eq_some_iff] at rest
      obtain ⟨first, rfl, second, rfl, isSet, isFlag, made⟩ := rest
      exact ⟨first, second, isSet, _, record?_eq_some_iff.1 record, isFlag, made⟩
    · cases rest
  · rintro ⟨first, second, isSet, flag, record, isFlag, rfl⟩
    simp [record?_eq_some_iff.2 record, required?, text?, optional?_flag_eq_some_iff.2 isFlag]

theorem TitleRule.ofDocument?_eq_some_iff (document : Document) (rule : TitleRule) :
    TitleRule.ofDocument? document = some rule ↔ rule.WrittenAs document := by
  refine flagged_eq_some_iff.trans ⟨?_, fun ⟨flag, record, isFlag⟩ => ?_⟩
  · rintro ⟨first, second, isSet, flag, record, isFlag, rfl⟩
    exact ⟨flag, record, isFlag⟩
  · exact ⟨_, _, _, flag, record, isFlag, rfl⟩

theorem ExpressionRule.ofDocument?_eq_some_iff (document : Document) (rule : ExpressionRule) :
    ExpressionRule.ofDocument? document = some rule ↔ rule.WrittenAs document := by
  refine flagged_eq_some_iff.trans ⟨?_, fun ⟨flag, record, isFlag⟩ => ?_⟩
  · rintro ⟨first, second, isSet, flag, record, isFlag, rfl⟩
    exact ⟨flag, record, isFlag⟩
  · exact ⟨_, _, _, flag, record, isFlag, rfl⟩

theorem RuleSet.ofDocument?_eq_some_iff (document : Document) (rules : RuleSet) :
    RuleSet.ofDocument? document = some rules ↔ rules.WrittenAs document := by
  constructor
  · intro read
    obtain ⟨values, record, rest⟩ := Option.bind_eq_some_iff.1 read
    split at rest
    · simp only [ofFields?, Option.bind_eq_bind, Option.bind_eq_some_iff, Option.pure_def,
        Option.some.injEq, optional?_list_eq_some_iff TitleRule.ofDocument?_eq_some_iff,
        optional?_list_eq_some_iff ExpressionRule.ofDocument?_eq_some_iff] at rest
      obtain ⟨_, isTitle, _, isExpression, rfl⟩ := rest
      exact ⟨_, _, record?_eq_some_iff.1 record, isTitle, isExpression⟩
    · cases rest
  · rintro ⟨titleRules, expressionRules, record, isTitle, isExpression⟩
    simp [ofDocument?, record?_eq_some_iff.2 record, ofFields?,
      (optional?_list_eq_some_iff TitleRule.ofDocument?_eq_some_iff).2 isTitle,
      (optional?_list_eq_some_iff ExpressionRule.ofDocument?_eq_some_iff).2 isExpression]

theorem TitleRule.toDocument_written (rule : TitleRule) : rule.WrittenAs rule.toDocument :=
  ⟨some (.bool rule.caseSensitive),
    record?_eq_some_iff.1 (by simp [toDocument, record?, unique?]), rfl⟩

theorem ExpressionRule.toDocument_written (rule : ExpressionRule) :
    rule.WrittenAs rule.toDocument :=
  ⟨some (.bool rule.caseSensitive),
    record?_eq_some_iff.1 (by simp [toDocument, record?, unique?]), rfl⟩

theorem WrittenList.map {α : Type} {written : α → Document → Prop} {write : α → Document}
    (each : ∀ value, written value (write value)) (values : List α) :
    WrittenList written values (.list (values.map write)) :=
  ⟨_, rfl, List.forall₂_map_left_iff.2 (List.forall₂_same.2 fun value _ => each value)⟩

theorem RuleSet.toDocument_written (rules : RuleSet) : rules.WrittenAs rules.toDocument :=
  ⟨some (.list (rules.titleRules.map TitleRule.toDocument)),
    some (.list (rules.expressionRules.map ExpressionRule.toDocument)),
    record?_eq_some_iff.1 (by simp [toDocument, record?, unique?]),
    .map TitleRule.toDocument_written _, .map ExpressionRule.toDocument_written _⟩

theorem Item.toDocument_textual (item : Item) : Json.Textual item.toDocument := by
  refine .table _ fun entry mem => ?_
  simp only [List.mem_append, List.mem_cons, List.not_mem_nil, or_false, Option.mem_toList,
    Option.map_eq_some_iff] at mem
  rcases mem with ((rfl | rfl) | ⟨studio, _, rfl⟩) | rfl | rfl | rfl
  · exact .text _
  · exact .text _
  · exact .text _
  all_goals exact .map .text _

theorem TitleRule.toDocument_textual (rule : TitleRule) : Json.Textual rule.toDocument :=
  .table _ (by simp [Json.Textual.text, Json.Textual.bool])

theorem ExpressionRule.toDocument_textual (rule : ExpressionRule) : Json.Textual rule.toDocument :=
  .table _ (by simp [Json.Textual.text, Json.Textual.bool])

theorem RuleSet.toDocument_textual (rules : RuleSet) : Json.Textual rules.toDocument := by
  refine .table _ fun entry mem => ?_
  simp only [List.mem_cons, List.not_mem_nil, or_false] at mem
  rcases mem with rfl | rfl
  · exact .map TitleRule.toDocument_textual _
  · exact .map ExpressionRule.toDocument_textual _

/-- What is written of an item or of a rule set is read as the same, as a document and as text. What
else is read, in whatever notation, is read again from what is written of it; and what is read are
exactly the documents that describe an item or a rule set. -/
theorem records_survive :
    (∀ item : Item, Item.ofDocument? item.toDocument = some item ∧
      (Json.decode none (Json.pretty item.toDocument).toUTF8).bind Item.ofDocument? = some item) ∧
    (∀ rules : RuleSet, RuleSet.ofDocument? rules.toDocument = some rules ∧
      (Json.decode none (Json.pretty rules.toDocument).toUTF8).bind RuleSet.ofDocument? =
        some rules) ∧
    (∀ document, (Item.ofDocument? document).bind (fun item => Item.ofDocument? item.toDocument) =
      Item.ofDocument? document) ∧
    (∀ document, (RuleSet.ofDocument? document).bind
      (fun rules => RuleSet.ofDocument? rules.toDocument) = RuleSet.ofDocument? document) ∧
    (∀ (document : Document) (item : Item),
      Item.ofDocument? document = some item ↔ item.WrittenAs document) ∧
    ∀ (document : Document) (rules : RuleSet),
      RuleSet.ofDocument? document = some rules ↔ rules.WrittenAs document := by
  have item_back (item : Item) : Item.ofDocument? item.toDocument = some item :=
    Item.ofDocument?_eq_some_iff.2 item.toDocument_written
  have rules_back (rules : RuleSet) : RuleSet.ofDocument? rules.toDocument = some rules :=
    (RuleSet.ofDocument?_eq_some_iff _ _).2 rules.toDocument_written
  refine ⟨fun item => ⟨item_back item, ?_⟩, fun rules => ⟨rules_back rules, ?_⟩, fun document => ?_,
    fun document => ?_, fun document item => Item.ofDocument?_eq_some_iff,
    RuleSet.ofDocument?_eq_some_iff⟩
  · rw [Json.decode_pretty item.toDocument_textual, Option.bind_some, item_back]
  · rw [Json.decode_pretty rules.toDocument_textual, Option.bind_some, rules_back]
  · simp [item_back]
  · simp [rules_back]

end SmartCollections
