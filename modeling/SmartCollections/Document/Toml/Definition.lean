import SmartCollections.Document

/-!
What the statements of a TOML text define. A header opens a table, once; a dotted key adds to tables
that only dotted keys have made; a value, an inline table included, is closed once it is written.
-/
namespace SmartCollections.Toml

/-- How a table came to be: by a header of its own, by a longer header, or by a dotted key. -/
inductive Making where
  | declared
  | implied
  | dotted
  deriving DecidableEq

inductive Node where
  | value (document : Document)
  | table (making : Making) (entries : List (String × Node))
  /-- Tables that one header opens again and again. Each holds its entries. -/
  | tables (elements : List (List (String × Node)))

abbrev Entries := List (String × Node)

namespace Entries

/-- Binds a key to a node, instead of the one that is there. -/
def set (entries : Entries) (key : String) (node : Node) : Entries :=
  match entries with
  | [] => [(key, node)]
  | entry :: rest => if entry.1 = key then (key, node) :: rest else entry :: set rest key node

/-- Changes the entries at the end of a header's path. Missing tables are made; of tables under one
header, the last one is taken. -/
def changeAt (change : Entries → Option Entries) (entries : Entries) : List String → Option Entries
  | [] => change entries
  | key :: path =>
    match entries.lookup key with
    | none => do
      let inner ← changeAt change [] path
      return entries.set key (.table .implied inner)
    | some (.table making inner) => do
      let inner ← changeAt change inner path
      return entries.set key (.table making inner)
    | some (.tables elements) => do
      let last ← elements.getLast?
      let last ← changeAt change last path
      return entries.set key (.tables (elements.dropLast ++ [last]))
    | some (.value _) => none

def declare (key : String) (entries : Entries) : Option Entries :=
  match entries.lookup key with
  | none => some (entries.set key (.table .declared []))
  | some (.table .implied inner) => some (entries.set key (.table .declared inner))
  | _ => none

def declareElement (key : String) (entries : Entries) : Option Entries :=
  match entries.lookup key with
  | none => some (entries.set key (.tables [[]]))
  | some (.tables elements) => some (entries.set key (.tables (elements ++ [[]])))
  | _ => none

/-- Binds a key to a value, if it is free. -/
def bind (key : String) (value : Document) (entries : Entries) : Option Entries :=
  match entries.lookup key with
  | none => some (entries.set key (.value value))
  | some _ => none

/-- Binds the last part of a dotted key. The tables on the way are not open to headers, and the last
of them is one that a dotted key has made. -/
def bindDotted (value : Document) (entries : Entries) : List String → Option Entries
  | [] => none
  | [key] => entries.bind key value
  | key :: part :: path =>
    match entries.lookup key with
    | none => do
      let inner ← bindDotted value [] (part :: path)
      return entries.set key (.table .dotted inner)
    | some (.table making inner) =>
      if making = .declared ∨ (path.isEmpty ∧ making ≠ .dotted) then none
      else do
        let inner ← bindDotted value inner (part :: path)
        return entries.set key (.table making inner)
    | some (.tables elements) =>
      if path.isEmpty then none
      else do
        let last ← elements.getLast?
        let last ← bindDotted value last (part :: path)
        return entries.set key (.tables (elements.dropLast ++ [last]))
    | some (.value _) => none

end Entries

mutual

def Node.document : Node → Document
  | .value document => document
  | .table _ entries => .table (entriesDocuments entries)
  | .tables elements => .list (elementDocuments elements)

def entriesDocuments : List (String × Node) → List (String × Document)
  | [] => []
  | (key, node) :: rest => (key, node.document) :: entriesDocuments rest

def elementDocuments : List (List (String × Node)) → List Document
  | [] => []
  | entries :: rest => .table (entriesDocuments entries) :: elementDocuments rest

end

inductive Statement where
  | bind (key : List String) (value : Document)
  | table (path : List String)
  | element (path : List String)

/-- What has been defined, and the path of the last header. -/
structure Progress where
  entries : Entries
  path : List String

namespace Progress

def start : Progress := ⟨[], []⟩

def opening (progress : Progress) (path : List String)
    (change : String → Entries → Option Entries) : Option Progress := do
  let key ← path.getLast?
  return ⟨← progress.entries.changeAt (change key) path.dropLast, path⟩

def step (progress : Progress) : Statement → Option Progress
  | .bind key value => do
    let bindHere (entries : Entries) : Option Entries := entries.bindDotted value key
    return { progress with entries := ← progress.entries.changeAt bindHere progress.path }
  | .table path => progress.opening path Entries.declare
  | .element path => progress.opening path Entries.declareElement

end Progress

/-- The table that statements define, unless one of them goes against another. -/
def define (statements : List Statement) : Option Document := do
  let progress ← statements.foldlM Progress.step .start
  return .table (entriesDocuments progress.entries)

/-- The table that dotted keys between braces define. -/
def defineInline (bindings : List (List String × Document)) : Option Document :=
  define (bindings.map fun binding => .bind binding.1 binding.2)

end SmartCollections.Toml
