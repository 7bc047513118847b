import SmartCollections.Document

/-!
Documents as JSON text, one item or entry a line, indented by two spaces. An empty list or table
stays on its line. Quotes, backslashes and controls are escaped, everything else is written as it
is.
-/
namespace SmartCollections.Json

def hexDigit (n : Nat) : Char := Nat.digitChar (n % 16)

/-- A character between the quotes of a text. -/
def escapedChar (c : Char) : List Char :=
  match c with
  | '"' => ['\\', '"']
  | '\\' => ['\\', '\\']
  | '\x08' => ['\\', 'b']
  | '\t' => ['\\', 't']
  | '\n' => ['\\', 'n']
  | '\x0c' => ['\\', 'f']
  | '\r' => ['\\', 'r']
  | c => if c < ' ' then ['\\', 'u', '0', '0', hexDigit (c.toNat / 16), hexDigit c.toNat] else [c]

def writeText (text : String) : String :=
  "\"" ++ String.ofList (text.toList.flatMap escapedChar) ++ "\""

def indentation (level : Nat) : String := String.ofList (List.replicate (2 * level) ' ')

/-- Lines between brackets, or the two brackets alone. -/
def bracketed (level : Nat) (opening closing : String) (lines : List String) : String :=
  if lines.isEmpty then opening ++ closing
  else
    opening ++ "\n" ++ String.intercalate ",\n" lines ++ "\n" ++ indentation level ++ closing

mutual

/-- A document that starts on a line indented by `level`. -/
def write (level : Nat) : Document → String
  | .null => "null"
  | .bool value => if value then "true" else "false"
  | .int value => toString value
  | .real spelling => spelling
  | .text value => writeText value
  | .list items => bracketed level "[" "]" (itemLines (level + 1) items)
  | .table entries => bracketed level "\x7b" "\x7d" (entryLines (level + 1) entries)
  | .unreadable => "null"

def itemLines (level : Nat) : List Document → List String
  | [] => []
  | item :: rest => (indentation level ++ write level item) :: itemLines level rest

def entryLines (level : Nat) : List (String × Document) → List String
  | [] => []
  | (key, value) :: rest =>
    (indentation level ++ writeText key ++ ": " ++ write level value) :: entryLines level rest

end

def pretty (document : Document) : String := write 0 document

end SmartCollections.Json
