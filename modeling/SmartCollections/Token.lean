import SmartCollections.Field

/-!
Tokens of expression text, with the range of bytes each one covers.
-/
namespace SmartCollections

/-- A range of bytes of the text: `start` is the first byte, `stop` the first one after it. -/
structure Span where
  start : Nat
  stop : Nat
  deriving DecidableEq, Repr

/-- Text that is no token. -/
inductive LexicalFault where
  | unterminatedLiteral
  | unexpectedChar (c : Char)
  deriving DecidableEq, Repr

def LexicalFault.message : LexicalFault → String
  | unterminatedLiteral => "unterminated string literal"
  | unexpectedChar c => "unexpected character '" ++ c.toString ++ "'"

inductive Token.Kind where
  | field (field : Field)
  | literal (text : String)
  | and
  | or
  | openParen
  | closeParen
  /-- A word that is neither an operator nor a keyword. -/
  | word (text : String)
  | invalid (fault : LexicalFault)
  | eof
  deriving DecidableEq, Repr

def Token.Kind.describe : Token.Kind → String
  | field f => f.keyword
  | literal text => "string \"" ++ text ++ "\""
  | and => "AND"
  | or => "OR"
  | openParen => "'('"
  | closeParen => "')'"
  | word text => "'" ++ text ++ "'"
  | invalid fault => fault.message
  | eof => "end of input"

structure Token where
  kind : Token.Kind
  span : Span
  deriving DecidableEq, Repr

/-- The token that closes a text of `size` bytes. -/
def Token.atEnd (size : Nat) : Token := ⟨.eof, ⟨size, size⟩⟩

end SmartCollections
