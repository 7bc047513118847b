import SmartCollections.Document.Json.Reader

/-!
Documents from the bytes of a JSON file. Bytes that are no characters are tolerated inside a text,
which is then unreadable, and nowhere else.
-/
namespace SmartCollections.Json

/-- The characters that bytes stand for from a position on, with `damage` for each byte that is part
of no character. -/
def decodeFrom (bytes : ByteArray) (damage : Char) (done : List Char) (position : Nat) :
    List Char :=
  if position < bytes.size then
    match bytes.utf8DecodeChar? position with
    | some c => decodeFrom bytes damage (c :: done) (position + c.utf8Size)
    | none => decodeFrom bytes damage (damage :: done) (position + 1)
  else done.reverse
  termination_by bytes.size - position
  decreasing_by
    · have := Char.utf8Size_pos c
      omega
    · omega

/-- A character that stands for none of the bytes. -/
def unusedChar (bytes : ByteArray) : Char :=
  let used := decodeFrom bytes 'A' [] 0
  ((List.range (used.length + 1)).map fun n => Char.ofNat (0xF0000 + n)).find? (· ∉ used)
    |>.getD '\x00'

def decode (limit : Option Nat) (bytes : ByteArray) : Option Document :=
  match String.fromUTF8? bytes with
  | some text => read limit none text.toList
  | none =>
    let damage := unusedChar bytes
    read limit (some damage) (decodeFrom bytes damage [] 0)

end SmartCollections.Json
