/-!
Classes of characters as tables of inclusive code point ranges.
-/
namespace SmartCollections.Text

def covers (table : List (Nat × Nat)) (c : Char) : Bool :=
  table.any fun range => range.1 ≤ c.toNat && c.toNat ≤ range.2

end SmartCollections.Text
