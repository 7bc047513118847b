import SmartCollections.Text.CaseTable

/-!
Upper and lower case of whole texts, by the full case mappings: one character may become several.
Upper case looks at one character at a time. Lower case does too, except for a capital sigma, which
is written `ς` at the end of a word and `σ` elsewhere.
-/
namespace SmartCollections.Text

def expansion? (table : List (Nat × List Nat)) (c : Char) : Option (List Char) :=
  (table.lookup c.toNat).map (·.map Char.ofNat)

def upperOf (c : Char) : List Char :=
  if c.toNat < 128 then [c.toUpper]
  else match expansion? upperExpansions c with
    | some form => form
    | none => [((Shift.find? upperShifts c).map Char.ofNat).getD c]

/-- The lower-case form of one character, wherever it stands. -/
def lowerOf (c : Char) : List Char :=
  if c.toNat < 128 then [c.toLower]
  else match expansion? lowerExpansions c with
    | some form => form
    | none => [((Shift.find? lowerShifts c).map Char.ofNat).getD c]

def upper (text : List Char) : List Char := text.flatMap upperOf

/-- Reading away from a sigma, the first character that is not passed over is a letter with case. -/
def meetsLetter (text : List Char) : Bool :=
  match text.dropWhile isCaseIgnorable with
  | [] => false
  | c :: _ => isCasedLetter c

/-- The lower-case form of `c` between the reversed text before it and the text after it. -/
def lowerBetween (before : List Char) (c : Char) (after : List Char) : List Char :=
  if c = 'Σ' then [if meetsLetter before && !meetsLetter after then 'ς' else 'σ'] else lowerOf c

/-- Lower case of the text, given the reversed text before it and the reversed result so far. -/
def lowerOnto (done before : List Char) : List Char → List Char
  | [] => done.reverse
  | c :: after => lowerOnto ((lowerBetween before c after).reverse ++ done) (c :: before) after

def lower (text : List Char) : List Char := lowerOnto [] [] text

end SmartCollections.Text
