import BulkSql.Syntax.Keyword
import BulkSql.Syntax.Layout
import BulkSql.Syntax.Reader

/-! # Lexemes

The words, numbers, quoted texts and symbols of a statement. A raw lexeme gives exactly the characters it takes; a
lexeme of the grammar also takes the layout behind it. Letters and digits are those of ASCII, also in names.
-/

namespace BulkSql

def isLetter (c : Char) : Bool := c.isAlpha

def isDecimalDigit (c : Char) : Bool := c.isDigit

/-- The characters that go on a bare word. -/
def isWordChar (c : Char) : Bool := c.isAlphanum || c == '_'

/-- The characters that start a bare word. -/
def isWordStart (c : Char) : Bool := isLetter c || c == '_'

namespace Reader

/-! ## Raw lexemes -/

/-- This very text. -/
def exactly (wanted : Text) : Reader Text := fun text =>
  match Text.after? wanted text with
  | some rest => .done wanted rest
  | none => .fail (.leaf text (.exactly wanted))

/-- One or more digits. -/
def digits : Reader Text := fun text =>
  match text.takeWhile isDecimalDigit with
  | [] => .fail (.leaf text .number)
  | d :: more => .done (d :: more) (text.dropWhile isDecimalDigit)

/-- One character of a set. -/
def oneOf (set : List Char) : Reader Text := fun text =>
  match text with
  | c :: rest => if c ∈ set then .done [c] rest else .fail (.leaf text .unnamed)
  | [] => .fail (.leaf text .unnamed)

/-- The exponent of a number. -/
def exponent : Reader Text := do
  let mark ← oneOf ['e', 'E']
  let sign ← optional (oneOf ['+', '-'])
  let power ← digits
  pure (mark ++ sign.getD [] ++ power)

/-- A point and the digits behind it. -/
def fraction : Reader Text := do
  let point ← exactly ['.']
  let places ← digits
  pure (point ++ places)

/-- A number starts with a digit, or with a point and a digit; it has no sign. -/
def rawNumber : Reader Text :=
  firstOf [
    do
      let whole ← digits
      let part ← optional fraction
      let power ← optional exponent
      pure (whole ++ part.getD [] ++ power.getD []),
    do
      let part ← fraction
      let power ← optional exponent
      pure (part ++ power.getD [])]

/-- The rest of a quoted text behind its opening quote, split after the closing quote. A quote written twice stands
for one and goes on. -/
def closeQuote? (quote : Char) : Text → Option (Text × Text)
  | [] => none
  | c :: rest =>
    if c = quote then
      match rest with
      | d :: rest' =>
        if d = quote then (closeQuote? quote rest').map fun (body, after) => (quote :: quote :: body, after)
        else some ([quote], rest)
      | [] => some ([quote], [])
    else (closeQuote? quote rest).map fun (body, after) => (c :: body, after)

/-- A text in quotes. A quote that is never closed is missed at the end. -/
def rawQuoted (quote : Char) : Reader Text := fun text =>
  match text with
  | c :: rest =>
    if c = quote then
      match closeQuote? quote rest with
      | some (body, after) => .done (quote :: body) after
      | none => .fail (.leaf [] (.exactly [quote]))
    else .fail (.leaf text (.exactly [quote]))
  | [] => .fail (.leaf text (.exactly [quote]))

/-- A word of letters, digits and underscores that does not start with a digit. -/
def rawWord : Reader Text := fun text =>
  match text with
  | c :: rest =>
    if isWordStart c then .done (c :: rest.takeWhile isWordChar) (rest.dropWhile isWordChar)
    else .fail (.alternatives [.leaf text .identifier, .leaf text (.exactly ['_'])])
  | [] => .fail (.alternatives [.leaf text .identifier, .leaf text (.exactly ['_'])])

/-- A keyword in any case, as it is written. It ends where no word character follows. -/
def rawKeyword (keyword : Keyword) : Reader Text := fun text =>
  let size := keyword.word.length
  if Text.upperCase (text.take size) = keyword.word then
    match text.drop size with
    | [] => .done (text.take size) []
    | c :: rest =>
      if isWordChar c then .fail (.leaf (c :: rest) .wordEnd) else .done (text.take size) (c :: rest)
  else .fail (.leaf text (.exactly keyword.word))

/-! ## Lexemes of the grammar -/

/-- Layout, which may be empty. -/
def layout : Reader Unit := fun text => .done () (skipLayout text)

/-- A raw lexeme and the layout behind it. -/
def lexeme {α : Type} (raw : Reader α) : Reader α := do
  let value ← raw
  layout
  pure value

def symbol (wanted : Text) : Reader Text := lexeme (exactly wanted)

def keywordText (keyword : Keyword) : Reader Text := lexeme (rawKeyword keyword)

def keyword (keyword : Keyword) : Reader Unit := do
  let _ ← keywordText keyword

/-- Keywords one after another. -/
def keywords : List Keyword → Reader Unit
  | [] => pure ()
  | first :: more => do
    keyword first
    keywords more

def word : Reader Text := lexeme rawWord

def quotedName : Reader Text := lexeme (rawQuoted '"')

/-- A word that is not reserved. A reserved one is refused where it starts. -/
def bareName : Reader Text := fun text =>
  match word text with
  | .done name rest => if isReserved name then .fail (.leaf text .identifier) else .done name rest
  | reply => reply

/-- A name in double quotes, or a word that is not reserved. -/
def identifier : Reader Text := firstOf [quotedName, bareName]

def number : Reader Text := lexeme rawNumber

def string : Reader Text := lexeme (rawQuoted '\'')

def placeholder : Reader Text := symbol ['?']

/-- The name of a type: any word, reserved or not, or a name in double quotes, with brackets behind it for an array.
Nothing may stand before the brackets. -/
def typeName : Reader Text := lexeme do
  let name ← firstOf [rawWord, rawQuoted '"']
  let brackets ← optional (exactly ['[', ']'])
  pure (name ++ brackets.getD [])

end Reader

end BulkSql
