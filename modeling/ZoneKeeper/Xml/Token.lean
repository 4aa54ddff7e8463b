import ZoneKeeper.Xml.Markup

/-!
# Tokens

What a document is made of outside of its elements: before the first tag, inside a document type
declaration, and after the last tag. White space separates tokens and is no token itself.
-/

namespace ZoneKeeper.Xml

open Text

/-- A token outside of the elements. -/
inductive Token where
  /-- `<!` and a keyword. -/
  | declare (keyword : Text)
  /-- The `>` that ends a declaration. -/
  | close
  /-- A name, and how often it may occur if that is said. -/
  | name (t : Text) (occurrence : Option Char)
  /-- Characters of a name that do not begin one. -/
  | nameToken (t : Text)
  /-- `#` and a name. -/
  | numberSign (t : Text)
  /-- Characters in quotes. -/
  | literal (value : Marks)
  /-- `[`. -/
  | openBracket
  /-- `]`. -/
  | closeBracket
  /-- `(`. -/
  | openGroup
  /-- `)`, and how often the group may occur if that is said. -/
  | closeGroup (occurrence : Option Char)
  /-- `,`. -/
  | comma
  /-- `|`. -/
  | bar
  /-- `%`. -/
  | percent
  /-- A reference to a parameter entity. -/
  | parameter (name : Text)
  /-- `<![`. -/
  | openSection
  /-- `]]>`. -/
  | closeSection
  /-- A comment. -/
  | comment
  /-- An instruction or an XML declaration. -/
  | instruction (kind : Instruction)
  /-- The `<` that a start tag begins with. -/
  | element
  deriving DecidableEq, Repr

/-- Whether a character says how often something may occur. -/
def isOccurrence (c : Char) : Bool := c = '?' || c = '*' || c = '+'

/-- Whether a name may end before a character. -/
def endsName (c : Char) : Bool :=
  isSpace c || c = '>' || c = ')' || c = ',' || c = '|' || c = '[' || c = '%'

namespace Scan

/-- Takes how often something may occur, if that is said. What does not say it must be an end. -/
def occurrence (isEnd : Char → Bool) : Scan (Option Char) := do
  match ← peek? with
  | none => return none
  | some m =>
    if isOccurrence m.char then
      skip 1
      return some m.char
    else if isEnd m.char then return none
    else reject

/-- Looks whether what was taken ends before the next character. -/
def ending (isEnd : Char → Bool) : Scan Unit := do
  if let some m ← peek? then
    if !isEnd m.char then reject

/-- Takes the keyword of a declaration. -/
def keyword : Scan Text := do
  let isLetter (c : Char) := c.isAlpha || c = '_' || c = ':'
  if !isLetter (← peek).char then reject
  let word ← takeWhile isLetter
  let c := (← peek).char
  if c = '%' then
    match (← get).rest.drop 1 with
    | [] => throw .short
    | m :: _ => if isSpace m.char || m.char = '%' then reject
  else if !isSpace c then reject
  return word.text

/-- Takes what follows a `%`. -/
def afterPercent : Scan Token := do
  let c := (← peek).char
  if isSpace c || c = '%' then return .percent
  let entity ← name
  expect ';'
  return .parameter entity.text

/-- Takes what follows a `<`. -/
def afterLess : Scan Token := do
  let c := (← peek).char
  if c = '!' then
    skip 1
    let c := (← peek).char
    if c = '-' then
      skip 1
      comment
      return .comment
    else if c = '[' then
      skip 1
      return .openSection
    else return .declare (← keyword)
  else if c = '?' then
    skip 1
    return .instruction (← instruction)
  else if isNameStart c || 0x80 ≤ c.toNat then return .element
  else reject

/-- Takes what follows a quote. -/
def afterQuote (quote : Char) : Scan Token := do
  let value ← takeWhile fun c => isChar c && c ≠ quote
  expect quote
  ending fun c => isSpace c || c = '>' || c = '%' || c = '['
  return .literal value

/-- Takes what follows a `]`. -/
def afterBracket : Scan Token := do
  match ← peek? with
  | some ⟨']', _⟩ =>
    match (← get).rest.drop 1 with
    | [] => throw .short
    | m :: _ =>
      if m.char = '>' then
        skip 2
        return .closeSection
      else return .closeBracket
  | _ => return .closeBracket

/-- Takes a name, or characters of one. -/
def nameOrToken : Scan Token := do
  let isName := isNameStart (← peek).char
  let word ← takeWhile isNameChar
  if word = [] then reject
  if isName then return .name word.text (← occurrence endsName)
  ending endsName
  return .nameToken word.text

/-- Takes a token. -/
def token : Scan Token := do
  match (← peek).char with
  | '<' => skip 1; afterLess
  | '"' => skip 1; afterQuote '"'
  | '\'' => skip 1; afterQuote '\''
  | '%' => skip 1; afterPercent
  | '#' =>
    skip 1
    let word ← name
    ending fun c => isSpace c || c = ')' || c = '>' || c = '%' || c = '|'
    return .numberSign word.text
  | ']' => skip 1; afterBracket
  | ')' =>
    skip 1
    return .closeGroup
      (← occurrence fun c => isSpace c || c = '>' || c = ',' || c = '|' || c = ')')
  | '[' => skip 1; return .openBracket
  | '(' => skip 1; return .openGroup
  | '>' => skip 1; return .close
  | ',' => skip 1; return .comma
  | '|' => skip 1; return .bar
  | _ => nameOrToken

end Scan

end ZoneKeeper.Xml
