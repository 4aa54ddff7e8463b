import ZoneKeeper.Xml.Reference

/-!
# Markup

Tags, comments, instructions and CDATA sections, each from what follows the characters that show
which of them it is. They are taken as they are written; what they mean is decided elsewhere.
-/

namespace ZoneKeeper.Xml

open Text

/-- An attribute as it is written. -/
structure RawAttribute where
  /-- Its name. -/
  name : Marks
  /-- Its value between the quotes, references and all. -/
  value : Marks
  deriving DecidableEq, Repr

/-- A start tag as it is written. -/
structure Tag where
  /-- The name of the element. -/
  name : Text
  /-- The attributes in order. -/
  attributes : List RawAttribute
  /-- Whether the element is empty, the tag being its end too. -/
  isEmpty : Bool
  deriving DecidableEq, Repr

/-- What an instruction is. -/
inductive Instruction where
  /-- An instruction to some application. -/
  | application
  /-- An XML declaration. -/
  | declaration
  deriving DecidableEq, Repr

namespace Scan

/-- Takes the characters up to a quote, which is taken too, and every reference among them. -/
def quotedUntil (quote : Char) : Scan Marks := do
  let value ← lexeme <| iterate (fun _ => do
    let _ ← takeWhile fun c => isChar c && c ≠ quote && c ≠ '<' && c ≠ '&'
    let c := (← peek).char
    if c = quote then return .inr ()
    else if c = '&' then
      skip 1
      let _ ← reference
      return .inl ()
    else reject) ()
  skip 1
  return value

/-- Takes an opening quote and says which it is. -/
def openingQuote : Scan Char := do
  let c := (← peek).char
  if c = '"' || c = '\'' then
    skip 1
    return c
  else reject

/-- Takes an attribute and what has to follow it: white space, or the end of the tag, which is left
where it is. -/
def rawAttribute : Scan RawAttribute := do
  let key ← name
  spaces
  expect '='
  spaces
  let value ← quotedUntil (← openingQuote)
  let c := (← peek).char
  if isSpace c then
    spaces
    return ⟨key, value⟩
  else if c = '/' || c = '>' then return ⟨key, value⟩
  else reject

/-- Takes what follows the `<` of a start tag. -/
def startTag : Scan Tag := do
  let element ← name
  let c := (← peek).char
  if !(isSpace c || c = '/' || c = '>') then reject
  spaces
  iterate (fun attributes => do
    let c := (← peek).char
    if c = '>' then
      skip 1
      return .inr ⟨element.text, attributes.reverse, false⟩
    else if c = '/' then
      skip 1
      expect '>'
      return .inr ⟨element.text, attributes.reverse, true⟩
    else return .inl ((← rawAttribute) :: attributes)) []

/-- Takes what follows the `</` of an end tag. -/
def endTag : Scan Text := do
  let element ← name
  spaces
  expect '>'
  return element.text

/-- Takes what follows the `<!-` of a comment. Two hyphens end a comment, and nothing but `>` may
follow them. -/
def comment : Scan Unit := do
  expect '-'
  iterate (fun _ => do
    let _ ← takeWhile fun c => isChar c && c ≠ '-'
    expect '-'
    if (← peek).char = '-' then
      skip 1
      expect '>'
      return .inr ()
    else return .inl ()) ()

/-- What the target of an instruction makes of it. The target `xml` is that of the XML declaration;
written with capitals it is nothing. -/
def instructionOf (target : Text) : Scan Instruction :=
  if target = "xml".toList then return .declaration
  else if target.map Char.toLower = "xml".toList then reject
  else return .application

/-- Takes what follows the `<?` of an instruction. -/
def instruction : Scan Instruction := do
  let target ← name
  let c := (← peek).char
  if isSpace c then
    let kind ← instructionOf target.text
    iterate (fun _ => do
      let _ ← takeWhile fun c => isChar c && c ≠ '?'
      expect '?'
      if (← peek).char = '>' then
        skip 1
        return .inr ()
      else return .inl ()) ()
    return kind
  else
    if c ≠ '?' then reject
    let kind ← instructionOf target.text
    skip 1
    expect '>'
    return kind

/-- The characters between the brackets that open a CDATA section. -/
def sectionWord : Text := "CDATA[".toList

/-- Takes what follows the `<![` of a CDATA section up to its content. -/
def openSection : Scan Unit := do
  if ((← get).rest.take sectionWord.length).length < sectionWord.length then throw .short
  sectionWord.forM expect

/-- Takes the content of a CDATA section and the `]]>` that closes it. -/
def closeSection : Scan Unit :=
  iterate (fun _ => do
    let _ ← takeWhile fun c => isChar c && c ≠ ']'
    if Marks.text ((← get).rest.take 3) = "]]>".toList then
      skip 3
      return .inr ()
    else
      expect ']'
      return .inl ()) ()

end Scan

end ZoneKeeper.Xml
