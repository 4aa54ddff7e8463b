import ZoneKeeper.Xml.Entity
import ZoneKeeper.Xml.Token

/-!
# Document type declarations

What stands before the first tag: comments, instructions, and the declaration of the document type
with the declarations inside it. The grammar is checked token by token, so a document is refused at
the first token that has no place in it. Of the declarations, those of entities and attributes are
kept; those of elements and data formats only have to be well written.

A parameter entity between two declarations is replaced by its text, which must hold whole
declarations. One that is not kept in the document is not read, and from there on the declarations
no longer count, as it may have said otherwise before them.
-/

namespace ZoneKeeper.Xml

open Text

/-- An activity that reads tokens and can fail. -/
abbrev Parse := StateT Cursor (Except Failure)

namespace Parse

/-- Runs a scanner; `line` is that of the token it is part of. -/
def scan {α : Type} (s : Scan α) (line : Nat) : Parse α := fun c =>
  match s.run c with
  | .ok result => .ok result
  | .error (.invalid line) => .error ⟨.invalidToken, line⟩
  | .error .short => .error ⟨c.shortFault, line⟩

/-- Fails. -/
def fail {α : Type} (fault : Fault) (line : Nat) : Parse α := throw ⟨fault, line⟩

/-- Takes white space. -/
def spaces : Parse Unit := modify fun c => c.advance (c.rest.takeWhile (isSpace ·.char)).length

/-- Takes white space and the token after it, which comes with its line. -/
def next : Parse (Token × Nat) := do
  spaces
  let c ← get
  if c.rest = [] then fail c.endFault c.lastLine
  return (← scan Scan.token c.line, c.line)

/-- Fails because of a token that has no place where it is. -/
def unexpected {α : Type} : Token → (line : Nat) → Parse α
  | .parameter _ => fail .parameterReference
  | .instruction .declaration => fail .misplacedDeclaration
  | _ => fail .syntaxError

/-- Takes the end of a declaration. -/
def close : Parse Unit := do
  match ← next with
  | (.close, _) => return ()
  | (t, line) => unexpected t line

/-- Takes a name. -/
def name : Parse Text := do
  match ← next with
  | (.name t none, _) => return t
  | (t, line) => unexpected t line

/-- Takes characters in quotes; they come with the line that they begin on. -/
def literal : Parse (Marks × Nat) := do
  match ← next with
  | (.literal value, line) => return (value, line)
  | (t, line) => unexpected t line

/-- Whether a character may be in a public identifier. -/
def isPublicChar (c : Char) : Bool :=
  c.isAlphanum || " \r\n-'()+,./:=?;!*#@$_%".toList.contains c

/-- Takes a public identifier. -/
def publicLiteral : Parse Unit := do
  let (value, _) ← literal
  if let some m := value.find? (!isPublicChar ·.char) then fail .publicIdentifier m.line

/-- Takes what follows the word `SYSTEM` or `PUBLIC` and tells that the word is one of these. -/
def external (word : Text) : Parse Bool := do
  if word = "SYSTEM".toList then
    let _ ← literal
    return true
  else if word = "PUBLIC".toList then
    publicLiteral
    let _ ← literal
    return true
  else return false

end Parse

namespace DocumentType

/-! ## Entities -/

/-- Adds what the characters of an entity's declaration mean to a text that is given last first,
`expand` adding what the parameter entities mean that they refer to; `none` if that is not known and
the text ends there. -/
def appendReplacement
    (expand : Text → (name : Text) → (line : Nat) → Except Failure (Option Text)) :
    (fuel : Nat) → (done : Text) → Marks → Except Failure Text
  | 0, done, _ => .ok done
  | _, done, [] => .ok done
  | fuel + 1, done, m :: rest =>
    if m.char = '\n' || m.char = '\r' then
      appendReplacement expand fuel ('\n' :: done) (dropLineEnd (m :: rest))
    else if m.char = '&' then
      match Scan.reference.run (.ofMarks rest m.line) with
      | .error (.invalid line) => .error ⟨.invalidToken, line⟩
      | .error .short => .error ⟨.invalidToken, m.line⟩
      | .ok (.number n, after) =>
        if isCharNumber n then appendReplacement expand fuel (Char.ofNat n :: done) after.rest
        else .error ⟨.charNumber, m.line⟩
      | .ok (.entity name, after) =>
        appendReplacement expand fuel (';' :: name.reverse ++ '&' :: done) after.rest
    else if m.char = '%' then
      match Scan.afterPercent.run (.ofMarks rest m.line) with
      | .error (.invalid line) => .error ⟨.invalidToken, line⟩
      | .ok (.parameter name, after) =>
        match expand done name m.line with
        | .ok (some done) => appendReplacement expand fuel done after.rest
        | .ok none => .ok done
        | .error failure => .error failure
      | _ => .error ⟨.invalidToken, m.line⟩
    else appendReplacement expand fuel (m.char :: done) rest

/-- Adds what the characters of an entity's declaration mean to a text that is given last first.
The characters are part of the texts of the parameter entities in `opened`; in the document itself,
which is part of none, no parameter entity can be referred to here. -/
def appendText (d : DocumentType) : (depth : Nat) → (opened : List Text) → (done : Text) → Marks →
    Except Failure Text
  | 0, _, done, _ => .ok done
  | depth + 1, opened, done, marks =>
    appendReplacement (fun done name line =>
      if opened = [] then .error ⟨.parameterReference, line⟩
      else match d.parameters.lookup name with
        | none => .ok none
        | some e =>
          if opened.contains name then .error ⟨.recursiveEntity, line⟩
          else match e.replacement with
            | none => .ok (some done)
            | some t => (d.appendText depth (name :: opened) done (.atLine line t)).map some)
      marks.length done marks

/-- The replacement text that is written between quotes. -/
def replacementText (d : DocumentType) (opened : List Text) (value : Marks) :
    Except Failure Text :=
  (d.appendText (d.parameters.length + 1) opened [] value).map List.reverse

/-- Reads the declaration of a parameter entity after the `%`. -/
def parameterEntity (d : DocumentType) (opened : List Text) : Parse DocumentType := do
  let name ← Parse.name
  match ← Parse.next with
  | (.literal value, _) =>
    let d ← if d.counts then
        let text ← StateT.lift (d.replacementText opened value)
        pure (d.addParameter name ⟨some text, false, opened ≠ []⟩)
      else pure d
    Parse.close
    return d
  | (.name word none, line) =>
    if !(← Parse.external word) then Parse.unexpected (.name word none) line
    Parse.close
    return d.addParameter name ⟨none, false, opened ≠ []⟩
  | (t, line) => Parse.unexpected t line

/-- Reads the declaration of a general entity after its name. -/
def generalEntity (d : DocumentType) (opened : List Text) (name : Text) : Parse DocumentType := do
  match ← Parse.next with
  | (.literal value, _) =>
    let d ← if d.counts then
        let text ← StateT.lift (d.replacementText opened value)
        pure (d.addEntity name ⟨some text, false, opened ≠ []⟩)
      else pure d
    Parse.close
    return d
  | (.name word none, line) =>
    if !(← Parse.external word) then Parse.unexpected (.name word none) line
    match ← Parse.next with
    | (.close, _) => return d.addEntity name ⟨none, false, opened ≠ []⟩
    | (.name word none, line) =>
      if word ≠ "NDATA".toList then Parse.unexpected (.name word none) line
      let _ ← Parse.name
      Parse.close
      return d.addEntity name ⟨none, true, opened ≠ []⟩
    | (t, line) => Parse.unexpected t line
  | (t, line) => Parse.unexpected t line

/-- Reads the declaration of an entity after the keyword. -/
def entityDeclaration (d : DocumentType) (opened : List Text) : Parse DocumentType := do
  match ← Parse.next with
  | (.percent, _) => d.parameterEntity opened
  | (.name name none, _) => d.generalEntity opened name
  | (t, line) => Parse.unexpected t line

/-! ## Attributes -/

/-- The types of attributes that have a name of their own. -/
def attributeTypes : List Text :=
  ["CDATA", "ID", "IDREF", "IDREFS", "ENTITY", "ENTITIES", "NMTOKEN", "NMTOKENS"].map String.toList

/-- Takes the values that an attribute may have, after the parenthesis: names or, if `anyToken`,
characters of names. -/
def alternatives (anyToken : Bool) : (fuel : Nat) → Parse Unit
  | 0 => return ()
  | fuel + 1 => do
    match ← Parse.next, anyToken with
    | (.name _ none, _), _ | (.nameToken _, _), true => pure ()
    | (t, line), _ => Parse.unexpected t line
    match ← Parse.next with
    | (.closeGroup none, _) => return ()
    | (.bar, _) => alternatives anyToken fuel
    | (t, line) => Parse.unexpected t line

/-- Takes the type of an attribute; one with a name of its own is told. -/
def attributeType : Parse (Option Text) := do
  match ← Parse.next with
  | (.openGroup, _) =>
    alternatives true (← get).left
    return none
  | (.name type none, line) =>
    if attributeTypes.contains type then return some type
    if type ≠ "NOTATION".toList then Parse.unexpected (.name type none) line
    match ← Parse.next with
    | (.openGroup, _) =>
      alternatives false (← get).left
      return none
    | (t, line) => Parse.unexpected t line
  | (t, line) => Parse.unexpected t line

/-- Reads what an attribute is where it is not written, and adds it. In the texts of the parameter
entities in `opened` an entity need not be declared. -/
def attributeDefault (d : DocumentType) (opened : List Text) (element name : Text)
    (type : Option Text) : Parse DocumentType := do
  let collapses := type ≠ some "CDATA".toList
  let add (value : Marks × Nat) : Parse DocumentType := do
    if !d.counts then return d
    let isStrict := if d.isStandalone then opened = [] else !d.isPartial
    let text ← StateT.lift (ValueRule.read ⟨d, isStrict, collapses, value.2⟩ [] value.1)
    return d.addAttribute ⟨element, name, collapses, some text⟩ false
  match ← Parse.next with
  | (.literal value, line) => add (value, line)
  | (.numberSign word, line) =>
    if word = "FIXED".toList then add (← Parse.literal)
    else if word = "IMPLIED".toList || word = "REQUIRED".toList then
      return d.addAttribute ⟨element, name, collapses, none⟩ (type = some "ID".toList)
    else Parse.unexpected (.numberSign word) line
  | (t, line) => Parse.unexpected t line

/-- Reads declarations of the attributes of an element up to the end. -/
def attributeDeclarations (opened : List Text) (element : Text) :
    (fuel : Nat) → DocumentType → Parse DocumentType
  | 0, d => return d
  | fuel + 1, d => do
    match ← Parse.next with
    | (.close, _) => return d
    | (.name name none, _) =>
      let type ← attributeType
      attributeDeclarations opened element fuel (← d.attributeDefault opened element name type)
    | (t, line) => Parse.unexpected t line

/-! ## Elements and data formats -/

/-- Reads the content of an element that is made of elements, after an item of a group. `groups`
holds, innermost first, what separates the items of each group that is open. -/
def contentModel (fuel : Nat) (groups : List (Option Token)) (wantsItem : Bool) : Parse Unit := do
  match fuel, groups with
  | 0, _ | _, [] => return ()
  | fuel + 1, separator :: outer =>
    match ← Parse.next, wantsItem with
    | (.openGroup, _), true => contentModel fuel (none :: groups) true
    | (.name _ _, _), true => contentModel fuel groups false
    | (.closeGroup _, _), false => contentModel fuel outer false
    | (.comma, line), false =>
      if separator = some .bar then Parse.fail .syntaxError line
      contentModel fuel (some .comma :: outer) true
    | (.bar, line), false =>
      if separator = some .comma then Parse.fail .syntaxError line
      contentModel fuel (some .bar :: outer) true
    | (t, line), _ => Parse.unexpected t line

/-- Reads the content of an element that has text between its elements, after a `|`. -/
def mixedContent : (fuel : Nat) → Parse Unit
  | 0 => return ()
  | fuel + 1 => do
    let _ ← Parse.name
    match ← Parse.next with
    | (.closeGroup (some '*'), _) => return ()
    | (.bar, _) => mixedContent fuel
    | (t, line) => Parse.unexpected t line

/-- Reads the declaration of an element after the keyword. -/
def elementDeclaration : Parse Unit := do
  let _ ← Parse.name
  match ← Parse.next with
  | (.name word none, line) =>
    if !(word = "EMPTY".toList || word = "ANY".toList) then
      Parse.unexpected (.name word none) line
  | (.openGroup, _) =>
    let fuel := (← get).left
    match ← Parse.next with
    | (.numberSign word, line) =>
      if word ≠ "PCDATA".toList then Parse.unexpected (.numberSign word) line
      match ← Parse.next with
      | (.closeGroup none, _) | (.closeGroup (some '*'), _) => pure ()
      | (.bar, _) => mixedContent fuel
      | (t, line) => Parse.unexpected t line
    | (.openGroup, _) => contentModel fuel [none, none] true
    | (.name _ _, _) => contentModel fuel [none] false
    | (t, line) => Parse.unexpected t line
  | (t, line) => Parse.unexpected t line
  Parse.close

/-- Reads the declaration of a data format after the keyword. -/
def formatDeclaration : Parse Unit := do
  let _ ← Parse.name
  match ← Parse.next with
  | (.name word none, line) =>
    if word = "SYSTEM".toList then
      let _ ← Parse.literal
      Parse.close
    else if word = "PUBLIC".toList then
      Parse.publicLiteral
      match ← Parse.next with
      | (.literal _, _) => Parse.close
      | (.close, _) => return ()
      | (t, line) => Parse.unexpected t line
    else Parse.unexpected (.name word none) line
  | (t, line) => Parse.unexpected t line

/-! ## The declarations together -/

/-- Reads the declaration with a keyword. -/
def declaration (d : DocumentType) (opened : List Text) (keyword : Text) (line : Nat) :
    Parse DocumentType := do
  if keyword = "ENTITY".toList then d.entityDeclaration opened
  else if keyword = "ATTLIST".toList then
    let element ← Parse.name
    attributeDeclarations opened element (← get).left d
  else if keyword = "ELEMENT".toList then
    elementDeclaration
    return d
  else if keyword = "NOTATION".toList then
    formatDeclaration
    return d
  else Parse.unexpected (.declare keyword) line

/-- The document type after a reference to a parameter entity that is not read. -/
def unread (d : DocumentType) : DocumentType := { d with counts := d.isStandalone }

/-- Reads declarations up to the bracket that closes them or, in the text of a parameter entity, up
to its end. `expand` reads the declarations in the text of a parameter entity. -/
def declarationsWith (expand : DocumentType → (name : Text) → (line : Nat) →
    Except Failure DocumentType) (opened : List Text) :
    (fuel : Nat) → DocumentType → Parse DocumentType
  | 0, d => return d
  | fuel + 1, d => do
    Parse.spaces
    if opened ≠ [] && (← get).rest = [] then return d
    match ← Parse.next with
    | (.closeBracket, line) =>
      if opened = [] then return d else Parse.fail .incompleteParameter line
    | (.comment, _) | (.instruction .application, _) => declarationsWith expand opened fuel d
    | (.declare keyword, line) =>
      declarationsWith expand opened fuel (← d.declaration opened keyword line)
    | (.parameter name, line) =>
      let d := { d with isPartial := true }
      let d ← StateT.lift (expand d name line)
      declarationsWith expand opened fuel d
    | (t, line) => Parse.unexpected t line

/-- Reads declarations in the document itself or in the text of the first parameter entity in
`opened`, which is part of those of the others. -/
def declarations : (depth : Nat) → (opened : List Text) → DocumentType → Parse DocumentType
  | 0, _, d => return d
  | depth + 1, opened, d => do
    declarationsWith (fun d name line =>
      if d.isStandalone then .ok d.unread
      else match d.parameters.lookup name with
        | none => .ok d.unread
        | some e =>
          if opened.contains name then .error ⟨.recursiveEntity, line⟩
          else match e.replacement with
            | none => .ok d.unread
            | some t =>
              ((declarations depth (name :: opened) d).run (.ofMarks (.atLine line t) line)).map
                (·.1))
      opened (← get).left d

/-- Reads the declaration of the document type after the keyword. -/
def doctype (d : DocumentType) : Parse DocumentType := do
  let _ ← Parse.name
  let inside (d : DocumentType) : Parse DocumentType := do
    let d ← declarations ((← get).left + 1) [] d
    Parse.close
    return d
  match ← Parse.next with
  | (.close, _) => return d
  | (.openBracket, _) => inside d
  | (.name word none, line) =>
    if !(← Parse.external word) then Parse.unexpected (.name word none) line
    let d := { d with isPartial := true }
    match ← Parse.next with
    | (.close, _) => return d
    | (.openBracket, _) => inside d
    | (t, line) => Parse.unexpected t line
  | (t, line) => Parse.unexpected t line

/-- Reads up to the `<` of the first tag, which is taken and comes with its line. -/
def beforeElement : (fuel : Nat) → (typed : Bool) → DocumentType → Parse (DocumentType × Nat)
  | 0, _, d => return (d, 1)
  | fuel + 1, typed, d => do
    match ← Parse.next with
    | (.element, line) => return (d, line)
    | (.comment, _) | (.instruction .application, _) => beforeElement fuel typed d
    | (.declare keyword, line) =>
      if typed || keyword ≠ "DOCTYPE".toList then Parse.unexpected (.declare keyword) line
      beforeElement fuel true (← d.doctype)
    | (t, line) => Parse.unexpected t line

end DocumentType

end ZoneKeeper.Xml
