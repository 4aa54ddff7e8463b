import ZoneKeeper.Xml.Markup

/-!
# Entities and attribute values

What a document type declares, as far as reading elements depends on it, and what references mean by
it. An attribute value is read from the text between its quotes: white space becomes blanks,
references are replaced, and a value of a type other than character data has its blanks collapsed.
The text of an entity is read like the value it is part of, and everything that is wrong in it is
found at the line of the tag.
-/

namespace ZoneKeeper.Xml

/-- A declared entity. -/
structure Entity where
  /-- Its replacement text, if it is kept in the document. -/
  replacement : Option Text
  /-- Whether it is data of some other kind, not text. -/
  isData : Bool
  /-- Whether the declaration is itself part of the text of a parameter entity. -/
  inParameter : Bool
  deriving DecidableEq, Repr

/-- A declared attribute. -/
structure AttributeRule where
  /-- The element that it belongs to. -/
  element : Text
  /-- Its name. -/
  name : Text
  /-- Whether blanks in its values are collapsed. -/
  collapses : Bool
  /-- Its value where none is written. -/
  default : Option Text
  deriving DecidableEq, Repr

/-- A document type, as far as it is read. -/
structure DocumentType where
  /-- The general entities in the order of their declaration. -/
  entities : List (Text × Entity)
  /-- The parameter entities in the order of their declaration. -/
  parameters : List (Text × Entity)
  /-- The attributes in the order of their declaration. -/
  attributes : List AttributeRule
  /-- Whether the document says that it needs no declarations outside of it. -/
  isStandalone : Bool
  /-- Whether there may be declarations that were not read. -/
  isPartial : Bool
  /-- Whether the declarations that follow still count. -/
  counts : Bool
  deriving DecidableEq, Repr

namespace DocumentType

/-- The type of a document that declares nothing. -/
def empty : DocumentType := ⟨[], [], [], false, false, true⟩

/-- Whether an entity has to be declared where elements are read. -/
def isStrict (d : DocumentType) : Bool := !d.isPartial || d.isStandalone

/-- Adds a general entity, unless one of its name is there. -/
def addEntity (d : DocumentType) (name : Text) (e : Entity) : DocumentType :=
  if d.counts && (predefined? name).isNone && (d.entities.lookup name).isNone then
    { d with entities := d.entities ++ [(name, e)] }
  else d

/-- Adds a parameter entity, unless one of its name is there. -/
def addParameter (d : DocumentType) (name : Text) (e : Entity) : DocumentType :=
  if d.counts && (d.parameters.lookup name).isNone then
    { d with parameters := d.parameters ++ [(name, e)] }
  else d

/-- Adds an attribute, unless one of its name is there and this one has a value to give or is an
identity. -/
def addAttribute (d : DocumentType) (rule : AttributeRule) (isIdentity : Bool) : DocumentType :=
  let isThere := d.attributes.any fun r => r.element = rule.element && r.name = rule.name
  if d.counts && !(isThere && (rule.default.isSome || isIdentity)) then
    { d with attributes := d.attributes ++ [rule] }
  else d

/-- The attributes declared for an element. -/
def rulesOf (d : DocumentType) (element : Text) : List AttributeRule :=
  d.attributes.filter (·.element = element)

end DocumentType

/-- What stands in place of a reference to an entity. -/
inductive Replacement where
  /-- Nothing, as the entity may be declared where it was not read. -/
  | skipped
  /-- Something outside of the document. -/
  | outside
  /-- A text. -/
  | text (t : Text)
  deriving DecidableEq, Repr

/-- What stands in place of a reference to an entity, given whether it has to be declared and
whether the reference is part of the text of that very entity. -/
def DocumentType.replace (d : DocumentType) (isStrict isOpen : Bool) (name : Text) :
    Except Fault Replacement :=
  match d.entities.lookup name with
  | none => if isStrict then .error .undefinedEntity else .ok .skipped
  | some e =>
    if isStrict && e.inParameter then .error .entityInParameter
    else if isOpen then .error .recursiveEntity
    else if e.isData then .error .binaryEntity
    else match e.replacement with
      | some t => .ok (.text t)
      | none => .ok .outside

/-- The characters without the line end that they begin with. -/
def dropLineEnd : Marks → Marks
  | [] => []
  | [_] => []
  | m :: n :: rest => if m.char = '\r' && n.char = '\n' then rest else n :: rest

/-- How an attribute value is read. -/
structure ValueRule where
  /-- What the document declares. -/
  type : DocumentType
  /-- Whether entities have to be declared. -/
  isStrict : Bool
  /-- Whether blanks are collapsed. -/
  collapses : Bool
  /-- The line of the tag. -/
  line : Nat
  deriving DecidableEq, Repr

namespace ValueRule

/-- Adds a blank to a value that is given last character first. -/
def addBlank (r : ValueRule) (done : Text) : Text :=
  if r.collapses && (done = [] || done.head? = some ' ') then done else ' ' :: done

/-- Adds a character that is given by its number. -/
def addNumbered (r : ValueRule) (done : Text) (n : Nat) : Text :=
  if n = 32 then r.addBlank done else Char.ofNat n :: done

/-- Adds what characters mean to a value that is given last character first, `expand` adding what
the entities mean that they refer to. At most `fuel` characters and references are read. -/
def appendWith (r : ValueRule)
    (expand : Text → (name : Text) → (line : Nat) → Except Failure Text) :
    (fuel : Nat) → (done : Text) → Marks → Except Failure Text
  | 0, done, _ => .ok done
  | _, done, [] => .ok done
  | fuel + 1, done, m :: rest =>
    if m.char = '<' then .error ⟨.invalidToken, m.line⟩
    else if isSpace m.char then
      r.appendWith expand fuel (r.addBlank done) (dropLineEnd (m :: rest))
    else if m.char = '&' then
      match Scan.reference.run (.ofMarks rest m.line) with
      | .error (.invalid line) => .error ⟨.invalidToken, line⟩
      | .error .short => .error ⟨.invalidToken, m.line⟩
      | .ok (.number n, after) =>
        if isCharNumber n then r.appendWith expand fuel (r.addNumbered done n) after.rest
        else .error ⟨.charNumber, m.line⟩
      | .ok (.entity name, after) =>
        match predefined? name with
        | some c => r.appendWith expand fuel (c :: done) after.rest
        | none =>
          match expand done name m.line with
          | .ok done => r.appendWith expand fuel done after.rest
          | .error failure => .error failure
    else r.appendWith expand fuel (m.char :: done) rest

/-- Adds what characters mean to a value that is given last character first. The characters are part
of the texts of the entities in `opened`; entities within entities are read `depth` deep. -/
def append (r : ValueRule) : (depth : Nat) → (opened : List Text) → (done : Text) → Marks →
    Except Failure Text
  | 0, _, done, _ => .ok done
  | depth + 1, opened, done, marks =>
    r.appendWith (fun done name line =>
      match r.type.replace r.isStrict (opened.contains name) name with
      | .ok .skipped => .ok done
      | .ok .outside => .error ⟨.externalEntity, line⟩
      | .ok (.text t) => r.append depth (name :: opened) done (.atLine r.line t)
      | .error .binaryEntity => .error ⟨.binaryEntity, line⟩
      | .error fault => .error ⟨fault, r.line⟩) marks.length done marks

/-- The value that is written between quotes. As no entity is part of its own text, entities are
never deeper in each other than there are entities. -/
def read (r : ValueRule) (opened : List Text) (marks : Marks) : Except Failure Text := do
  let value ← r.append (r.type.entities.length + 1) opened [] marks
  return (if r.collapses && value.head? = some ' ' then value.tail else value).reverse

end ValueRule

namespace DocumentType

/-- The attributes of a tag as they are written, `line` being the line of the tag. -/
def writtenAttributes (d : DocumentType) (opened : List Text) (tag : Tag) (line : Nat) :
    (before : List Text) → List RawAttribute → Except Failure (List (Text × Text))
  | _, [] => .ok []
  | before, a :: rest => do
    let name := a.name.text
    if before.contains name then .error ⟨.duplicateAttribute, (a.name.head?.map (·.line)).getD line⟩
    let collapses := (d.rulesOf tag.name |>.find? (·.name = name)).any (·.collapses)
    let value ← ValueRule.read ⟨d, d.isStrict, collapses, line⟩ opened a.value
    return (name, value) :: (← d.writtenAttributes opened tag line (name :: before) rest)

/-- The attributes that an element has without being written. -/
def defaultAttributes (element : Text) (written : List Text) :
    List AttributeRule → List (Text × Text)
  | [] => []
  | r :: rest =>
    match r.default with
    | some value =>
      if written.contains r.name then defaultAttributes element written rest
      else (r.name, value) :: defaultAttributes element (r.name :: written) rest
    | none => defaultAttributes element written rest

/-- The attributes of a tag, first those that are written and then those that are not. -/
def attributesOf (d : DocumentType) (opened : List Text) (tag : Tag) (line : Nat) :
    Except Failure (List (Text × Text)) := do
  let written ← d.writtenAttributes opened tag line [] tag.attributes
  return written ++ defaultAttributes tag.name (written.map (·.1)) (d.rulesOf tag.name)

end DocumentType

end ZoneKeeper.Xml
