import ZoneKeeper.Xml.Declaration

/-!
# Elements

Reading the elements of a document as a sequence of their beginnings and ends. Text between them is
checked and left out. The text of an entity is read in place of a reference to it, and the elements
that begin in it must end in it. What was read before something wrong is found stays read.
-/

namespace ZoneKeeper.Xml

open Text

/-- What is read of a document. -/
inductive Event where
  /-- An element begins; with its attributes in order and the line of its tag. -/
  | start (name : Text) (attributes : List (Text × Text)) (line : Nat)
  /-- An element ends. -/
  | finish (name : Text)
  deriving DecidableEq, Repr

/-- How far reading has come. -/
structure Progress where
  /-- What is read, last first. -/
  events : List Event
  /-- The elements that have begun and not ended, innermost first. -/
  openElements : List Text
  deriving DecidableEq, Repr

/-- An activity that reads elements and can fail, keeping what it has read. -/
abbrev Content := ExceptT Failure (StateM Progress)

/-- A piece of markup between elements. -/
inductive Piece where
  /-- A start tag. -/
  | start (tag : Tag)
  /-- An end tag. -/
  | finish (name : Text)
  /-- A comment. -/
  | comment
  /-- An instruction or an XML declaration. -/
  | instruction (kind : Instruction)
  /-- The opening of a CDATA section. -/
  | openSection
  deriving DecidableEq, Repr

/-- Takes what follows a `<`. -/
def Scan.piece : Scan Piece := do
  match (← peek).char with
  | '/' => skip 1; return .finish (← endTag)
  | '?' => skip 1; return .instruction (← instruction)
  | '!' =>
    skip 1
    match (← peek).char with
    | '-' => skip 1; comment; return .comment
    | '[' => skip 1; openSection; return .openSection
    | _ => reject
  | _ => return .start (← startTag)

namespace Content

/-- Fails. -/
def fail {α : Type} (fault : Fault) (line : Nat) : Content α := throw ⟨fault, line⟩

/-- What comes of an activity that reads nothing. -/
def ofExcept {α : Type} : Except Failure α → Content α
  | .ok a => return a
  | .error failure => throw failure

/-- Runs a scanner; `line` is that of the markup it is part of. -/
def scan {α : Type} (s : Scan α) (line : Nat) (c : Cursor) : Content (α × Cursor) :=
  ofExcept ((Parse.scan s line).run c)

/-- Adds to what is read. -/
def emit (e : Event) : Content Unit := modify fun p => { p with events := e :: p.events }

/-- An element begins, and ends too if it is empty. -/
def start (d : DocumentType) (opened : List Text) (tag : Tag) (line : Nat) : Content Unit := do
  let attributes ← ofExcept (d.attributesOf opened tag line)
  emit (.start tag.name attributes line)
  if tag.isEmpty then emit (.finish tag.name)
  else modify fun p => { p with openElements := tag.name :: p.openElements }

/-- An element ends. The outermost `base` elements cannot end here. -/
def finish (base : Nat) (name : Text) (line : Nat) : Content Unit := do
  let p ← get
  match p.openElements with
  | [] => fail .asynchronousEntity line
  | innermost :: outer =>
    if p.openElements.length ≤ base then fail .asynchronousEntity line
    if innermost ≠ name then fail .mismatchedTag line
    set (⟨.finish name :: p.events, outer⟩ : Progress)

/-- Takes the content of a CDATA section. Where it breaks off in a line end, that is the line that
counts. -/
def closeSection (c : Cursor) : Content Cursor := do
  match Scan.closeSection.run c with
  | .ok (_, c) => return c
  | .error (.invalid line) => fail .invalidToken line
  | .error .short =>
    if c.ending = .insideChar then fail .partialChar c.lastLine
    match c.rest.getLast? with
    | some ⟨'\r', line⟩ => fail .unclosedSection line
    | _ => fail .unclosedSection c.lastLine

/-- Reads what follows a `<`. -/
def markup (d : DocumentType) (opened : List Text) (base line : Nat) (c : Cursor) :
    Content Cursor := do
  let (piece, c) ← scan Scan.piece line c
  match piece with
  | .start tag => start d opened tag line; return c
  | .finish name => finish base name line; return c
  | .comment | .instruction .application => return c
  | .instruction .declaration => fail .misplacedDeclaration line
  | .openSection => closeSection c

/-- Takes a character that is text. A lone carriage return at the end of a document counts for the
end, on the line that it is on. -/
def character (m : Mark) (c : Cursor) : Content Cursor := do
  if !isChar m.char then fail .invalidToken m.line
  if m.char = '\r' && c.left = 1 && (c.ending = .whole || c.ending = .insideUnit) then
    fail .noElement m.line
  match c.rest.take 3 with
  | [⟨']', _⟩, ⟨']', _⟩, ⟨'>', line⟩] => fail .invalidToken line
  | _ => return c.advance 1

/-- The characters have run out, the outermost `base` elements being left to others to end. -/
def runOut (base : Nat) (c : Cursor) : Content Unit := do
  if c.ending ≠ .part then fail c.endFault c.lastLine
  if (← get).openElements.length ≠ base then fail .asynchronousEntity c.lastLine

/-- Reads what a reference refers to, `expand` reading the text of an entity. -/
def reference (d : DocumentType) (expand : (name replacement : Text) → (line : Nat) → Content Unit)
    (opened : List Text) (line : Nat) : Reference → Content Unit
  | .number n => do
    if !isCharNumber n then fail .charNumber line
  | .entity name => do
    if (predefined? name).isNone then
      match d.replace d.isStrict (opened.contains name) name with
      | .ok (.text t) => expand name t line
      | .ok _ => return ()
      | .error fault => fail fault line

/-- Reads up to the end of the outermost element or, in the text of an entity, up to the end of the
text. -/
def readWith (d : DocumentType)
    (expand : (name replacement : Text) → (line : Nat) → Content Unit) (opened : List Text)
    (base : Nat) : (fuel : Nat) → Cursor → Content Cursor
  | 0, c => return c
  | fuel + 1, c => do
    match c.rest with
    | [] => runOut base c; return c
    | m :: _ =>
      if m.char = '<' then
        let c ← markup d opened base m.line (c.advance 1)
        if (← get).openElements = [] then return c else readWith d expand opened base fuel c
      else if m.char = '&' then
        let (r, c) ← scan Scan.reference m.line (c.advance 1)
        reference d expand opened m.line r
        readWith d expand opened base fuel c
      else readWith d expand opened base fuel (← character m c)

/-- Reads in the document itself or in the text of the first entity in `opened`, which is part of
those of the others. -/
def read (d : DocumentType) : (depth : Nat) → (opened : List Text) → (base : Nat) → Cursor →
    Content Cursor
  | 0, _, _, c => return c
  | depth + 1, opened, base, c =>
    readWith d (fun name replacement line => do
      let base := (← get).openElements.length
      let _ ← read d depth (name :: opened) base (.ofMarks (.atLine line replacement) line)
      return ()) opened base (c.left + 1) c

/-- Reads the outermost element after the `<` of its tag. As no entity is part of its own text,
entities are never deeper in each other than there are entities. -/
def outermost (d : DocumentType) (line : Nat) (c : Cursor) : Content Cursor := do
  let (tag, c) ← scan Scan.startTag line c
  start d [] tag line
  if (← get).openElements = [] then return c else read d (d.entities.length + 1) [] 0 c

end Content

end ZoneKeeper.Xml
