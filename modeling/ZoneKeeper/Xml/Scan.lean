import ZoneKeeper.Xml.Character
import ZoneKeeper.Xml.Failure

/-!
# Scanning marked text

A document is read as characters marked with the line that they count for. In the document itself
that is the line they stand on; in the replacement text of an entity it is the line of the reference
that brought the text in, so that whatever is wrong inside an entity is found at the reference.

A scanner takes characters from a cursor. It stops either at a character that cannot be where it is,
or because the characters run out in the middle of something; which fault the latter is depends on
what is being read, so it is left to the caller.
-/

namespace ZoneKeeper.Xml

/-- A character and the line that it counts for. -/
structure Mark where
  /-- The character. -/
  char : Char
  /-- The line. -/
  line : Nat
  deriving DecidableEq, Repr

/-- Characters with their lines. -/
abbrev Marks := List Mark

namespace Marks

/-- The characters without their lines. -/
def text (m : Marks) : Text := m.map (·.char)

/-- The marks of a text whose characters all count for one line. -/
def atLine (line : Nat) (t : Text) : Marks := t.map (⟨·, line⟩)

/-- Adds the marks of a text that begins on a line to marks that are given last first; the result
is last first too, and comes with the line that the text ends on. A line ends with a line feed, a
carriage return, or both in this order. -/
def addLines (done : Marks) (line : Nat) : Text → Marks × Nat
  | [] => (done, line)
  | '\r' :: '\n' :: rest => addLines (⟨'\n', line⟩ :: ⟨'\r', line⟩ :: done) (line + 1) rest
  | c :: rest => addLines (⟨c, line⟩ :: done) (if c = '\n' || c = '\r' then line + 1 else line) rest

end Marks

/-- How characters end. -/
inductive Ending where
  /-- A document ends, with a whole character. -/
  | whole
  /-- The bytes of a document end inside a character. -/
  | insideChar
  /-- The bytes of a document end inside a unit of two bytes. -/
  | insideUnit
  /-- Part of a document ends, such as the replacement text of an entity. -/
  | part
  deriving DecidableEq, Repr

/-- Where reading has come to. -/
structure Cursor where
  /-- The characters that are left. -/
  rest : Marks
  /-- How many they are. -/
  left : Nat
  /-- How they end. -/
  ending : Ending
  /-- The line that they end on. -/
  lastLine : Nat
  deriving Repr

namespace Cursor

/-- The start of a document that is decoded to a text. -/
def ofText (t : Text) (ending : Ending) : Cursor :=
  let (marks, lastLine) := Marks.addLines [] 1 t
  ⟨marks.reverse, marks.length, ending, lastLine⟩

/-- The start of marks that are part of something larger. -/
def ofMarks (marks : Marks) (line : Nat) : Cursor := ⟨marks, marks.length, .part, line⟩

/-- The line of the next character, or that of the end. -/
def line (c : Cursor) : Nat :=
  match c.rest with
  | [] => c.lastLine
  | m :: _ => m.line

/-- The cursor after `n` characters. -/
def advance (c : Cursor) (n : Nat) : Cursor := { c with rest := c.rest.drop n, left := c.left - n }

/-- What it means that the characters ran out inside markup. -/
def shortFault (c : Cursor) : Fault :=
  if c.ending = .insideChar then .partialChar else .unclosedToken

/-- What it means that the characters ran out where markup could begin, though more was wanted. -/
def endFault (c : Cursor) : Fault :=
  match c.ending with
  | .whole => .noElement
  | .insideChar => .partialChar
  | .insideUnit => .unclosedToken
  | .part => .incompleteParameter

end Cursor

/-- Why a scanner stopped. -/
inductive Stop where
  /-- A character cannot be where it is. -/
  | invalid (line : Nat)
  /-- The characters ran out. -/
  | short
  deriving DecidableEq, Repr

/-- A scanner of characters. -/
abbrev Scan := StateT Cursor (Except Stop)

namespace Scan

/-- The next character, which stays where it is. -/
def peek : Scan Mark := do
  match (← get).rest with
  | [] => throw .short
  | m :: _ => return m

/-- The next character if there is one; it stays where it is. If the bytes end inside a character,
it is not known what comes next. -/
def peek? : Scan (Option Mark) := do
  let c ← get
  match c.rest with
  | [] => if c.ending = .insideChar then throw .short else return none
  | m :: _ => return some m

/-- Takes `n` characters without looking at them. -/
def skip (n : Nat) : Scan Unit := modify (·.advance n)

/-- Takes the next character. -/
def next : Scan Mark := do
  let m ← peek
  skip 1
  return m

/-- Stops at the next character, which cannot be here. -/
def reject {α : Type} : Scan α := do throw (.invalid (← peek).line)

/-- Takes characters as long as they have a property. -/
def takeWhile (p : Char → Bool) : Scan Marks := do
  let c ← get
  let taken := c.rest.takeWhile (p ·.char)
  set (c.advance taken.length)
  return taken

/-- Takes the next character, which must be the given one. -/
def expect (c : Char) : Scan Unit := do
  if (← peek).char = c then skip 1 else reject

/-- Takes white space, if there is any. -/
def spaces : Scan Unit := do
  let _ ← takeWhile isSpace

/-- Takes a name. -/
def name : Scan Marks := do
  if isNameStart (← peek).char then takeWhile isNameChar else reject

/-- The characters that a scanner takes. -/
def lexeme (s : Scan Unit) : Scan Marks := do
  let before ← get
  s
  return before.rest.take (before.left - (← get).left)

/-- Repeats a step until it gives a result, at most `fuel` times. -/
def iterateFor {σ α : Type} (step : σ → Scan (σ ⊕ α)) : (fuel : Nat) → σ → Scan α
  | 0, _ => throw .short
  | fuel + 1, s => do
    match ← step s with
    | .inl s => iterateFor step fuel s
    | .inr a => return a

/-- Repeats a step, which takes at least one character, until it gives a result. -/
def iterate {σ α : Type} (step : σ → Scan (σ ⊕ α)) (s : σ) : Scan α := do
  iterateFor step ((← get).left + 1) s

end Scan

end ZoneKeeper.Xml
