import ZoneKeeper.Xml.Encoding
import ZoneKeeper.Xml.Markup

/-!
# The XML declaration

The instruction that a document may begin with: its version, then perhaps its encoding, then perhaps
whether it stands alone, in this order and with nothing else. It is written like attributes are, but
the values are made of fewer characters.
-/

namespace ZoneKeeper.Xml

open Text

/-- What an XML declaration says. -/
structure Opening where
  /-- The name of the encoding, and the line that it is on. -/
  encoding : Option (Text × Nat)
  /-- Whether the document stands alone. -/
  isStandalone : Bool
  deriving DecidableEq, Repr

/-- One saying of an XML declaration. -/
structure Saying where
  /-- What it is about. -/
  name : Text
  /-- The line of the name. -/
  nameLine : Nat
  /-- What it says. -/
  value : Text
  /-- The line of the value. -/
  valueLine : Nat
  deriving DecidableEq, Repr

/-- Whether a character may be in the value of a saying. -/
def isSayingChar (c : Char) : Bool := c.isAlphanum || c = '.' || c = '-' || c = '_'

namespace Scan

/-- Whether nothing is left. -/
def atEnd : Scan Bool := return (← get).rest.isEmpty

/-- Takes a saying and the white space before it; `none` if none is left. -/
def saying? : Scan (Option Saying) := do
  if ← atEnd then return none
  if !isSpace (← peek).char then reject
  spaces
  if ← atEnd then return none
  let nameLine := (← get).line
  let name ← takeWhile fun c => c.toNat < 0x80 && c ≠ '=' && !isSpace c
  if name = [] then reject
  spaces
  expect '='
  spaces
  let quote ← openingQuote
  let valueLine := (← get).line
  let value ← takeWhile isSayingChar
  expect quote
  return some ⟨name.text, nameLine, value.text, valueLine⟩

/-- Stops at a line that something wrong is on. -/
def wrongAt {α : Type} (line : Nat) : Scan α := throw (.invalid line)

/-- Takes white space up to the end. -/
def onlySpaces : Scan Unit := do
  spaces
  if !(← atEnd) then reject

/-- Reads whether the document stands alone. -/
def standalone (said : Saying) : Scan Bool := do
  if said.name ≠ "standalone".toList then wrongAt said.nameLine
  let answer ←
    if said.value = "yes".toList then pure true
    else if said.value = "no".toList then pure false
    else wrongAt said.valueLine
  onlySpaces
  return answer

/-- Takes what stands between the target and the end of an XML declaration. -/
def opening : Scan Opening := do
  let some version ← saying? | throw .short
  if version.name ≠ "version".toList then wrongAt version.nameLine
  let some second ← saying? | return ⟨none, false⟩
  if second.name ≠ "encoding".toList then return ⟨none, ← standalone second⟩
  if !(second.value.head?.any Char.isAlpha) then wrongAt second.valueLine
  let encoding := some (second.value, second.valueLine)
  let some third ← saying? | return ⟨encoding, false⟩
  return ⟨encoding, ← standalone third⟩

end Scan

/-- What a document begins with. -/
structure Beginning where
  /-- What the XML declaration says. -/
  opening : Opening
  /-- How many characters the declaration has. -/
  length : Nat
  deriving DecidableEq, Repr

/-- The characters that an XML declaration begins with. -/
def openingStart : Text := "<?xml".toList

/-- The characters that an XML declaration ends with. -/
def openingEnd : Text := "?>".toList

/-- The XML declaration that a document begins with, if it begins with one. What is wrong before the
end of the declaration is left to be found where the document is read. -/
def Beginning.read (c : Cursor) : Except Failure (Option Beginning) :=
  match (do Scan.expect '<'; Scan.expect '?'; Scan.instruction : Scan Instruction).run c with
  | .ok (.declaration, after) =>
    let length := c.left - after.left
    let inside := c.advance openingStart.length |>.rest.take
      (length - openingStart.length - openingEnd.length)
    let endLine := (c.advance (length - openingEnd.length)).line
    match Scan.opening.run (.ofMarks inside endLine) with
    | .ok (opening, _) => .ok (some ⟨opening, length⟩)
    | .error (.invalid line) => .error ⟨.malformedDeclaration, line⟩
    | .error .short => .error ⟨.malformedDeclaration, endLine⟩
  | _ => .ok none

end ZoneKeeper.Xml
