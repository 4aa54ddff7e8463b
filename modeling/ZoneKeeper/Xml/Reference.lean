import ZoneKeeper.Xml.Scan

/-!
# References

A reference stands for a character, by its number, or for the text of an entity, by its name. Five
entities stand for characters that markup is made of and need no declaration.
-/

namespace ZoneKeeper.Xml

open Text

/-- What a reference refers to. -/
inductive Reference where
  /-- A character by its number. -/
  | number (n : Nat)
  /-- An entity by its name. -/
  | entity (name : Text)
  deriving DecidableEq, Repr

/-- The character that an entity stands for in every document. -/
def predefined? (name : Text) : Option Char :=
  if name = "amp".toList then some '&'
  else if name = "lt".toList then some '<'
  else if name = "gt".toList then some '>'
  else if name = "quot".toList then some '"'
  else if name = "apos".toList then some '\''
  else none

/-- What a digit of base 16 is worth. -/
def hexValue (c : Char) : Nat :=
  if c.isDigit then c.toNat - '0'.toNat
  else if c.isUpper then c.toNat - 'A'.toNat + 10
  else c.toNat - 'a'.toNat + 10

/-- Whether a character is a digit of base 16. -/
def isHexDigit (c : Char) : Bool :=
  c.isDigit || ('a' ≤ c && c ≤ 'f') || ('A' ≤ c && c ≤ 'F')

/-- What digits are worth in a base. -/
def numberOf (base : Nat) (digits : Text) : Nat :=
  digits.foldl (fun n c => base * n + hexValue c) 0

namespace Scan

/-- Takes the number of a character and the `;` after it. -/
def number (base : Nat) (isDigit : Char → Bool) : Scan Reference := do
  let digits ← takeWhile isDigit
  if digits = [] then reject
  expect ';'
  return .number (numberOf base digits.text)

/-- Takes what follows the `&` of a reference. -/
def reference : Scan Reference := do
  if (← peek).char = '#' then
    skip 1
    if (← peek).char = 'x' then
      skip 1
      number 16 isHexDigit
    else number 10 Char.isDigit
  else
    let entity ← name
    expect ';'
    return .entity entity.text

end Scan

example : (Scan.reference.run (.ofMarks (.atLine 1 "#x41;b".toList) 1)).map (·.1) =
    .ok (.number 65) := rfl
example : (Scan.reference.run (.ofMarks (.atLine 1 "amp;".toList) 1)).map (·.1) =
    .ok (.entity "amp".toList) := rfl
example : (Scan.reference.run (.ofMarks (.atLine 3 "#x;".toList) 3)).map (·.1) =
    .error (.invalid 3) := rfl
example : (Scan.reference.run (.ofMarks (.atLine 3 "a".toList) 3)).map (·.1) =
    .error .short := rfl

end ZoneKeeper.Xml
