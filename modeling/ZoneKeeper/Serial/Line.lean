import ZoneKeeper.Text.Digit

/-!
# The serial line

A generated zone file carries its serial on a line of its own: tabs, ten decimal digits, tabs and
the comment `; Serial`, with a line feed on either side. Cutting the line out leaves the text that
the file is compared by.
-/

namespace ZoneKeeper.Serial

open Text

/-- A serial as its line writes it. -/
structure Mark where
  /-- The eight digits of the stamp, as written. -/
  stamp : Text
  /-- What the two digits of the version are worth. -/
  version : Nat
  deriving DecidableEq, Repr

/-- A text without its serial line, and the serial. -/
structure Cut where
  /-- The text that remains. -/
  body : Text
  /-- The serial that was on the line. -/
  mark : Mark
  deriving DecidableEq, Repr

/-- What follows one or more tabs. -/
def afterTabs? : Text → Option Text
  | '\t' :: rest => some (rest.dropWhile (· = '\t'))
  | _ => none

/-- The first `n` characters and what follows them, if they are all digits. -/
def takeDigits? (n : Nat) (t : Text) : Option (Text × Text) :=
  let digits := t.take n
  if digits.length = n && digits.all isDigit then some (digits, t.drop n) else none

/-- The serial of a text that begins with a serial line, and what follows the line. -/
def lineAt? (t : Text) : Option (Mark × Text) := do
  let t ← afterTabs? t
  let (stamp, t) ← takeDigits? 8 t
  let (version, t) ← takeDigits? 2 t
  let t ← afterTabs? t
  let t ← dropPrefix? "; Serial\n".toList t
  return (⟨stamp, (numeral? version).getD 0⟩, t)

/-- Cuts the first serial line out of a text. The line feed before it stays, its own goes; a line at
the very start of the text is none, having no line feed before it. -/
def cut? : Text → Option Cut
  | [] => none
  | c :: rest =>
    match if c = '\n' then lineAt? rest else none with
    | some (mark, after) => some ⟨'\n' :: after, mark⟩
    | none => (cut? rest).map fun cut => { cut with body := c :: cut.body }

example : cut? "a\n\t2026101907\t\t; Serial\nb".toList =
    some ⟨"a\nb".toList, "20261019".toList, 7⟩ := by decide
example : cut? "\t2026101907\t; Serial\n".toList = none := by decide

end ZoneKeeper.Serial
