import ZoneKeeper.Text.Hex
import ZoneKeeper.Text.Printable

/-!
# Quoted names

How the texts of operating-system faults quote a name: between single quotes, or between double
quotes if the name holds a single quote and no double one. The quote in use and the backslash are
escaped by a backslash, line feed, carriage return and tab by their letters, and every other
character that is not printable by its code point in hexadecimal.
-/

namespace ZoneKeeper.Text

/-- The quote that a name is put between. -/
def quoteFor (t : Text) : Char :=
  if t.contains '\'' && !t.contains '"' then '"' else '\''

/-- A character as it stands between quotes `q`. -/
def escape (q c : Char) : Text :=
  if c = q || c = '\\' then ['\\', c]
  else if c = '\n' then ['\\', 'n']
  else if c = '\r' then ['\\', 'r']
  else if c = '\t' then ['\\', 't']
  else if isPrintable c then [c]
  else if c.toNat < 0x100 then '\\' :: 'x' :: hex 2 c.toNat
  else if c.toNat < 0x10000 then '\\' :: 'u' :: hex 4 c.toNat
  else '\\' :: 'U' :: hex 8 c.toNat

/-- The name between its quotes. -/
def quoted (t : Text) : Text :=
  let q := quoteFor t
  q :: t.flatMap (escape q) ++ [q]

end ZoneKeeper.Text
