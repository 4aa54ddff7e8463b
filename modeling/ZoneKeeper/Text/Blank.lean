import ZoneKeeper.Text.Basic

/-!
# Blanks

Which characters count as blank around a value, and trimming them off. The class is Unicode's white
space together with the four information separators U+001C to U+001F; the zero-width characters are
not in it.
-/

namespace ZoneKeeper.Text

/-- Whether a character is white space or an information separator. -/
def isBlank (c : Char) : Bool :=
  let n := c.toNat
  (0x09 ≤ n && n ≤ 0x0D) || (0x1C ≤ n && n ≤ 0x20) || n = 0x85 || n = 0xA0 || n = 0x1680 ||
    (0x2000 ≤ n && n ≤ 0x200A) || n = 0x2028 || n = 0x2029 || n = 0x202F || n = 0x205F ||
    n = 0x3000

/-- The text without the blanks that it begins with. -/
def trimLeft (t : Text) : Text := t.dropWhile isBlank

/-- The text without the blanks that it ends with. -/
def trimRight (t : Text) : Text := (t.reverse.dropWhile isBlank).reverse

/-- The text without the blanks around it. -/
def trim (t : Text) : Text := trimRight (trimLeft t)

example : trim "\u3000 a b\n".toList = "a b".toList := by decide
example : trim "\u200b ".toList = "\u200b".toList := by decide

end ZoneKeeper.Text
