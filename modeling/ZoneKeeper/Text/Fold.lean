import ZoneKeeper.Text.Basic

/-!
# Letter case

Folding names to capitals and to small letters. The names that folded texts are compared with
consist of ASCII letters, so a capital is needed only for the characters whose capital is a single
ASCII letter: the ASCII letters, the dotless `ı` and the long `ſ`. Small letters are needed only for
ASCII capitals.
-/

namespace ZoneKeeper.Text

/-- The capital of a character whose capital is an ASCII letter; any other character is kept. -/
def capital (c : Char) : Char :=
  if c = 'ı' then 'I' else if c = 'ſ' then 'S' else c.toUpper

/-- The text in capitals. -/
def capitals (t : Text) : Text := t.map capital

/-- The text with its ASCII capitals made small. -/
def smallLetters (t : Text) : Text := t.map Char.toLower

example : capitals "domaın".toList = "DOMAIN".toList := by decide
example : smallLetters "Utc é".toList = "utc é".toList := by decide

end ZoneKeeper.Text
