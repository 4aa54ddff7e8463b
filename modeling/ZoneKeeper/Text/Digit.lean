import ZoneKeeper.Text.Basic

/-!
# Decimal digits

A decimal digit is any character of the Unicode category `Nd`, of whatever script. The category
falls into runs of ten consecutive characters, one run per script, worth 0 to 9 in order; so the
table of the zeros of the runs says which characters are digits and what each of them is worth.
-/

namespace ZoneKeeper.Text

/-- The code point of the digit zero of every script (Unicode 14, category `Nd`). -/
def digitZeros : List Nat :=
  [0x30, 0x660, 0x6F0, 0x7C0, 0x966, 0x9E6, 0xA66, 0xAE6, 0xB66, 0xBE6, 0xC66, 0xCE6, 0xD66,
   0xDE6, 0xE50, 0xED0, 0xF20, 0x1040, 0x1090, 0x17E0, 0x1810, 0x1946, 0x19D0, 0x1A80, 0x1A90,
   0x1B50, 0x1BB0, 0x1C40, 0x1C50, 0xA620, 0xA8D0, 0xA900, 0xA9D0, 0xA9F0, 0xAA50, 0xABF0,
   0xFF10, 0x104A0, 0x10D30, 0x11066, 0x110F0, 0x11136, 0x111D0, 0x112F0, 0x11450, 0x114D0,
   0x11650, 0x116C0, 0x11730, 0x118E0, 0x11950, 0x11C50, 0x11D50, 0x11DA0, 0x16A60, 0x16AC0,
   0x16B50, 0x1D7CE, 0x1D7D8, 0x1D7E2, 0x1D7EC, 0x1D7F6, 0x1E140, 0x1E2F0, 0x1E950, 0x1FBF0]

/-- What a decimal digit is worth; `none` for every other character. -/
def digitValue? (c : Char) : Option Nat :=
  (digitZeros.find? fun z => z ≤ c.toNat && c.toNat < z + 10).map (c.toNat - ·)

/-- Whether a character is a decimal digit of some script. -/
def isDigit (c : Char) : Bool := (digitValue? c).isSome

/-- Whether a character is one of the ten ASCII digits. -/
def isAsciiDigit (c : Char) : Bool := '0' ≤ c && c ≤ '9'

/-- The number that a text of decimal digits writes, most significant digit first; `none` if a
character is no digit. The empty text writes 0. -/
def numeral? (t : Text) : Option Nat :=
  t.foldlM (fun n c => (digitValue? c).map (10 * n + ·)) 0

/-- The ASCII digits of a number, without leading zeros. -/
def decimal (n : Nat) : Text := Nat.toDigits 10 n

/-- The ASCII digits of an integer, after a minus sign if it is negative. -/
def signedDecimal : Int → Text
  | .ofNat n => decimal n
  | .negSucc n => '-' :: decimal (n + 1)

/-- A number in at least two digits. -/
def twoDigits (n : Nat) : Text :=
  if n < 10 then '0' :: decimal n else decimal n

/-- An integer in at least two characters, the sign counted. -/
def signedTwoDigits : Int → Text
  | .ofNat n => twoDigits n
  | .negSucc n => '-' :: decimal (n + 1)

example : digitZeros.length = 66 := by decide
example : digitValue? '7' = some 7 ∧ digitValue? '٣' = some 3 ∧ digitValue? '²' = none := by decide
example : numeral? "٣07".toList = some 307 ∧ numeral? "1a".toList = none := by decide
example : twoDigits 7 = "07".toList ∧ signedTwoDigits (-4) = "-4".toList := by decide

end ZoneKeeper.Text
