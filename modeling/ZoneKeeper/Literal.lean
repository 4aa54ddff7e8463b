import ZoneKeeper.Text.Digit

/-!
# Literals of a declaration

Which texts count as a time, an IPv4 address and an MX preference. Apart from a leading non-zero
digit, which is ASCII, a digit may be of any script.
-/

namespace ZoneKeeper

open Text

/-- The unit letters of a time, in either case. -/
def timeUnits : Text := ['w', 'W', 'd', 'D', 'h', 'H', 'm', 'M', 's', 'S']

/-- Whether a character is one of the ASCII digits from 1 to 9. -/
def isNonZeroDigit (c : Char) : Bool := '1' ≤ c && c ≤ '9'

/-- Whether what follows the first digit of a time is digits and then at most one unit letter. -/
def isTimeTail : Text → Bool
  | [] => true
  | [c] => isDigit c || timeUnits.contains c
  | c :: rest => isDigit c && isTimeTail rest

/-- Whether a text is a time: a non-zero digit, digits, and at most one unit letter. -/
def isTime : Text → Bool
  | [] => false
  | c :: rest => isNonZeroDigit c && isTimeTail rest

/-- Whether a text is one to three digits. -/
def isOctetNumeral (t : Text) : Bool :=
  (1 ≤ t.length && t.length ≤ 3) && t.all isDigit

/-- Whether a text is one to three digits worth at most 255. -/
def isOctet (t : Text) : Bool :=
  isOctetNumeral t && (numeral? t).any (· ≤ 255)

/-- Whether a text is an IPv4 address: four octets between dots. -/
def isAddress (t : Text) : Bool :=
  let octets := split '.' t
  octets.length = 4 && octets.all isOctet

/-- Whether a text looks like an address: at least two numerals of one to three digits between
dots. -/
def isDottedNumeric (t : Text) : Bool :=
  let numerals := split '.' t
  2 ≤ numerals.length && numerals.all isOctetNumeral

/-- Whether a text is an MX preference: a non-zero digit and at most two more digits. -/
def isPreference : Text → Bool
  | [] => false
  | c :: rest => isNonZeroDigit c && rest.length ≤ 2 && rest.all isDigit

example : isTime "1w".toList ∧ isTime "15".toList := by decide
example : ¬ isTime "0".toList ∧ ¬ isTime "1d ".toList := by decide
example : isAddress "010.1.2.255".toList ∧ ¬ isAddress "1.2.3".toList := by decide
example : isPreference "999".toList ∧ ¬ isPreference "0".toList := by decide

end ZoneKeeper
