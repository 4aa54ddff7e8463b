import ZoneKeeper.Text.Basic

/-!
# What can be wrong with a master file

The causes for which the text of a zone is refused, and what loading such a text gives.
-/

namespace ZoneKeeper.MasterFile

/-- Why a text is not the master file of a zone. -/
inductive Reason where
  /-- A parenthesis has no partner. -/
  | unbalanced
  /-- The text ends inside quotes. -/
  | unclosedQuote
  /-- A line ends inside quotes. -/
  | lineInQuotes
  /-- The text or line ends after a backslash. -/
  | danglingEscape
  /-- The digits after a backslash are no byte value. -/
  | badEscape
  /-- A word is wanted, and something else is there. -/
  | expectedWord
  /-- The line goes on after all that belongs to it. -/
  | expectedEnd
  /-- A name has an empty label. -/
  | emptyLabel
  /-- A label has more than 63 bytes. -/
  | longLabel
  /-- A name has more than 255 bytes. -/
  | longName
  /-- A time to live is malformed or too large. -/
  | badTtl
  /-- A line begins with a `$` that begins no directive. -/
  | unknownDirective
  /-- A record is of a class other than the internet. -/
  | foreignClass
  /-- A record is of an unknown type. -/
  | unknownType
  /-- An address is malformed. -/
  | badAddress
  /-- A number is malformed or too large. -/
  | badNumber
  /-- A character string has more than 255 bytes. -/
  | longString
  /-- A text record has no character string. -/
  | noString
  /-- A record has no time to live and inherits none. -/
  | noTtl
  /-- An alias and other data belong to one name. -/
  | aliasWithOther
  deriving DecidableEq, Repr

/-- The wording of a reason. -/
def Reason.message : Reason → String
  | .unbalanced => "unbalanced parentheses"
  | .unclosedQuote => "text ends inside quotes"
  | .lineInQuotes => "line ends inside quotes"
  | .danglingEscape => "nothing to escape"
  | .badEscape => "bad escape"
  | .expectedWord => "word expected"
  | .expectedEnd => "end of line expected"
  | .emptyLabel => "empty label"
  | .longLabel => "label longer than 63 bytes"
  | .longName => "name longer than 255 bytes"
  | .badTtl => "bad time to live"
  | .unknownDirective => "unknown directive"
  | .foreignClass => "class is not that of the zone"
  | .unknownType => "unknown record type"
  | .badAddress => "bad address"
  | .badNumber => "bad number"
  | .longString => "character string longer than 255 bytes"
  | .noString => "character string expected"
  | .noTtl => "no time to live"
  | .aliasWithOther => "alias beside other data"

/-- Why checking a master file ends without a count. -/
inductive Fault where
  /-- The text is refused. -/
  | rejected (reason : Text)
  /-- A start of authority belongs to a name other than that of the zone. -/
  | misplacedAuthority
  /-- A line begins with an empty quoted string. -/
  | emptyStart
  deriving DecidableEq, Repr

/-- The wording of a fault. -/
def Fault.message : Fault → Text
  | .rejected reason => reason
  | .misplacedAuthority => "add() has non-origin SOA".toList
  | .emptyStart => "string index out of range".toList

/-- What loads the text of a zone as a nameserver would: it says how many record sets the text
defines for the domain, or why it is none of a zone. -/
abbrev Loader := (domain text : Text) → Except Fault Nat

end ZoneKeeper.MasterFile
