import ZoneKeeper.Declaration.Attributes
import ZoneKeeper.Spf
import ZoneKeeper.Text.Fold
import ZoneKeeper.Zone.Basic

/-!
# What can be wrong with a declaration

The causes for which an element of a declaration, or the declaration as a whole, is refused, and how
they are worded. A cause comes with the line of the element that it was found at, if that is known.
-/

namespace ZoneKeeper.Declaration

open Text

/-- An attribute of a domain that the start of authority needs. -/
inductive Field where
  /-- The administrator. -/
  | admin
  /-- The default time to live. -/
  | ttl
  /-- The refresh interval. -/
  | refresh
  /-- The retry interval. -/
  | retry
  /-- The expiry time. -/
  | expire
  /-- The time to live of negative answers. -/
  | negttl
  deriving DecidableEq, Repr

/-- The attribute that declares a field. -/
def Field.attribute : Field → Text
  | .admin => "ADMIN".toList
  | .ttl => "TTL".toList
  | .refresh => "REFRESH".toList
  | .retry => "RETRY".toList
  | .expire => "EXPIRE".toList
  | .negttl => "NEGTTL".toList

/-- Why a declaration is refused. -/
inductive Cause where
  /-- A domain begins inside another one. -/
  | nestedDomain (outer : Text)
  /-- A record stands outside of every domain. -/
  | strayRecord
  /-- A domain is still open where the declaration ends. -/
  | unclosedDomain (domain : Text)
  /-- A domain has no name. -/
  | unnamedDomain
  /-- A domain of this name is declared already. -/
  | duplicateDomain (domain : Text)
  /-- A field of a domain is absent. -/
  | missingField (field : Field) (domain : Text)
  /-- A field of a domain is not what it has to be. -/
  | badField (value : Value) (field : Field) (domain : Text)
  /-- A record has no type. -/
  | missingType (domain : Text)
  /-- A record is of a type that is not published. -/
  | badType (value : Value) (domain : Text)
  /-- A record has no value. -/
  | missingValue (type : RecordType) (domain : Text)
  /-- The time to live of a record is no time. -/
  | badTtl (value : Value) (type : RecordType) (domain : Text)
  /-- The owner of a record is no text. -/
  | badOwner (type : RecordType) (domain : Text)
  /-- The preference of a record is no text. -/
  | untypedPreference (type : RecordType) (domain : Text)
  /-- The value of an address record is no address. -/
  | badAddress (value domain : Text)
  /-- A mail exchange has no preference. -/
  | missingPreference (domain : Text)
  /-- The preference of a mail exchange is none. -/
  | badPreference (value domain : Text)
  /-- The value of a policy record describes no policy. -/
  | badPolicy (fault : Spf.Fault) (domain : Text)
  deriving DecidableEq, Repr

/-- How messages say where a record is declared. -/
def definedIn (domain : Text) : Text :=
  " defined in the ".toList ++ named domain ++ " domain".toList

/-- The wording of a cause. Attributes are named in small letters. -/
def Cause.message : Cause → Text
  | .nestedDomain outer =>
    "Nested domain inside ".toList ++ named outer ++ " is not supported".toList
  | .strayRecord => "Record defined outside of a domain node".toList
  | .unclosedDomain domain => "Domain ".toList ++ named domain ++ " was never closed".toList
  | .unnamedDomain => "Missing 'name' attribute on domain node".toList
  | .duplicateDomain domain =>
    "The domain ".toList ++ named domain ++ " has already been defined".toList
  | .missingField field domain =>
    "Domain attribute ".toList ++ named (smallLetters field.attribute) ++
      " undefined for ".toList ++ named domain
  | .badField value field domain =>
    "Invalid time value ".toList ++ named value.shown ++ " for attribute ".toList ++
      named (smallLetters field.attribute) ++ " on domain ".toList ++ named domain
  | .missingType domain => "No type defined for record".toList ++ definedIn domain
  | .badType value domain =>
    "Invalid record type ".toList ++ named value.shown ++ definedIn domain
  | .missingValue type domain =>
    "No value for record type ".toList ++ named type.token ++ definedIn domain
  | .badTtl value type domain =>
    "Invalid time value ".toList ++ named value.shown ++ " for record type ".toList ++
      named type.token ++ definedIn domain
  | .badOwner type domain =>
    "Invalid 'domain' for record type ".toList ++ named type.token ++ definedIn domain
  | .untypedPreference type domain =>
    "Invalid 'priority' for record type ".toList ++ named type.token ++ definedIn domain
  | .badAddress value domain =>
    "Invalid IPv4 address ".toList ++ named value ++ " for A record".toList ++ definedIn domain
  | .missingPreference domain => "No priority set for MX record".toList ++ definedIn domain
  | .badPreference value domain =>
    "Invalid priority of ".toList ++ named value ++ " set for the MX record".toList ++
      definedIn domain
  | .badPolicy fault domain => fault.message ++ definedIn domain

/-- A cause and the line that it was found at. -/
structure Fault where
  /-- What is wrong. -/
  cause : Cause
  /-- The line of the element, if it is known. -/
  line : Option Nat
  deriving DecidableEq, Repr

/-- A message with the line that it is about. -/
def atLine (message : Text) : Option Nat → Text
  | none => message
  | some line => message ++ " at line #".toList ++ decimal line

/-- The wording of a fault. -/
def Fault.message (f : Fault) : Text := atLine f.cause.message f.line

end ZoneKeeper.Declaration
