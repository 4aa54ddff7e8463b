import ZoneKeeper.Text.Digit

/-!
# Zones

The declared state of a zone: its start-of-authority data and its records in the order of their
declaration. Nothing here is checked; a zone that the declaration reader lets through satisfies
more than these types say.
-/

namespace ZoneKeeper

open Text

/-- The type of a declared record. -/
inductive RecordType where
  /-- A nameserver. -/
  | ns
  /-- An IPv4 address. -/
  | a
  /-- An alias. -/
  | cname
  /-- A mail exchange. -/
  | mx
  /-- A sender policy. -/
  | spf
  /-- A text. -/
  | txt
  /-- A type that is not published. -/
  | other (token : Text)
  deriving DecidableEq, Repr

namespace RecordType

/-- The types that are published, in the order in which a zone file lists them. -/
def published : List RecordType := [.ns, .a, .cname, .mx, .spf, .txt]

/-- The token that declares a type. -/
def token : RecordType → Text
  | .ns => "NS".toList
  | .a => "A".toList
  | .cname => "CNAME".toList
  | .mx => "MX".toList
  | .spf => "SPF".toList
  | .txt => "TXT".toList
  | .other t => t

/-- The published type that a token declares, in exactly its letter case. -/
def ofToken? (t : Text) : Option RecordType := published.find? (·.token = t)

/-- The type that a token declares. -/
def ofToken (t : Text) : RecordType := (ofToken? t).getD (.other t)

/-- The type token of a record in a zone file: a sender policy is published as a text. -/
def renderedToken : RecordType → Text
  | .spf => txt.token
  | t => t.token

end RecordType

/-- A resource record as it is declared. -/
structure Record where
  /-- Its type. -/
  type : RecordType
  /-- Its data fields. -/
  values : List Text
  /-- The name that it belongs to; absent for the apex of the zone. -/
  owner : Option Text
  /-- Its time to live; absent for that of the zone. -/
  ttl : Option Text
  deriving DecidableEq, Repr

/-- The owner as a zone file names it: an absent or empty owner is the apex. -/
def Record.ownerLabel (r : Record) : Text :=
  match r.owner with
  | some (c :: rest) => c :: rest
  | _ => ['@']

/-- A zone as it is declared. -/
structure Zone where
  /-- Its domain name. -/
  name : Text
  /-- The mail address of its administrator. -/
  admin : Text
  /-- The time to live of records that have none. -/
  ttl : Text
  /-- How often a secondary asks for changes. -/
  refresh : Text
  /-- How soon a secondary asks again after a failure. -/
  retry : Text
  /-- After how long a secondary gives the zone up. -/
  expire : Text
  /-- How long a negative answer may be kept. -/
  negativeTtl : Text
  /-- Its records in the order of their declaration. -/
  records : List Record
  deriving DecidableEq, Repr

namespace Zone

/-- The records of one type, in the order of their declaration. -/
def recordsOf (z : Zone) (type : RecordType) : List Record := z.records.filter (·.type = type)

/-- The administrator's mailbox as the start of authority writes it. -/
def mailbox (z : Zone) : Text := replace '@' '.' z.admin

end Zone

/-- Zones under the domain names that they were declared by, in the order of declaration. -/
abbrev Catalogue := List (Text × Zone)

namespace Catalogue

/-- Whether a domain is declared. -/
def has (c : Catalogue) (domain : Text) : Bool := c.any (·.1 = domain)

/-- Declares a zone under a domain: a new domain goes to the end, a known one keeps its place. -/
def put (c : Catalogue) (domain : Text) (z : Zone) : Catalogue :=
  if has c domain then c.map fun p => if p.1 = domain then (domain, z) else p
  else c ++ [(domain, z)]

/-- The catalogue of declarations made one after another. -/
def ofList (entries : List (Text × Zone)) : Catalogue :=
  entries.foldl (fun c p => put c p.1 p.2) []

end Catalogue

end ZoneKeeper
