import ZoneKeeper.Declaration.Fault

/-!
# Building a catalogue

A declaration arrives as the beginnings and ends of its elements, in order. The builder holds the
zones declared so far and the domain that is open, if one is. A domain opens a zone, a record inside
it adds to that zone, and every other element is read over; an element that is refused changes
nothing.

Of several things that are wrong with one element the first in a fixed order is reported: for a
domain its name and then its fields in the order of the start of authority, for a record its type,
value, time to live, owner and preference, and then what its type asks for.
-/

namespace ZoneKeeper.Declaration

open Text

/-- The element that declares a domain. -/
def domainTag : Text := "DOMAIN".toList

/-- The element that declares a record. -/
def recordTag : Text := "RECORD".toList

/-- The fields of the attributes of a domain, checked: the administrator is any text, all others are
times. -/
def readField (a : Attributes) (domain : Text) (field : Field) : Except Cause Text :=
  match a.get? field.attribute with
  | none => .error (.missingField field domain)
  | some (.text t) =>
    if field = .admin || isTime t then .ok t else .error (.badField (.text t) field domain)
  | some value => .error (.badField value field domain)

/-- The zone that the attributes of a domain declare, without records. -/
def readZone (a : Attributes) (name : Text) : Except Cause Zone := do
  let admin ← readField a name .admin
  let ttl ← readField a name .ttl
  let refresh ← readField a name .refresh
  let retry ← readField a name .retry
  let expire ← readField a name .expire
  let negativeTtl ← readField a name .negttl
  return { name, admin, ttl, refresh, retry, expire, negativeTtl, records := [] }

/-- The name that the attributes of a domain declare, blanks around it left out. A name that is no
text is none. -/
def readName (a : Attributes) : Text :=
  match a.get? "NAME".toList with
  | some (.text t) => trim t
  | _ => []

/-- The type of a record. -/
def readType (a : Attributes) (domain : Text) : Except Cause RecordType :=
  match a.get? "TYPE".toList with
  | none => .error (.missingType domain)
  | some (.text t) =>
    match RecordType.ofToken? t with
    | some type => .ok type
    | none => .error (.badType (.text t) domain)
  | some value => .error (.badType value domain)

/-- The value of a record, blanks around it left out. -/
def readValue (a : Attributes) (domain : Text) (type : RecordType) : Except Cause Text :=
  match a.get? "VALUE".toList with
  | some (.text t) => .ok (trim t)
  | _ => .error (.missingValue type domain)

/-- The time to live of a record, if it has one. -/
def readTtl (a : Attributes) (domain : Text) (type : RecordType) : Except Cause (Option Text) :=
  match a.get? "TTL".toList with
  | none | some .null => .ok none
  | some (.text t) => if isTime t then .ok (some t) else .error (.badTtl (.text t) type domain)
  | some value => .error (.badTtl value type domain)

/-- The owner of a record, blanks around it left out; an owner of blanks is none. -/
def readOwner (a : Attributes) (domain : Text) (type : RecordType) : Except Cause (Option Text) :=
  match a.get? "DOMAIN".toList with
  | none | some .null => .ok none
  | some (.text t) => .ok (if trim t = [] then none else some (trim t))
  | some (.number _) => .error (.badOwner type domain)

/-- The preference of a record, if it has one. -/
def readPreference (a : Attributes) (domain : Text) (type : RecordType) :
    Except Cause (Option Text) :=
  match a.get? "PRIORITY".toList with
  | none | some .null => .ok none
  | some (.text t) => .ok (some t)
  | some (.number _) => .error (.untypedPreference type domain)

/-- A text in double quotes. -/
def quote (t : Text) : Text := '"' :: t ++ ['"']

/-- The data fields of a record of a type. -/
def dataFields (domain : Text) (type : RecordType) (value : Text) (preference : Option Text) :
    Except Cause (List Text) :=
  match type with
  | .a => if isAddress value then .ok [value] else .error (.badAddress value domain)
  | .mx =>
    match preference with
    | none => .error (.missingPreference domain)
    | some p => if isPreference p then .ok [p, value] else .error (.badPreference p domain)
  | .spf =>
    match Spf.publish value with
    | .ok policy => .ok [quote policy]
    | .error fault => .error (.badPolicy fault domain)
  | .txt => .ok [quote value]
  | _ => .ok [value]

/-- The record that attributes declare in a domain. -/
def readRecord (a : Attributes) (domain : Text) : Except Cause Record := do
  let type ← readType a domain
  let value ← readValue a domain type
  let ttl ← readTtl a domain type
  let owner ← readOwner a domain type
  let preference ← readPreference a domain type
  let values ← dataFields domain type value preference
  return { type, values, owner, ttl }

/-- What is declared so far. -/
structure Builder where
  /-- The zones, in the order of their declaration. -/
  zones : Catalogue
  /-- The domain that is open. -/
  openDomain : Option Text
  deriving DecidableEq, Repr

namespace Builder

/-- Nothing is declared. -/
def empty : Builder := ⟨[], none⟩

/-- Adds a record to the zone of a domain. -/
def addRecord (zones : Catalogue) (domain : Text) (r : Record) : Catalogue :=
  zones.map fun (key, z) =>
    if key = domain then (key, { z with records := z.records ++ [r] }) else (key, z)

/-- A domain begins. -/
def startDomain (b : Builder) (a : Attributes) : Except Cause Builder := do
  if let some outer := b.openDomain then .error (.nestedDomain outer)
  let name := readName a
  if name = [] then .error .unnamedDomain
  if b.zones.has name then .error (.duplicateDomain name)
  let zone ← readZone a name
  return ⟨b.zones ++ [(name, zone)], some name⟩

/-- A record begins. -/
def startRecord (b : Builder) (a : Attributes) : Except Cause Builder := do
  let some domain := b.openDomain | .error .strayRecord
  let r ← readRecord a domain
  return { b with zones := addRecord b.zones domain r }

/-- An element begins. -/
def start (b : Builder) (tag : Text) (a : Attributes) (line : Option Nat) : Except Fault Builder :=
  (if tag = domainTag then b.startDomain a
    else if tag = recordTag then b.startRecord a
    else .ok b).mapError (⟨·, line⟩)

/-- The domain that the end of an element closes. -/
def closes? (b : Builder) (tag : Text) : Option Text :=
  if tag = domainTag then b.openDomain else none

/-- An element ends. -/
def finish (b : Builder) (tag : Text) : Builder :=
  if tag = domainTag then { b with openDomain := none } else b

/-- The catalogue, once no domain is open. -/
def build (b : Builder) : Except Fault Catalogue :=
  match b.openDomain with
  | some domain => .error ⟨.unclosedDomain domain, none⟩
  | none => .ok b.zones

end Builder

end ZoneKeeper.Declaration
