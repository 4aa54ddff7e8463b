import ZoneKeeper.Text.Blank
import ZoneKeeper.Text.Quoted
import ZoneKeeper.Zone.Basic
import ZoneKeeper.Zone.Column

/-!
# Zone files

A zone as master-file text: the default time to live, the start of authority spread over one line
per field, and the records grouped by type, every group followed by a blank line. The serial line
can be left out; that form is what files are compared by, since the serial is the one thing in a
file that its declaration does not determine.

Rendering fails if the zone has no nameserver, which the start of authority needs, or if a record
has not the fields that its type is written with.
-/

namespace ZoneKeeper

open Text

/-- Where the shape of zone files comes from. -/
inductive Layout where
  /-- The shape described in this module. -/
  | standard
  /-- A folder that was to hold a shape and does not. -/
  | missing (folder : Text)
  deriving DecidableEq, Repr

/-- Why a zone cannot be rendered. -/
inductive RenderFault where
  /-- The zone has no nameserver. -/
  | noNameserver (zone : Text)
  /-- A record has no data field. -/
  | noValue
  /-- A mail exchange has not exactly a preference and a host. -/
  | exchangeFields
  /-- The layout gives no text, for the reason that it says. -/
  | noLayout (why : Text)
  deriving DecidableEq, Repr

/-- The wording of a fault. -/
def RenderFault.message : RenderFault → Text
  | .noNameserver zone => "No primary nameserver defined for ".toList ++ named zone
  | .noValue => "a record has no data".toList
  | .exchangeFields => "a mail exchange takes a preference and a host".toList
  | .noLayout why => why

/-- The name of the file in a folder that holds a layout. -/
def templateName : Text := "zone.j2".toList

/-- What is said of a folder that was to hold a layout and does not. -/
def notFound (folder : Text) : Text :=
  quoted templateName ++ " not found in search path: ".toList ++ quoted folder

/-- The first data field of a record. -/
def Record.firstValue (r : Record) : Except RenderFault Text :=
  match r.values with
  | [] => .error .noValue
  | value :: _ => .ok value

/-- The data of a record as it follows the type token: a mail exchange is a preference and a host,
every other type is its first field, tabbed so that the data of all types line up. -/
def Record.data (r : Record) : Except RenderFault Text :=
  match r.type, r.values with
  | .mx, [preference, host] => .ok (' ' :: preference ++ "\t\t".toList ++ host)
  | .mx, _ => .error .exchangeFields
  | .cname, _ => return "\t\t".toList ++ (← r.firstValue)
  | _, _ => return "\t\t\t".toList ++ (← r.firstValue)

/-- The line of a record: owner, time to live, type and data. -/
def Record.line (r : Record) : Except RenderFault Text :=
  r.data.map fun data =>
    Column.pad r.ownerLabel 5 ++ Column.pad (r.ttl.getD []) 2 ++ r.type.renderedToken ++ data

namespace Zone

/-- The host of the first nameserver, if the zone has a nameserver. -/
def primary? (z : Zone) : Except RenderFault (Option Text) :=
  match z.recordsOf .ns with
  | [] => .ok none
  | r :: _ => r.firstValue.map some

/-- The host of the first nameserver. -/
def primary (z : Zone) : Except RenderFault Text :=
  z.primary? >>= fun
    | none => .error (.noNameserver z.name)
    | some host => .ok host

/-- The records by type, in the order of the types; types without records are left out. -/
def groups (z : Zone) : List (List Record) :=
  (RecordType.published.map z.recordsOf).filter (· ≠ [])

/-- The tabs before every field of the start of authority. -/
def fieldIndent : Text := List.replicate 7 '\t'

/-- The line of one field of the start of authority, under its comment. -/
def fieldLine (value comment : Text) : Text :=
  fieldIndent ++ Column.pad value 3 ++ "; ".toList ++ comment

/-- The lines of the start of authority; the serial has a line only if it is given. -/
def header (z : Zone) (primary : Text) (serial : Option Text) : List Text :=
  ["$TTL ".toList ++ z.ttl,
   "@ IN SOA ".toList ++ primary ++ ' ' :: z.mailbox ++ ". (".toList] ++
  serial.toList.map (fieldLine · "Serial".toList) ++
  [fieldLine z.refresh "Refresh".toList,
   fieldLine z.retry "Retry".toList,
   fieldLine z.expire "Expire".toList,
   fieldLine (z.negativeTtl ++ " )".toList) "Negative Cache TTL".toList]

/-- The lines of the groups, each group followed by a blank line. -/
def groupLines (groups : List (List Text)) : List Text := groups.flatMap (· ++ [[]])

/-- Lines put under one another; blanks at the end of the whole are left out, and the text ends with
exactly one line feed. -/
def textOfLines (lines : List Text) : Text := trimRight (lines.flatMap (· ++ ['\n'])) ++ ['\n']

/-- The zone as master-file text, with the serial line if a serial is given. The nameserver is
looked for first, then the layout, and then the records are written in the order of the text. -/
def render (layout : Layout) (z : Zone) (serial : Option Text) : Except RenderFault Text := do
  let primary ← z.primary
  if let .missing folder := layout then .error (.noLayout (notFound folder))
  let groups ← z.groups.mapM fun group => group.mapM Record.line
  return textOfLines (z.header primary serial ++ [[]] ++ groupLines groups)

end Zone

end ZoneKeeper
