import ZoneKeeper.FileTree
import ZoneKeeper.Zone.Render

/-!
# Templates

Zone files can be given another shape by a template, a file in a folder that the settings name. An
engine reads the template and fills it in; what a template of its own makes of a zone is up to the
engine, so an engine is what every rendering by a template is given. It belongs to one run, in which
it makes one text of one template and one zone: the lots that a template draws, or what it looks up,
are part of the engine.

The engine that comes with the library reads templates without marks, which stand for themselves.
-/

namespace ZoneKeeper

open Text

/-- What a template is told of a record. -/
structure RecordFields where
  /-- The owner, as the zone file names it. -/
  owner : Text
  /-- The time to live; nothing if the record has none of its own. -/
  ttl : Text
  /-- The type token. -/
  type : Text
  /-- The data with the blanks before them. -/
  data : Text
  deriving DecidableEq, Repr

/-- What a template is filled in with. -/
structure TemplateFields where
  /-- The zone. -/
  zone : Zone
  /-- The host of its first nameserver. -/
  primary : Text
  /-- The mailbox of its administrator. -/
  mailbox : Text
  /-- The serial, if one is given. -/
  serial : Option Text
  /-- What stands before the fields of the start of authority. -/
  indent : Text
  /-- The records by type. -/
  groups : List (List RecordFields)
  deriving DecidableEq, Repr

/-- What reads templates and fills them in. -/
structure Engine where
  /-- A template that is read. -/
  Template : Type
  /-- Reads the template of a folder, or says why it cannot be read. -/
  read : FileTree → Location → Except Text Template
  /-- Fills a template in, or says why it cannot be filled in. -/
  fill : Template → TemplateFields → Except Text Text

/-- What a template is told of a record, if its data can be written. -/
def Record.fields (r : Record) : Except RenderFault RecordFields :=
  r.data.map fun data => ⟨r.ownerLabel, r.ttl.getD [], r.type.renderedToken, data⟩

/-- The zone as its template makes it, with the serial if one is given. The nameserver is looked for
first, then the template is read, and then it is filled in. -/
def Zone.fillIn (engine : Engine) (template : Except Text engine.Template) (z : Zone)
    (serial : Option Text) : Except RenderFault Text := do
  let primary ← z.primary
  let template ← template.mapError .noLayout
  let groups ← z.groups.mapM fun group => group.mapM Record.fields
  let text ← (engine.fill template ⟨z, primary, z.mailbox, serial, fieldIndent, groups⟩).mapError
    .noLayout
  return trimRight text ++ ['\n']

namespace Engine

/-- What begins the parts of a template that do not stand for themselves. -/
def marks : List Text := ["\x7b\x7b", "\x7b%", "\x7b#"].map String.toList

/-- Whether a template stands for itself. -/
def isVerbatim : Text → Bool
  | [] => true
  | c :: rest => !marks.any (startsWith · (c :: rest)) && isVerbatim rest

/-- A text with its lines ended by line feeds. -/
def withLineFeeds : Text → Text
  | [] => []
  | '\r' :: '\n' :: rest => '\n' :: withLineFeeds rest
  | c :: rest => (if c = '\r' then '\n' else c) :: withLineFeeds rest

/-- The engine for templates that stand for themselves. -/
def verbatim : Engine where
  Template := Text
  read files folder := do
    let p := FileTree.pathOf (folder ++ [templateName])
    let bytes ← (files.read p).mapError (·.message p)
    let text ← (Utf8.decode bytes).mapError (·.message.toList)
    if isVerbatim text then return withLineFeeds text
    else .error "no engine for the marks of the template".toList
  fill template _ := .ok template

end Engine

end ZoneKeeper
