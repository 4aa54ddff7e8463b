import ZoneKeeper.MasterFile.Check
import ZoneKeeper.Serial.Basic
import ZoneKeeper.Snapshot
import ZoneKeeper.Zone.Render

/-!
# Plans

Comparing declared zones with the files of a folder. A zone whose file says the same, the serial
line left out, stays as it is; every other zone is staged: rendered with the next serial of its
file, ready to be written. Planning reads files and writes none, and it gives a plan for all zones
or for none.
-/

namespace ZoneKeeper

open Text

/-- The folder that zone files are kept in, and how they are made. -/
structure Target where
  /-- The folder. -/
  folder : Path
  /-- What the name of every file begins with. -/
  fileStart : Text
  /-- Where the shape of the files comes from. -/
  layout : Layout
  /-- Whether a zone is loaded for a check before it is staged. -/
  isChecked : Bool
  /-- What loads it. -/
  loader : MasterFile.Loader := MasterFile.check

/-- The path of the file of a domain. -/
def Target.pathOf (t : Target) (domain : Text) : Path :=
  t.folder ++ Path.ofText (t.fileStart ++ domain)

/-- A zone that is ready to be written. -/
structure Staged where
  /-- The domain. -/
  domain : Text
  /-- The path to write to. -/
  path : Path
  /-- The serial. -/
  serial : Text
  /-- The text to write. -/
  text : Text
  deriving DecidableEq, Repr

/-- What is to become of a zone. -/
inductive Decision where
  /-- Its file stays as it is. -/
  | unchanged
  /-- Its file is to be written. -/
  | staged (s : Staged)
  deriving DecidableEq, Repr

/-- What is to become of all zones. -/
structure Plan where
  /-- The zones that are ready to be written, in the order of their declaration. -/
  staged : List Staged
  /-- The domains whose files stay as they are, in the same order. -/
  unchanged : List Text
  deriving DecidableEq, Repr

namespace Plan

/-- The plan that decisions on domains make. -/
def ofDecisions (decisions : List (Text × Decision)) : Plan where
  staged := decisions.filterMap fun
    | (_, .staged s) => some s
    | (_, .unchanged) => none
  unchanged := decisions.filterMap fun
    | (_, .staged _) => none
    | (domain, .unchanged) => some domain

/-- Whether there is anything to write. -/
def hasChanges (p : Plan) : Bool := !p.staged.isEmpty

end Plan

/-- Why there is no plan. -/
inductive PlanFault where
  /-- What is there of a file is not to be overwritten. -/
  | snapshot (why : SnapshotFault)
  /-- A zone cannot be rendered. -/
  | render (why : RenderFault)
  /-- The serials of a day are used up. -/
  | exhausted (p : Path) (stamp : Text)
  /-- A rendered zone does not load. -/
  | unloadable (domain : Text) (why : MasterFile.Fault)
  deriving DecidableEq, Repr

/-- The wording of a fault. -/
def PlanFault.message : PlanFault → Text
  | .snapshot why => why.message
  | .render why => why.message
  | .exhausted p stamp =>
    "Serial version for ".toList ++ named p.toText ++ " exhausted for ".toList ++ stamp ++
      "; no further changes possible today".toList
  | .unloadable domain (.rejected reason) =>
    "Rendered zone for ".toList ++ named domain ++ " failed to load: ".toList ++ reason
  | .unloadable _ why => why.message

/-- Loads the text of a zone and reports how much it defines. -/
def checkLoads (domain text : Text) (load : MasterFile.Loader := MasterFile.check) :
    Journaled MasterFile.Fault Nat := do
  let count ← .ofExcept (load domain text)
  Journaled.report .debug ("Zone ".toList ++ domain ++ " loaded with ".toList ++ decimal count ++
    " rrset(s)".toList)
  return count

namespace Target

/-- The serial of the next writing over a file, if there is one. -/
def nextSerial (path : Path) (existing : Option Snapshot) (today : Day) : Except PlanFault Text :=
  match Serial.next (existing.map fun s => (s.mark.stamp, (s.mark.version : Int))) today with
  | some serial => .ok serial
  | none => .error (.exhausted path today.stamp)

/-- Stages a zone, with what renders it, to be written over a file, if there is one. -/
def stageBy (render : Option Text → Except RenderFault Text) (t : Target) (today : Day)
    (domain : Text) (existing : Option Snapshot) : Journaled PlanFault Staged := do
  let serial ← .ofExcept (nextSerial (t.pathOf domain) existing today)
  let text ← .ofExcept ((render (some serial)).mapError .render)
  if t.isChecked then
    let _ ← (checkLoads domain text t.loader).mapError (.unloadable domain)
  return ⟨domain, t.pathOf domain, serial, text⟩

/-- Decides what is to become of a zone, given what renders it. -/
def decideBy (render : Option Text → Except RenderFault Text) (t : Target) (files : FileTree)
    (today : Day) (domain : Text) : Journaled PlanFault Decision := do
  let path := t.pathOf domain
  let existing ← (Snapshot.read files path).mapError .snapshot
  match existing with
  | some snapshot =>
    let body ← .ofExcept ((render none).mapError .render)
    if body = snapshot.body then
      Journaled.report .debug ("Zone ".toList ++ domain ++ " unchanged".toList)
      return .unchanged
    Journaled.report .debug
      ("Zone ".toList ++ domain ++ " differs from ".toList ++ path.toText)
  | none =>
    Journaled.report .debug
      ("No zone file for ".toList ++ domain ++ " at ".toList ++ path.toText)
  return .staged (← t.stageBy render today domain existing)

/-- The plan for the zones of a catalogue, given what renders them. -/
def planBy (render : Zone → Option Text → Except RenderFault Text) (t : Target) (files : FileTree)
    (today : Day) (zones : Catalogue) : Journaled PlanFault Plan := do
  let decisions ← zones.mapM fun (domain, z) =>
    return (domain, ← t.decideBy (render z) files today domain)
  return .ofDecisions decisions

/-- Stages a zone to be written over a file, if there is one. -/
def stage (t : Target) (today : Day) (domain : Text) (z : Zone) (existing : Option Snapshot) :
    Journaled PlanFault Staged :=
  t.stageBy (z.render t.layout) today domain existing

/-- Decides what is to become of a zone. -/
def decide (t : Target) (files : FileTree) (today : Day) (domain : Text) (z : Zone) :
    Journaled PlanFault Decision :=
  t.decideBy (z.render t.layout) files today domain

/-- The plan for the zones of a catalogue. -/
def plan (t : Target) (files : FileTree) (today : Day) (zones : Catalogue) :
    Journaled PlanFault Plan :=
  t.planBy (Zone.render t.layout) files today zones

end Target

end ZoneKeeper
