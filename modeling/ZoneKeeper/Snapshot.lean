import ZoneKeeper.FileTree
import ZoneKeeper.Journal
import ZoneKeeper.Serial.Line

/-!
# Snapshots

What a generated zone file says: its serial, and the text without the serial line. A file that is
not UTF-8 or has no serial line was not generated here and is refused, so that it is never taken for
an outdated zone and overwritten.
-/

namespace ZoneKeeper

open Text

/-- A generated zone file. -/
structure Snapshot where
  /-- The path that it was read by. -/
  path : Path
  /-- Its text without the serial line. -/
  body : Text
  /-- Its serial. -/
  mark : Serial.Mark
  deriving DecidableEq, Repr

/-- Why a path gives no snapshot. -/
inductive SnapshotFault where
  /-- The system does not take the path. -/
  | path (p : Path) (why : FileFault)
  /-- The file cannot be read. -/
  | unreadable (p : Path) (why : FileFault)
  /-- The file is not UTF-8. -/
  | encoding (p : Path) (why : Utf8.Fault)
  /-- The file has no serial line. -/
  | noSerial (p : Path)
  deriving DecidableEq, Repr

/-- The wording of a fault. -/
def SnapshotFault.message : SnapshotFault → Text
  | .path p why => why.message p
  | .unreadable p why =>
    "Unable to read zone file ".toList ++ named p.toText ++ ": ".toList ++ why.message p
  | .encoding p why =>
    "Unable to read zone file ".toList ++ named p.toText ++ ": ".toList ++ why.message.toList
  | .noSerial p => "Unable to extract domain serial number from ".toList ++ named p.toText

namespace Snapshot

/-- The snapshot of a file with these bytes. -/
def ofBytes (p : Path) (bytes : List UInt8) : Except SnapshotFault Snapshot := do
  let text ← (Utf8.decode bytes).mapError (.encoding p)
  match Serial.cut? text with
  | none => .error (.noSerial p)
  | some cut => .ok ⟨p, cut.body, cut.mark⟩

/-- The snapshot of the file that a path leads to; `none` if it leads to no file. -/
def read (t : FileTree) (p : Path) : Journaled SnapshotFault (Option Snapshot) := do
  if ← .ofExcept ((t.isFile p).mapError (.path p)) then
    let bytes ← .ofExcept ((t.read p).mapError (.unreadable p))
    let snapshot ← .ofExcept (ofBytes p bytes)
    Journaled.report .debug ("Existing zone ".toList ++ p.toText ++ " has serial ".toList ++
      snapshot.mark.stamp ++ twoDigits snapshot.mark.version)
    return some snapshot
  else return none

end Snapshot

end ZoneKeeper
