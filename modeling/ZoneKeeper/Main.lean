import Std.Time.Format
import Std.Time.Zoned
import ZoneKeeper.Command.Run

/-!
# The command

Runs the command on the files of the machine. The files that a run looks at are read first, as far
as they are named; those that it changed are written afterwards.
-/

namespace ZoneKeeper.Command

/-- The paths that a run looks at, as far as they follow from the files that are known. -/
def lookedAt (w : World) (line : List Text) : List Path :=
  match Request.ofTexts line with
  | .ok (.run a) =>
    let config := Path.ofText a.config
    match prepare w a with
    | .error _ => [config]
    | .ok (s, _) =>
      let folder := (a.target.map Path.ofText <|> s.folder).getD (.ofText [])
      let target : Target := ⟨folder, s.fileStart, .standard, false, MasterFile.check⟩
      let templates := s.layoutFolder.toList.map fun p =>
        FileTree.pathOf (w.files.nominal p ++ [templateName])
      let zones := (Declaration.ofFile w.files config).outcome.toOption.getD []
      config :: folder :: templates ++ zones.map fun (domain, _) => target.pathOf domain
  | _ => []

/-- The system's name of a location. -/
def systemName (l : Location) : String := String.ofList (FileTree.pathOf l).toText

/-- Adds what the machine holds at a location to the files that are known. -/
def learn (files : FileTree) (l : Location) : IO FileTree := do
  if (files.get? l).isSome then return files
  let path := (← IO.currentDir) / systemName l
  if ← path.isDir then return files.insert l .folder
  if ← path.pathExists then return files.insert l (.file (← IO.FS.readBinFile path).toList)
  return files

/-- Adds what the machine holds on the way of a path to the files that are known. -/
def learnPath (files : FileTree) (p : Path) : IO FileTree :=
  (List.range (p.names.length + 1)).foldlM (fun files n =>
    match files.locate (.mk p.anchor (p.names.take n)) with
    | .ok l => learn files l
    | .error _ => return files) files

/-- The day that a date is. -/
def dayOf (d : Std.Time.PlainDate) : Day :=
  ⟨d.year.toInt.toNat, d.month.val.toNat, d.day.val.toNat⟩

/-- The variables of the environment that count. -/
def knownVariables : IO Environment := do
  let names := ["SERIAL_CLOCK", "ZONE_TARGET_DIR", "ZONE_FILE_PREFIX", "VERIFY_ZONES",
    "TEMPLATES_DIR", "LOG_LEVEL"]
  let values ← names.mapM fun name => return (name.toList, (← IO.getEnv name).map String.toList)
  return values.filterMap fun (name, value) => value.map (name, ·)

/-- What a run depends on, before any file is known. -/
def currentWorld : IO World := do
  let now ← Std.Time.PlainDateTime.now
  let utc := Std.Time.PlainDate.ofEpochDay (← Std.Time.Timestamp.now).toDaysSinceUnixEpoch
  let here := Path.ofText (toString (← IO.currentDir)).toList
  let files ← learnPath ⟨here.names, []⟩ here
  return ⟨← knownVariables, ⟨dayOf now.date, dayOf utc⟩, files,
    (now.format "uuuu-MM-dd HH:mm:ss,SSS").toList⟩

/-- Writes the files that a run changed. -/
def store (before after : FileTree) : IO Unit :=
  after.entries.forM fun (l, e) => do
    if let .file bytes := e then
      if before.get? l ≠ some e then
        IO.FS.writeBinFile (systemName l) ⟨bytes.toArray⟩

/-- The command as a program. -/
def program (line : List Text) : IO UInt32 := do
  let mut w ← currentWorld
  -- what the declaration names is known only once the declaration is
  for _ in [0, 1] do
    w := { w with files := ← (lookedAt w line).foldlM learnPath w.files }
  let outcome := run w line
  store w.files outcome.files
  outcome.output.forM fun t => IO.println (String.ofList t)
  outcome.errors.forM fun t => IO.eprintln (String.ofList t)
  return UInt32.ofNat outcome.exit

end ZoneKeeper.Command

/-- Runs the command with its arguments. -/
def main (arguments : List String) : IO UInt32 :=
  ZoneKeeper.Command.program (arguments.map String.toList)
