import ZoneKeeper.Command.Level
import ZoneKeeper.Command.Usage
import ZoneKeeper.Declaration.Reading
import ZoneKeeper.Plan.Applied
import ZoneKeeper.Settings

/-!
# Running the command

What a command line makes of the files, given the environment and the day, and what the command
says. Everything is read and planned before the first file is written. What the command refuses ends
it with 2, what it did not foresee with 3.

The environment is that of the process: variables that a file of settings adds are taken to be in
it. What the command says always gets out, and a file that is opened for writing is written whole.
-/

namespace ZoneKeeper.Command

open Text

/-- What a run depends on. -/
structure World where
  /-- The variables of the environment. -/
  environment : Environment
  /-- The day. -/
  today : Today
  /-- The files. -/
  files : FileTree
  /-- What reports say of the time. -/
  time : Text
  deriving DecidableEq, Repr

/-- What a run makes use of. -/
structure Tools where
  /-- What loads zones for a check. -/
  loader : MasterFile.Loader
  /-- What reads and fills in templates. -/
  engine : Engine

/-- The tools that come with the library. -/
def Tools.standard : Tools := ⟨MasterFile.check, .verbatim⟩

/-- What a run gives. -/
structure Outcome where
  /-- The number that the command ends with. -/
  exit : Nat
  /-- The lines that it says. -/
  output : List Text
  /-- The lines of reports and faults. -/
  errors : List Text
  /-- The files afterwards. -/
  files : FileTree
  deriving DecidableEq, Repr

/-- Why a run failed. -/
inductive Failure where
  /-- For a reason that the command foresees. -/
  | refused (message : Text)
  /-- For any other reason. -/
  | unforeseen (message : Text)
  deriving DecidableEq, Repr

namespace Failure

/-- The number that the command ends with. -/
def exit : Failure → Nat
  | refused _ => 2
  | unforeseen _ => 3

/-- The line that says why. -/
def line : Failure → Text
  | refused message => "Error: ".toList ++ message
  | unforeseen message => "Unexpected error: ".toList ++ message

/-- What a fault of the declaration means for a run. -/
def ofRead (f : Declaration.ReadFault) : Failure :=
  match f with
  | .markup ⟨.unknownEncoding _, _⟩ | .unreadable _ .nul => unforeseen f.message
  | _ => refused f.message

/-- What a fault of planning means for a run. -/
def ofPlan (f : PlanFault) : Failure :=
  match f with
  | .snapshot (.path _ _) | .render .noValue | .render .exchangeFields | .render (.noLayout _)
  | .unloadable _ .misplacedAuthority | .unloadable _ .emptyStart => unforeseen f.message
  | _ => refused f.message

/-- What a fault of writing means for a run. -/
def ofWrite (f : WriteFault) (written : List Path) : Failure :=
  match f.why with
  | .nul => unforeseen (Applied.message f written)
  | _ => refused (Applied.message f written)

end Failure

/-- The path of the declaration, which must be that of a file. -/
def configPath (files : FileTree) (a : Arguments) : Except Failure Path :=
  let p := Path.ofText a.config
  match files.isFile p with
  | .ok true => .ok p
  | .ok false => .error (.refused ("Unable to open configuration file - ".toList ++ p.toText))
  | .error why => .error (.unforeseen (why.message p))

/-- A text without the slashes that it ends with; slashes alone are the root. -/
def withoutLastSlashes (t : Text) : Text :=
  match (t.reverse.dropWhile (· = '/')).reverse with
  | [] => ['/']
  | t => t

/-- The folder of the zone files, which must be there. -/
def targetFolder (files : FileTree) (a : Arguments) (s : Settings) : Except Failure Path :=
  match a.target.filter (· ≠ []) <|> s.folder.map Path.toText with
  | none =>
    .error (.refused "No target directory given (use -t or ZONE_TARGET_DIR).".toList)
  | some t =>
    let p := Path.ofText (withoutLastSlashes t)
    match files.isFolder p with
    | .ok true => .ok p
    | .ok false =>
      .error (.refused ("Target directory does not exist or is invalid - ".toList ++ p.toText))
    | .error why => .error (.unforeseen (why.message p))

/-- The settings and the least weight that is reported. -/
def prepare (w : World) (a : Arguments) : Except Failure (Settings × Nat) := do
  let s ← (Settings.ofEnvironment w.environment).mapError fun f => .refused f.message
  let level := (a.level.filter (· ≠ [])).getD s.level
  let threshold ← (threshold level).mapError fun f => .unforeseen f.message
  return (s, threshold)

/-- The plan for what the declaration asks for. -/
def makePlan (tools : Tools) (w : World) (a : Arguments) (s : Settings) :
    Journaled Failure Plan := do
  let config ← .ofExcept (configPath w.files a)
  let folder ← .ofExcept (targetFolder w.files a s)
  let zones ← (Declaration.ofFile w.files config).mapError .ofRead
  let target : Target := ⟨folder, s.fileStart, .standard, s.isChecked, tools.loader⟩
  (target.planBy (s.render tools.engine w.files) w.files (w.today.by s.clock) zones).mapError
    .ofPlan

/-- What the command says if there was nothing to write. -/
def upToDate (p : Plan) : List Text :=
  if p.hasChanges then [] else ["All zone files up to date.".toList]

/-- What is said of a zone. -/
def zoneLine (verb : String) (s : Staged) : Text :=
  verb.toList ++ " zone file ".toList ++ named s.path.toText

/-- A run with its arguments. -/
def runWith (tools : Tools) (w : World) (a : Arguments) : Outcome :=
  match prepare w a with
  | .error failure => ⟨failure.exit, [], [failure.line], w.files⟩
  | .ok (s, threshold) =>
    let show' := journalLines w.time threshold
    let planned := makePlan tools w a s
    let reports := show' planned.journal
    match planned.outcome with
    | .error failure => ⟨failure.exit, [], reports ++ [failure.line], w.files⟩
    | .ok plan =>
      if a.isDry then
        ⟨0, plan.staged.map (zoneLine "Would write") ++ upToDate plan, reports, w.files⟩
      else
        let applied := plan.apply w.files
        let output := applied.written.map (zoneLine "Written")
        let reports := reports ++ show' applied.journal
        match applied.fault with
        | none => ⟨0, output ++ upToDate plan, reports, applied.files⟩
        | some fault =>
          let failure := Failure.ofWrite fault applied.paths
          ⟨failure.exit, output, reports ++ [failure.line], applied.files⟩

/-- A run of the command. -/
def run (w : World) (line : List Text) (tools : Tools := .standard) : Outcome :=
  match Request.ofTexts line with
  | .error misuse => ⟨2, [], misuse.report, w.files⟩
  | .ok .help => ⟨0, explanation, [], w.files⟩
  | .ok (.run a) => runWith tools w a

end ZoneKeeper.Command
