import ZoneKeeper.FileTree
import ZoneKeeper.Serial.Basic
import ZoneKeeper.Text.Blank
import ZoneKeeper.Text.Fold
import ZoneKeeper.Zone.Template

/-!
# Settings

What the environment says about where zone files are kept, how they are named and made, whose day
their serials take, and how much is reported.
-/

namespace ZoneKeeper

open Text

/-- The variables of an environment; of one name the last counts. -/
abbrev Environment := List (Text × Text)

/-- The value of a variable. -/
def Environment.get? (e : Environment) (name : String) : Option Text :=
  (e.reverse.find? (·.1 = name.toList)).map (·.2)

/-- Whose day serials take. -/
inductive Clock where
  /-- The day where the program runs. -/
  | localDay
  /-- The day of universal time. -/
  | universal
  deriving DecidableEq, Repr

/-- The word that chooses a clock. -/
def Clock.toText : Clock → Text
  | .localDay => "local".toList
  | .universal => "utc".toList

/-- The day that it is by either clock. -/
structure Today where
  /-- The day where the program runs. -/
  localDay : Day
  /-- The day of universal time. -/
  universal : Day
  deriving DecidableEq, Repr

/-- The day that it is by a clock. -/
def Today.by (t : Today) : Clock → Day
  | .localDay => t.localDay
  | .universal => t.universal

/-- The settings. -/
structure Settings where
  /-- The folder of the zone files, if it is set. -/
  folder : Option Path
  /-- What the names of zone files begin with. -/
  fileStart : Text
  /-- Whose day serials take. -/
  clock : Clock
  /-- Whether zones are loaded for a check. -/
  isChecked : Bool
  /-- The folder that holds the shape of zone files, if one is set. -/
  layoutFolder : Option Path
  /-- How much is reported. -/
  level : Text
  deriving DecidableEq, Repr

/-- Why an environment gives no settings. -/
inductive SettingsFault where
  /-- No clock is chosen by the word that is to choose it. -/
  | unknownClock
  deriving DecidableEq, Repr

/-- The wording of a fault. -/
def SettingsFault.message : SettingsFault → Text
  | .unknownClock => "SERIAL_CLOCK must be either 'local' or 'utc'.".toList

/-- A word as it is compared: without blanks around it and in small letters. -/
def plainWord (t : Text) : Text := smallLetters (trim t)

/-- The clock that a text chooses. -/
def Clock.ofText? (t : Text) : Option Clock :=
  [localDay, universal].find? (·.toText = plainWord t)

/-- The words that stand for yes. -/
def yesWords : List Text := ["1", "true", "yes", "y", "on"].map String.toList

/-- Whether a variable says yes; `default` if it says nothing. -/
def saysYes (value : Option Text) (default : Bool) : Bool :=
  match value with
  | none => default
  | some t => yesWords.contains (plainWord t)

namespace Settings

/-- The settings that an environment makes. -/
def ofEnvironment (e : Environment) : Except SettingsFault Settings :=
  match Clock.ofText? ((e.get? "SERIAL_CLOCK").getD Clock.localDay.toText) with
  | none => .error .unknownClock
  | some clock =>
    let pathOf (name : String) : Option Path :=
      ((e.get? name).filter (· ≠ [])).map Path.ofText
    .ok {
      folder := pathOf "ZONE_TARGET_DIR"
      fileStart := (e.get? "ZONE_FILE_PREFIX").getD "db.".toList
      clock
      isChecked := saysYes (e.get? "VERIFY_ZONES") false
      layoutFolder := pathOf "TEMPLATES_DIR"
      level := (e.get? "LOG_LEVEL").getD "INFO".toList }

/-- What renders zones: the template of the folder that is set, or the layout of its own if no
folder is. A folder is one where the template is missing unless it holds a file of that name. -/
def render (s : Settings) (engine : Engine) (files : FileTree) (z : Zone) (serial : Option Text) :
    Except RenderFault Text :=
  match s.layoutFolder with
  | none => z.render .standard serial
  | some p =>
    let folder := files.nominal p
    match files.isFile (FileTree.pathOf (folder ++ [templateName])) with
    | .ok true => z.fillIn engine (engine.read files folder) serial
    | _ => z.render (.missing (FileTree.pathOf folder).toText) serial

end Settings

end ZoneKeeper
