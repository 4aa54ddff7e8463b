import ZoneKeeper.Journal
import ZoneKeeper.Text.Fold
import ZoneKeeper.Text.Quoted

/-!
# Levels

How much of a journal is shown. A level is chosen by name in any letter case and shows the reports
that weigh at least as much; a name that is no level chooses the usual one.
-/

namespace ZoneKeeper.Command

open Text

/-- How much a report of a weight weighs. -/
def weigh : Weight → Nat
  | .debug => 10
  | .info => 20

/-- The name of a weight. -/
def weightName : Weight → Text
  | .debug => "DEBUG".toList
  | .info => "INFO".toList

/-- The names of the levels and the least weight that each of them shows. -/
def levels : List (Text × Nat) :=
  [("CRITICAL".toList, 50), ("FATAL".toList, 50), ("ERROR".toList, 40), ("WARNING".toList, 30),
    ("WARN".toList, 30), ("INFO".toList, 20), ("DEBUG".toList, 10), ("NOTSET".toList, 0)]

/-- The name that is that of a format and cannot be taken for one of no meaning. -/
def formatName : Text := "BASIC_FORMAT".toList

/-- The format of that name. -/
def format : Text := "%(levelname)s:%(name)s:%(message)s".toList

/-- The name that is that of the table of styles, for which the same holds. -/
def stylesName : Text := "_STYLES".toList

/-- The styles of that name: a mark, the kind of style and its format. -/
def styles : List (Text × Text × Text) :=
  [("%".toList, "PercentStyle".toList, format),
   ("\x7b".toList, "StrFormatStyle".toList,
     "\x7blevelname\x7d:\x7bname\x7d:\x7bmessage\x7d".toList),
   ("$".toList, "StringTemplateStyle".toList,
     "$\x7blevelname\x7d:$\x7bname\x7d:$\x7bmessage\x7d".toList)]

/-- The table of styles as it is shown. -/
def shownStyles : Text :=
  let entries := styles.map fun (mark, kind, format) =>
    quoted mark ++ ": (<class 'logging.".toList ++ kind ++ "'>, ".toList ++ quoted format ++ [')']
  "\x7b".toList ++ join ", ".toList entries ++ "\x7d".toList

/-- Why a name chooses no level. -/
inductive LevelFault where
  /-- It is the name of a format. -/
  | isFormat
  /-- It is the name of the table of styles. -/
  | isStyles
  deriving DecidableEq, Repr

/-- The wording of a fault. -/
def LevelFault.message : LevelFault → Text
  | .isFormat => "Unknown level: ".toList ++ quoted format
  | .isStyles => "Level not an integer or a valid string: ".toList ++ shownStyles

/-- The least weight that the level of a name shows. -/
def threshold (name : Text) : Except LevelFault Nat :=
  if capitals name = formatName then .error .isFormat
  else if capitals name = stylesName then .error .isStyles
  else .ok ((levels.lookup (capitals name)).getD (weigh .info))

example : threshold "_styles".toList = .error .isStyles := rfl
example : threshold "warn".toList = .ok 30 ∧ threshold "loud".toList = .ok 20 := ⟨rfl, rfl⟩

/-- The line that shows a report; `time` is what it says of the time. -/
def reportLine (time : Text) (r : Report) : Text :=
  time ++ ' ' :: weightName r.weight ++ " zonebuilder ".toList ++ r.message

/-- The lines that show a journal. -/
def journalLines (time : Text) (threshold : Nat) (journal : List Report) : List Text :=
  (journal.filter fun r => threshold ≤ weigh r.weight).map (reportLine time)

end ZoneKeeper.Command
