import ZoneKeeper.Text.Digit
import ZoneKeeper.Text.Quoted

/-!
# Options

The options of the command and the words of a command line. An option may be written by its letter,
by its name, or by as much of its name as no other option shares; its argument follows in the next
word or in the same one. A word that names no option is one that nobody asked for, and so is every
word after `--`; but a word that looks like a negative number, or that holds a blank, may be the
argument of an option although it begins with a hyphen.
-/

namespace ZoneKeeper.Command

open Text

/-- An option. -/
inductive Opt where
  /-- Explains the options. -/
  | help
  /-- The declaration. -/
  | config
  /-- The folder of the zone files. -/
  | target
  /-- Writes nothing. -/
  | dryRun
  /-- How much is reported. -/
  | level
  deriving DecidableEq, Repr

namespace Opt

/-- The options in the order in which they are explained. -/
def all : List Opt := [help, config, target, dryRun, level]

/-- How an option is written, its letter first if it has one. -/
def names : Opt → List Text
  | help => ["-h".toList, "--help".toList]
  | config => ["-c".toList, "--config".toList]
  | target => ["-t".toList, "--target-dir".toList]
  | dryRun => ["--dry-run".toList]
  | level => ["--log-level".toList]

/-- Whether an option has an argument. -/
def takesArgument : Opt → Bool
  | help | dryRun => false
  | config | target | level => true

/-- An option as messages name it. -/
def shown (o : Opt) : Text := join ['/'] o.names

/-- Every way of writing an option, with the option. -/
def spellings : List (Text × Opt) := all.flatMap fun o => o.names.map (·, o)

/-- The option that is written so. -/
def ofName? (name : Text) : Option Opt := spellings.lookup name

end Opt

/-- Why a command line is refused. -/
inductive Misuse where
  /-- A name is short for several options. -/
  | ambiguous (given : Text) (candidates : List Text)
  /-- An option is given without the argument that it has. -/
  | noArgument (o : Opt)
  /-- An option is given with an argument that it does not have. -/
  | ignoredArgument (o : Opt) (given : Text)
  /-- No declaration is given. -/
  | noConfig
  /-- Some words are of no use. -/
  | unrecognized (words : List Text)
  deriving DecidableEq, Repr

/-- The wording of a misuse. -/
def Misuse.message : Misuse → Text
  | .ambiguous given candidates =>
    "ambiguous option: ".toList ++ given ++ " could match ".toList ++
      join ", ".toList candidates
  | .noArgument o => "argument ".toList ++ o.shown ++ ": expected one argument".toList
  | .ignoredArgument o given =>
    "argument ".toList ++ o.shown ++ ": ignored explicit argument ".toList ++ quoted given
  | .noConfig => "the following arguments are required: ".toList ++ Opt.config.shown
  | .unrecognized words => "unrecognized arguments: ".toList ++ join [' '] words

/-- What a word of a command line is. -/
inductive Word where
  /-- An argument of an option, or of no use. -/
  | argument (t : Text)
  /-- An option as it is written in full, and the argument in the same word. -/
  | opt (o : Opt) (name : Text) (attached : Option Text)
  /-- Of no use, and no argument of an option. -/
  | unknown (t : Text)
  deriving DecidableEq, Repr

/-- Whether a text is digits and perhaps a point with digits after it. -/
def isNumber (t : Text) : Bool :=
  let areDigits (t : Text) := t ≠ [] && t.all isDigit
  areDigits t ||
    match cut? '.' t with
    | some (whole, fraction) => whole.all isDigit && areDigits fraction
    | none => false

/-- Whether a word looks like a negative number; a line feed at its end does not count. -/
def isNegativeNumber (t : Text) : Bool :=
  match dropPrefix? ['-'] t with
  | some digits => isNumber digits || (digits.getLast? = some '\n' && isNumber digits.dropLast)
  | none => false

namespace Word

/-- The word and what is attached to it behind the first `=`. -/
def cutAttached (t : Text) : Text × Option Text :=
  match cut? '=' t with
  | some (name, attached) => (name, some attached)
  | none => (t, none)

/-- A word that begins with a hyphen and names no option in full. -/
def ofAbbreviation (t : Text) : Except Misuse Word :=
  let (short, attached) := cutAttached t
  let candidates :=
    if startsWith "--".toList t then
      (Opt.spellings.filter fun (name, _) => startsWith short name).map fun (name, o) =>
        (name, o, attached)
    else
      (Opt.spellings.filter fun (name, _) => name = t.take 2).map fun (name, o) =>
        (name, o, some (t.drop 2))
  match candidates with
  | [(name, o, attached)] => .ok (.opt o name attached)
  | _ :: _ :: _ => .error (.ambiguous t (candidates.map (·.1)))
  | [] =>
    if isNegativeNumber t || t.contains ' ' then .ok (.argument t) else .ok (.unknown t)

/-- A word of a command line. -/
def ofText (t : Text) : Except Misuse Word :=
  match t with
  | '-' :: _ :: _ =>
    match Opt.ofName? t with
    | some o => .ok (.opt o t none)
    | none =>
      match cutAttached t with
      | (name, some attached) =>
        match Opt.ofName? name with
        | some o => .ok (.opt o name (some attached))
        | none => ofAbbreviation t
      | (_, none) => ofAbbreviation t
  | _ => .ok (.argument t)

end Word

example : Word.ofText "--conf=x".toList = .ok (.opt .config "--config".toList (some ['x'])) := rfl
example : Word.ofText "-tzones".toList = .ok (.opt .target "-t".toList (some "zones".toList)) := rfl
example : Word.ofText "-1.5".toList = .ok (.argument "-1.5".toList) := rfl

end ZoneKeeper.Command
