import ZoneKeeper.Command.Option

/-!
# Arguments

What a command line asks for. Its words are first told apart, all of them, and then read in order; a
request for help is granted as soon as it is read, before anything that is wrong with the words
after it. Of several arguments for one option the last counts.
-/

namespace ZoneKeeper.Command

open Text

/-- The arguments of a run. -/
structure Arguments where
  /-- The path of the declaration. -/
  config : Text
  /-- The folder of the zone files, if one is given. -/
  target : Option Text
  /-- Whether nothing is to be written. -/
  isDry : Bool
  /-- How much is to be reported, if that is given. -/
  level : Option Text
  deriving DecidableEq, Repr

/-- What a command line asks for. -/
inductive Request where
  /-- An explanation of the options. -/
  | help
  /-- A run. -/
  | run (a : Arguments)
  deriving DecidableEq, Repr

/-- What is read of a command line. -/
structure Read where
  /-- The path of the declaration. -/
  config : Option Text
  /-- The folder of the zone files. -/
  target : Option Text
  /-- Whether nothing is to be written. -/
  isDry : Bool
  /-- How much is to be reported. -/
  level : Option Text
  /-- The words that are of no use, last first. -/
  useless : List Text
  deriving DecidableEq, Repr

namespace Read

/-- Nothing is read. -/
def empty : Read := ⟨none, none, false, none, []⟩

/-- With a word that is of no use. -/
def withUseless (r : Read) (t : Text) : Read := { r with useless := t :: r.useless }

/-- With the argument of an option. -/
def withArgument (r : Read) (o : Opt) (t : Text) : Read :=
  match o with
  | .config => { r with config := some t }
  | .target => { r with target := some t }
  | .level => { r with level := some t }
  | .help | .dryRun => r

/-- What is asked for, once all words are read. -/
def toRequest (r : Read) : Except Misuse Request :=
  match r.config with
  | none => .error .noConfig
  | some config =>
    if r.useless = [] then .ok (.run ⟨config, r.target, r.isDry, r.level⟩)
    else .error (.unrecognized r.useless.reverse)

end Read

/-- Whether the words begin with an argument. -/
def startsWithArgument : List Word → Bool
  | .argument _ :: _ => true
  | _ => false

/-- Checks the letters that are attached to the letter of the option that asks for help: every one
of them must be that of an option, and one that has an argument ends them. -/
def checkLetters (following : List Word) : Text → Except Misuse Unit
  | [] => .ok ()
  | c :: rest =>
    match Opt.ofName? ['-', c] with
    | none => .error (.ignoredArgument .help (c :: rest))
    | some o =>
      if !o.takesArgument then checkLetters following rest
      else if rest ≠ [] || startsWithArgument following then .ok ()
      else .error (.noArgument o)

/-- Reads words in order, `after` being those that follow `--`, which is among them. -/
def readWords (after : List Text) : Read → List Word → Except Misuse Request
  | r, [] => (after.foldl Read.withUseless r).toRequest
  | r, .argument t :: rest | r, .unknown t :: rest => readWords after (r.withUseless t) rest
  | r, .opt o name (some attached) :: rest =>
    if o.takesArgument then readWords after (r.withArgument o attached) rest
    else if name.length = 2 && attached ≠ [] then
      (checkLetters rest attached).map fun _ => .help
    else .error (.ignoredArgument o attached)
  | _, .opt .help _ none :: _ => .ok .help
  | r, .opt .dryRun _ none :: rest => readWords after { r with isDry := true } rest
  | r, .opt o _ none :: .argument t :: rest => readWords after (r.withArgument o t) rest
  | _, .opt o _ none :: _ => .error (.noArgument o)

/-- What a command line asks for. -/
def Request.ofTexts (line : List Text) : Except Misuse Request := do
  let isOption (t : Text) : Bool := t ≠ "--".toList
  let words ← (line.takeWhile isOption).mapM Word.ofText
  readWords (line.dropWhile isOption) .empty words

example : Request.ofTexts ["-cd.xml".toList, "--dry".toList] =
    .ok (.run ⟨"d.xml".toList, none, true, none⟩) := rfl
example : Request.ofTexts ["-h".toList, "-c".toList] = .ok .help := rfl
example : Request.ofTexts ["x".toList] = .error .noConfig := rfl

end ZoneKeeper.Command
