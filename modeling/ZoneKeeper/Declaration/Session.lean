import ZoneKeeper.Declaration.Builder

/-!
# Using a builder in place

One builder serves all calls, and every call changes it as it goes along. Nothing is undone: a call
that fails leaves the builder as it is where it fails. So that a failing call changes nothing, every
check stands before the first change.
-/

namespace ZoneKeeper.Declaration

/-- An activity on a builder. What it changes before it fails stays changed. -/
abbrev Activity (α : Type) : Type := ExceptT Fault (StateM Builder) α

namespace Activity

variable {α : Type}

/-- What comes of an activity, and the builder after it. -/
def on (x : Activity α) (b : Builder) : Except Fault α × Builder := StateT.run (ExceptT.run x) b

/-- Fails. -/
def refuse (cause : Cause) (line : Option Nat) : Activity α := throw ⟨cause, line⟩

/-- Reads something of the attributes of an element, without regard to the builder. -/
def reading (x : Except Cause α) (line : Option Nat) : Activity α :=
  match x with
  | .ok a => pure a
  | .error cause => refuse cause line

/-- A domain begins: its zone is entered, and then it is open. -/
def startDomain (a : Attributes) (line : Option Nat) : Activity Unit := do
  let name := readName a
  if name = [] then refuse .unnamedDomain line
  if (← get).zones.has name then refuse (.duplicateDomain name) line
  let zone ← reading (readZone a name) line
  modify fun b => { b with zones := b.zones ++ [(name, zone)] }
  modify fun b => { b with openDomain := some name }

/-- A record of a domain begins. -/
def startRecord (domain : Text) (a : Attributes) (line : Option Nat) : Activity Unit := do
  let r ← reading (readRecord a domain) line
  modify fun b => { b with zones := Builder.addRecord b.zones domain r }

/-- An element begins. -/
def start (tag : Text) (a : Attributes) (line : Option Nat) : Activity Unit := do
  if tag = domainTag then
    match (← get).openDomain with
    | some outer => refuse (.nestedDomain outer) line
    | none => startDomain a line
  else if tag = recordTag then
    match (← get).openDomain with
    | none => refuse .strayRecord line
    | some domain => startRecord domain a line

/-- An element ends. -/
def finish (tag : Text) : Activity Unit := do
  if tag = domainTag then
    if (← get).openDomain.isSome then
      modify fun b => { b with openDomain := none }

/-- The catalogue is asked for. -/
def build : Activity Catalogue := do
  match (← get).openDomain with
  | some domain => refuse (.unclosedDomain domain) none
  | none => return (← get).zones

end Activity

end ZoneKeeper.Declaration
