import ZoneKeeper.MasterFile.Data

/-!
# Checking a master file

Reads the text of a zone line by line, as a nameserver would load it, and counts the record sets
that it defines: the pairs of an owner in the zone and a type. Owners, times to live and the origin
are carried from line to line. A line whose owner lies outside the zone is read over; a name that
has an alias has nothing else.

This is one loader among others. It knows the types that zones are published with and the start of
authority; records of other types it refuses.
-/

namespace ZoneKeeper.MasterFile

/-- What is carried from one line to the next. -/
structure State where
  /-- The name of the zone. -/
  zone : Name
  /-- The name that completes other names. -/
  origin : Name
  /-- The owner of the last record. -/
  owner : Name
  /-- The last time to live that a record gave. -/
  lastTtl : Option Nat
  /-- The time to live for records that give none. -/
  defaultTtl : Option Nat
  /-- The record sets so far, owners in small letters. -/
  sets : List (Name × Kind)

/-- The state before the first line. -/
def State.start (zone : Name) : State := ⟨zone, zone, zone, none, none, []⟩

/-- Refuses the text. -/
def reject {α : Type} (reason : Reason) : Except Fault α :=
  .error (.rejected reason.message.toList)

/-- Refuses the text for what reading a part of it found. -/
def orReject {α : Type} (x : Except Reason α) : Except Fault α :=
  x.mapError fun reason => .rejected reason.message.toList

/-- Adds a record set of an owner in the zone. -/
def State.add (s : State) (kind : Kind) : Except Fault State :=
  let owner := s.owner.folded
  let beside := (s.sets.filter (·.1 = owner)).map (·.2)
  if kind = .soa ∧ owner ≠ s.zone.folded then .error .misplacedAuthority
  else if kind = .cname ∧ beside.any (· ≠ .cname) ∨ kind ≠ .cname ∧ beside.contains .cname then
    reject .aliasWithOther
  else if beside.contains kind then .ok s
  else .ok { s with sets := s.sets ++ [(owner, kind)] }

/-- The time to live at a cursor, if there is one, and the cursor behind it. -/
def optionalTtl (c : Cursor) : Except Reason (Option Nat × Cursor) := do
  let (w, after) ← c.word
  match ttl? w with
  | some n => return (some n, after)
  | none => return (none, c)

/-- The cursor behind the class, if there is one; a foreign class is refused. -/
def optionalClass (c : Cursor) : Except Reason Cursor := do
  let (w, after) ← c.word
  match internetClass? w with
  | some true => return after
  | some false => .error .foreignClass
  | none => return c

/-- Past the end of the line, whatever the line holds; at most `fuel` tokens. -/
def skipLine : (fuel : Nat) → Cursor → Except Reason Cursor
  | 0, c => .ok c
  | fuel + 1, c => do
    let (token, c) ← c.next
    if token.endsLine then .ok c else skipLine fuel c

/-- Reads a record from its time to live on: time to live and class in either order, type and
data. -/
def readRecord (s : State) (c : Cursor) : Except Fault (State × Cursor) := do
  let (before, c) ← orReject (optionalTtl c)
  let c ← orReject (optionalClass c)
  let (given, c) ← orReject (if before.isSome then pure (before, c) else optionalTtl c)
  let (w, c) ← orReject c.word
  let some kind := Kind.ofWord? w | reject .unknownType
  let (negative, c) ← orReject (readData kind s.origin c)
  let c ← orReject c.endLine
  let lastTtl := given <|> s.lastTtl
  let defaultTtl := s.defaultTtl <|> negative
  let s := { s with lastTtl, defaultTtl }
  match lastTtl <|> defaultTtl with
  | none => reject .noTtl
  | some _ => return (← s.add kind, c)

/-- Reads a line that is no directive. A line of blanks is nothing; a line that begins with blanks
belongs to the last owner. -/
def readEntry (s : State) (c : Cursor) : Except Fault (State × Cursor) := do
  let go (s : State) (c : Cursor) : Except Fault (State × Cursor) := do
    if s.owner.isIn s.zone then readRecord s c
    else return (s, ← orReject (skipLine (c.rest.length + 1) c))
  let (token, after) ← orReject (c.first false)
  match token with
  | .blank =>
    let (token, line) ← orReject after.next
    if token.endsLine then return (s, line) else go s after
  | .word w =>
    let owner ← orReject (Name.ofText w s.origin)
    go { s with owner } after
  | _ => reject .expectedWord

/-- Reads a directive, whose word is given. -/
def readDirective (s : State) (w : Text) (c : Cursor) : Except Fault (State × Cursor) := do
  let w := w.map Char.toUpper
  if w = "$TTL".toList then
    let (t, c) ← orReject c.word
    let some seconds := ttl? t | reject .badTtl
    return ({ s with defaultTtl := some seconds }, ← orReject c.endLine)
  else if w = "$ORIGIN".toList then
    let (origin, c) ← orReject (c.name none)
    return ({ s with origin }, ← orReject c.endLine)
  else reject .unknownDirective

/-- Reads the line at a cursor; `none` at the end of the text. -/
def readLine (s : State) (c : Cursor) : Except Fault (Option (State × Cursor)) := do
  let (token, after) ← orReject (c.first true)
  match token with
  | .finish => return none
  | .line => return some (s, after)
  | .comment => return some (s, ← orReject after.endLine)
  | .quoted [] => .error .emptyStart
  | .word ('$' :: rest) => return some (← readDirective s ('$' :: rest) after)
  | .quoted ('$' :: rest) => return some (← readDirective s ('$' :: rest) after)
  | _ => return some (← readEntry s c)

/-- Reads the lines from a cursor on, at most `fuel` of them. -/
def readLines : (fuel : Nat) → State → Cursor → Except Fault State
  | 0, s, _ => .ok s
  | fuel + 1, s, c => do
    match ← readLine s c with
    | none => .ok s
    | some (s, c) => readLines fuel s c

/-- How many record sets the master file of a zone defines. Every line takes at least its line feed,
so there are no more lines than characters. -/
def check : Loader := fun zone text => do
  let zone ← orReject (Name.ofText zone (some .root))
  let s ← readLines (text.length + 1) (.start zone) ⟨text, 0⟩
  return s.sets.length

end ZoneKeeper.MasterFile
