import ZoneKeeper.Literal
import ZoneKeeper.Text.Blank

/-!
# Sender policies

A sender policy is declared by a short criteria text: addresses and include targets between commas,
and after them, in brackets, the qualifier of the closing `all` mechanism, as in
`10.0.0.1,_spf.example.net[~]`. Reading the criteria gives a policy; writing the policy gives the
text that is published, `v=spf1 ip4:10.0.0.1 include:_spf.example.net ~all`.

An item that looks like an address must be one; every other item is a target, whatever it holds.
-/

namespace ZoneKeeper.Spf

open Text

/-- The qualifiers of the closing mechanism. -/
def qualifiers : Text := ['+', '?', '~', '-']

/-- The qualifier of a policy whose criteria give none. -/
def defaultQualifier : Char := '?'

/-- One mechanism of a policy. -/
inductive Mechanism where
  /-- The address itself may send. -/
  | address (value : Text)
  /-- Whoever the policy of the target admits may send. -/
  | target (value : Text)
  deriving DecidableEq, Repr

/-- A policy: its mechanisms in order and the qualifier of the closing one. -/
structure Policy where
  /-- The mechanisms before the closing one. -/
  mechanisms : List Mechanism
  /-- The qualifier of the closing mechanism. -/
  qualifier : Char
  deriving DecidableEq, Repr

/-- Why criteria describe no policy. -/
inductive Fault where
  /-- The brackets hold a character that is no qualifier. -/
  | unknownQualifier (c : Char)
  /-- The item looks like an address and is none. -/
  | badAddress (item : Text)
  deriving DecidableEq, Repr

/-- The criteria before the bracketed qualifier, and the qualifier. Only a bracketed single
character other than a line feed, at the very end, is a qualifier. -/
def splitQualifier (criteria : Text) : Except Fault (Text × Char) :=
  match criteria.reverse with
  | ']' :: c :: '[' :: rest =>
    if c = '\n' then .ok (criteria, defaultQualifier)
    else if qualifiers.contains c then .ok (trim rest.reverse, c)
    else .error (.unknownQualifier c)
  | _ => .ok (criteria, defaultQualifier)

/-- The mechanism that an item stands for, blanks around the item left out. -/
def Mechanism.ofItem (item : Text) : Except Fault Mechanism :=
  let item := trim item
  if isDottedNumeric item then
    if isAddress item then .ok (.address item) else .error (.badAddress item)
  else .ok (.target item)

/-- The items of criteria without a qualifier; criteria with nothing in them have none. -/
def items (criteria : Text) : List Text :=
  if criteria = [] then [] else split ',' criteria

/-- The policy that criteria describe. A wrong qualifier is found before a wrong address, and of
the wrong addresses the first. -/
def Policy.ofCriteria (criteria : Text) : Except Fault Policy := do
  let (rest, qualifier) ← splitQualifier (trim criteria)
  let mechanisms ← (items rest).mapM Mechanism.ofItem
  return ⟨mechanisms, qualifier⟩

/-- A mechanism as it is published. -/
def Mechanism.render : Mechanism → Text
  | .address value => "ip4:".toList ++ value
  | .target value => "include:".toList ++ value

/-- The closing mechanism; `+` is implied, so it is not written. -/
def closing (qualifier : Char) : Text :=
  if qualifier = '+' then "all".toList else qualifier :: "all".toList

/-- A policy as it is published: its terms with single blanks between them. -/
def Policy.render (p : Policy) : Text :=
  join [' '] ("v=spf1".toList :: p.mechanisms.map Mechanism.render ++ [closing p.qualifier])

/-- The published text of the policy that criteria describe. -/
def publish (criteria : Text) : Except Fault Text :=
  (Policy.ofCriteria criteria).map Policy.render

/-- The wording of a fault. -/
def Fault.message : Fault → Text
  | .unknownQualifier c => "Invalid SPF record qualifier ".toList ++ named [c]
  | .badAddress item => "Invalid IPv4 address ".toList ++ named item ++ " for SPF record".toList

example : publish " 10.0.0.1 , _spf.example.net [~] ".toList =
    .ok "v=spf1 ip4:10.0.0.1 include:_spf.example.net ~all".toList := rfl
example : publish "1.2.3[x]".toList = .error (.unknownQualifier 'x') := rfl

end ZoneKeeper.Spf
