import ZoneKeeper.Proofs.Declaration.Session

/-!
# Declared zones stay declared

The catalogue that a builder hands out is made of the very zones that it goes on with, so it is only
good for as long as those zones are left alone. They are: a zone grows while its domain is open, the
open domain is always the last of the catalogue, and a closed domain never opens again, since its
name is taken.
-/

namespace ZoneKeeper.Declaration

open Text

namespace Builder

variable {b b' : Builder}

/-! ## The open domain -/

/-- The open domain, if there is one, is the last of the catalogue and the only one of its name. -/
def OpensLast (b : Builder) : Prop :=
  ∀ domain, b.openDomain = some domain →
    ∃ zones z, b.zones = zones ++ [(domain, z)] ∧ domain ∉ zones.map Prod.fst

/-- What the beginning of an element can change: it opens a domain without records at the end of the
catalogue, or gives the open domain, which is the last one, one more record at the end. -/
inductive Growth : Builder → Builder → Prop where
  /-- Nothing changes. -/
  | kept (b : Builder) : Growth b b
  /-- A domain opens. -/
  | opened {zones : Catalogue} {name : Text} {z : Zone} (hnew : name ∉ zones.map Prod.fst)
      (hempty : z.records = []) : Growth ⟨zones, none⟩ ⟨zones ++ [(name, z)], some name⟩
  /-- The open domain is given a record. -/
  | recorded (zones : Catalogue) (domain : Text) (z : Zone) (r : Record) :
      Growth ⟨zones ++ [(domain, z)], some domain⟩
        ⟨zones ++ [(domain, { z with records := z.records ++ [r] })], some domain⟩

theorem records_of_readZone {a : Attributes} {name : Text} {z : Zone}
    (h : readZone a name = .ok z) : z.records = [] := by
  simp only [readZone, bind_eq_ok_iff] at h
  obtain ⟨_, -, _, -, _, -, _, -, _, -, _, -, h⟩ := h
  obtain rfl := Except.ok.inj h
  rfl

theorem opensLast_empty : empty.OpensLast := by
  intro domain h
  cases h

/-- A step keeps the open domain last: it opens domains at the end, and only while none is open. -/
theorem Step.opensLast (hstep : b.Step b') (h : b.OpensLast) : b'.OpensLast := by
  intro domain hopen
  cases hstep with
  | kept => exact h domain hopen
  | @opened a z hclosed hname hnew hz =>
    obtain rfl := Option.some.inj hopen
    exact ⟨b.zones, z, rfl, hnew⟩
  | @recorded a outer r houter hr =>
    obtain rfl := Option.some.inj hopen
    obtain ⟨zones, z, hzones, hnew⟩ := h outer houter
    refine ⟨zones, { z with records := z.records ++ [r] }, ?_, hnew⟩
    rw [hzones]
    exact addRecords_concat hnew z [r]
  | closed => cases hopen

theorem opensLast_afterAll (calls : List Call) : (empty.afterAll calls).OpensLast :=
  afterAll_induction (fun _ _ h hstep => hstep.opensLast h) opensLast_empty calls

theorem Started.growth {tag : Text} {a : Attributes} (hstart : b.Started tag a b')
    (h : b.OpensLast) : Growth b b' := by
  obtain ⟨declared, openDomain⟩ := b
  cases hstart with
  | opened _ hclosed _ hnew hz =>
    obtain rfl : openDomain = none := hclosed
    exact .opened hnew (records_of_readZone hz)
  | @recorded domain r _ hopen _ =>
    obtain rfl : openDomain = some domain := hopen
    obtain ⟨zones, z, hzones, hnew⟩ := h domain rfl
    obtain rfl : declared = zones ++ [(domain, z)] := hzones
    rw [addRecords_concat hnew]
    exact .recorded zones domain z r
  | passed => exact .kept _

/-! ## Closed domains -/

/-- The zones of the domains that are closed: all, or all but the last. -/
def closedZones (b : Builder) : Catalogue :=
  match b.openDomain with
  | none => b.zones
  | some _ => b.zones.dropLast

theorem closedZones_concat (zones : Catalogue) (domain : Text) (z : Zone) :
    closedZones ⟨zones ++ [(domain, z)], some domain⟩ = zones :=
  List.dropLast_concat

theorem OpensLast.closedZones_eq (h : b.OpensLast) {domain : Text}
    (hopen : b.openDomain = some domain) :
    ∃ z, b.zones = b.closedZones ++ [(domain, z)] ∧ domain ∉ b.closedZones.map Prod.fst := by
  obtain ⟨zones, z, hzones, hnew⟩ := h domain hopen
  have hclosed : b.closedZones = zones := by
    rw [closedZones, hopen, hzones]
    exact List.dropLast_concat
  rw [hclosed]
  exact ⟨z, hzones, hnew⟩

theorem closedZones_prefix_zones (b : Builder) : b.closedZones <+: b.zones := by
  rw [closedZones]
  split
  · exact List.prefix_refl _
  · exact List.dropLast_prefix _

/-- A closed zone stays as it is, and where it is. -/
theorem Step.closedZones_prefix (hstep : b.Step b') (h : b.OpensLast) :
    b.closedZones <+: b'.closedZones := by
  cases hstep with
  | kept => exact List.prefix_refl _
  | opened hclosed hname hnew hz =>
    have hbefore : b.closedZones = b.zones := by simp only [closedZones, hclosed]
    exact ⟨[], by rw [closedZones_concat, hbefore, List.append_nil]⟩
  | @recorded a domain r hopen hr =>
    obtain ⟨z, hzones, hnew⟩ := h.closedZones_eq hopen
    refine ⟨[], ?_⟩
    rw [hzones, addRecords_concat hnew, closedZones_concat, List.append_nil]
  | closed =>
    exact b.closedZones_prefix_zones

theorem OpensLast.closedZones_prefix_afterAll (h : b.OpensLast) (calls : List Call) :
    b.closedZones <+: (b.afterAll calls).closedZones := by
  have hstep (between later : Builder)
      (hbetween : between.OpensLast ∧ b.closedZones <+: between.closedZones)
      (hstep : between.Step later) : later.OpensLast ∧ b.closedZones <+: later.closedZones := by
    obtain ⟨hlast, hprefix⟩ := hbetween
    exact ⟨hstep.opensLast hlast, hprefix.trans (hstep.closedZones_prefix hlast)⟩
  exact (afterAll_induction hstep ⟨h, List.prefix_refl _⟩ calls).2

end Builder

/-! ## Sessions -/

/-- The domain that a turn opens. -/
def Turn.opened? (turn : Turn) : Option Text :=
  match turn.call, turn.reply with
  | .start tag attributes _, .done =>
    if tag = domainTag then some (readName (.ofTexts attributes)) else none
  | _, _ => none

namespace Builder

variable {b b' : Builder}

theorem Started.names {tag : Text} {a : Attributes} (hstart : b.Started tag a b') :
    b'.zones.map Prod.fst =
      b.zones.map Prod.fst ++ (if tag = domainTag then some (readName a) else none).toList := by
  cases hstart with
  | opened htag => simp [htag]
  | @recorded domain r htag =>
    have hother : ¬ recordTag = domainTag := by decide
    rw [htag, if_neg hother, map_fst_addRecords]
    simp
  | passed hdomain => simp [hdomain]

/-- The answer to the beginning of an element. -/
theorem answer_start (b : Builder) (tag : Text) (attributes : List (Text × Text))
    (line : Option Nat) :
    b.answer (.start tag attributes line) =
      match b.start tag (.ofTexts attributes) line with
      | .ok started => (.done, started)
      | .error fault => (.refused fault, b) := by
  simp only [answer, Call.activity, Activity.on_bind, Activity.on_start, stepped]
  cases b.start tag (.ofTexts attributes) line <;> rfl

/-- A turn adds the domain that it opens to the names in the catalogue, and no other. -/
theorem names_answer (b : Builder) (c : Call) (openDomain : Option Text) :
    (b.answer c).2.zones.map Prod.fst =
      b.zones.map Prod.fst ++ (Turn.opened? ⟨c, (b.answer c).1, openDomain⟩).toList := by
  cases c with
  | start tag attributes line =>
    rw [answer_start]
    cases hstart : b.start tag (.ofTexts attributes) line with
    | ok started => exact (started_of_start hstart).names
    | error fault => simp [Turn.opened?]
  | finish tag =>
    have hzones : (b.answer (.finish tag)).2.zones = b.zones := by
      rw [answer_snd, after, finish]
      split <;> rfl
    simp [hzones, Turn.opened?]
  | build => simp [answer_snd, after, Turn.opened?]

/-- The domains of a catalogue are those that were there and those that the turns opened. -/
theorem names_session (b : Builder) (calls : List Call) :
    (b.session calls).2.zones.map Prod.fst =
      b.zones.map Prod.fst ++ (b.session calls).1.filterMap Turn.opened? := by
  induction calls generalizing b with
  | nil => simp [session]
  | cons c calls ih =>
    rw [session_cons]
    show (session _ calls).2.zones.map Prod.fst = _
    rw [ih, names_answer b c (b.answer c).2.openDomain, List.append_assoc]
    congr 1
    cases hopened : Turn.opened? ⟨c, (b.answer c).1, (b.answer c).2.openDomain⟩ with
    | none => rw [List.filterMap_cons_none hopened]; rfl
    | some name => rw [List.filterMap_cons_some hopened]; rfl

/-- The first turns of a session are a session, and the others are one that goes on from there. -/
theorem session_append {turns later : List Turn} {calls : List Call}
    (h : (b.session calls).1 = turns ++ later) :
    ∃ between, b.session (turns.map (·.call)) = (turns, between) ∧
      ∃ rest, between.session rest = (later, (b.session calls).2) := by
  induction turns generalizing b calls with
  | nil => exact ⟨b, rfl, calls, Prod.ext h rfl⟩
  | cons turn turns ih =>
    cases calls with
    | nil => cases h
    | cons c calls =>
      rw [session_cons, List.cons_append] at h
      obtain ⟨rfl, hrest⟩ := List.cons.inj h
      obtain ⟨between, hbetween, hlater⟩ := ih hrest
      refine ⟨between, ?_, hlater⟩
      rw [List.map_cons, session_cons, hbetween]

/-- A catalogue is handed out if no domain is open, and the builder goes on with it. -/
theorem eq_of_session_build {zones : Catalogue} {openDomain : Option Text} {later : List Turn}
    {calls : List Call}
    (h : (b.session calls).1 = ⟨.build, .catalogue zones, openDomain⟩ :: later) :
    b = ⟨zones, none⟩ ∧ ∃ rest, b.session rest = (later, (b.session calls).2) := by
  cases calls with
  | nil => cases h
  | cons c calls =>
    rw [session_cons] at h
    obtain ⟨hturn, hlater⟩ := List.cons.inj h
    obtain ⟨rfl, hreply, -⟩ := Turn.mk.inj hturn
    have hafter : (b.answer .build).2 = b := answer_snd b .build
    have hbuild : b.build = .ok zones := by
      simp only [answer, Call.activity, Activity.on_bind, Activity.on_build] at hreply
      cases hbuild : b.build with
      | ok declared =>
        rw [hbuild] at hreply
        exact congrArg Except.ok (Reply.catalogue.inj hreply)
      | error fault =>
        rw [hbuild] at hreply
        cases hreply
    refine ⟨build_eq_ok_iff.mp hbuild, calls, ?_⟩
    rw [hafter] at hlater
    rw [session_cons, hafter]
    exact Prod.ext hlater rfl

/-- A catalogue that was handed out stays the beginning of the catalogue, whatever is called, and is
followed there by the domains opened since. -/
theorem session_keeps {zones : Catalogue} {openDomain : Option Text} {later : List Turn}
    {calls : List Call}
    (h : (b.session calls).1 = ⟨.build, .catalogue zones, openDomain⟩ :: later) :
    ∃ opened, (b.session calls).2.zones = zones ++ opened ∧
      opened.map Prod.fst = later.filterMap Turn.opened? := by
  obtain ⟨rfl, rest, hrest⟩ := eq_of_session_build h
  generalize hlast : (session _ calls).2 = last at hrest ⊢
  have hclosed : OpensLast ⟨zones, none⟩ := by
    intro domain hopen
    cases hopen
  have hafter : afterAll ⟨zones, none⟩ rest = last := by rw [← session_snd, hrest]
  have hkept : zones <+: last.closedZones := by
    rw [← hafter]
    exact hclosed.closedZones_prefix_afterAll rest
  obtain ⟨opened, hopened⟩ : zones <+: last.zones := hkept.trans last.closedZones_prefix_zones
  have hnames := names_session ⟨zones, none⟩ rest
  rw [hrest] at hnames
  refine ⟨opened, hopened.symm, ?_⟩
  rw [← hopened, List.map_append] at hnames
  exact List.append_cancel_left hnames

/-- Of two catalogues that are handed out in one session the later one is the earlier one, followed
by the domains opened in between. And wherever a session leads, the open domain is the last one, and
the beginning of an element changes no other zone than that of the open domain, to which it adds one
record. -/
theorem session_grows (calls : List Call) :
    (∀ before between after zones zones' openDomain openDomain',
      (empty.session calls).1 = before ++ ⟨.build, .catalogue zones, openDomain⟩ ::
        (between ++ ⟨.build, .catalogue zones', openDomain'⟩ :: after) →
      ∃ opened, zones' = zones ++ opened ∧
        opened.map Prod.fst = between.filterMap Turn.opened?) ∧
    (empty.session calls).2.OpensLast ∧
    ∀ tag a line, Growth (empty.session calls).2
      ((Activity.start tag a line).on (empty.session calls).2).2 := by
  have hlast : (empty.session calls).2.OpensLast := by
    rw [session_snd]
    exact opensLast_afterAll calls
  refine ⟨?_, hlast, ?_⟩
  · intro before between after zones zones' openDomain openDomain' h
    obtain ⟨first, -, rest, hrest⟩ := session_append h
    have hturns : (first.session rest).1 = (⟨.build, .catalogue zones, openDomain⟩ :: between) ++
        ⟨.build, .catalogue zones', openDomain'⟩ :: after := by rw [hrest]; rfl
    obtain ⟨second, hsecond, rest, hlater⟩ := session_append hturns
    have hbuilt : second = ⟨zones', none⟩ := (eq_of_session_build (congrArg Prod.fst hlater)).1
    have hkept := session_keeps (congrArg Prod.fst hsecond)
    rwa [hsecond, hbuilt] at hkept
  · intro tag a line
    rw [Activity.on_start]
    cases hstart : start _ tag a line with
    | ok started => exact (started_of_start hstart).growth hlast
    | error fault => exact .kept _

/-- A domain with a record, a catalogue, another domain, and a record that is refused. -/
def sampleCalls : List Call :=
  let domain (name : String) : Call :=
    .start domainTag ([("NAME", name), ("ADMIN", "h@e"), ("TTL", "1d"), ("REFRESH", "3h"),
      ("RETRY", "1h"), ("EXPIRE", "1w"), ("NEGTTL", "1h")].map fun a => (a.1.toList, a.2.toList))
      none
  let record (value : String) : Call :=
    .start recordTag [("TYPE".toList, "NS".toList), ("VALUE".toList, value.toList)] none
  [domain "e", record "n", .finish domainTag, .build, domain " f ", .finish domainTag, domain "e",
    record "m", .build]

theorem session_grows_sample :
    let zone (name : String) (records : List Record) : Text × Zone :=
      (name.toList, ⟨name.toList, "h@e".toList, "1d".toList, "3h".toList, "1h".toList, "1w".toList,
        "1h".toList, records⟩)
    let zones := [zone "e" [⟨.ns, ["n".toList], none, none⟩]]
    let turns := (empty.session sampleCalls).1
    turns = turns.take 3 ++ ⟨.build, .catalogue zones, none⟩ ::
        ((turns.drop 4).take 4 ++ ⟨.build, .catalogue (zones ++ [zone "f" []]), none⟩ :: []) ∧
      ∃ opened, zones ++ [zone "f" []] = zones ++ opened ∧
        opened.map Prod.fst = ((turns.drop 4).take 4).filterMap Turn.opened? := by
  intro zone zones turns
  have h : turns = turns.take 3 ++ ⟨.build, .catalogue zones, none⟩ ::
      ((turns.drop 4).take 4 ++ ⟨.build, .catalogue (zones ++ [zone "f" []]), none⟩ :: []) := by
    decide +kernel
  exact ⟨h, (session_grows sampleCalls).1 _ _ _ _ _ _ _ h⟩

end Builder

end ZoneKeeper.Declaration
