import ZoneKeeper.Proofs.Declaration.Loading

/-!
# Calls to a builder

A builder is used call by call: elements begin and end, in whatever order, and the catalogue is
asked for. A call that is refused leaves the builder as it was, and the calls after it go on from
there. Reading a document makes such calls and no others, so what holds of the catalogues that calls
lead to holds of those that documents declare.
-/

namespace ZoneKeeper.Declaration

open Text

/-- A call to a builder. -/
inductive Call where
  /-- An element begins, with texts as the values of its attributes. -/
  | start (tag : Text) (attributes : List (Text × Text)) (line : Option Nat)
  /-- An element ends. -/
  | finish (tag : Text)
  /-- The catalogue is asked for. -/
  | build
  deriving DecidableEq, Repr

/-- The call that reading the beginning or end of an element makes. -/
def Call.ofEvent : Xml.Event → Call
  | .start name attributes line =>
    .start (capitals name) (attributes.map fun (name, value) => (capitals name, value)) (some line)
  | .finish name => .finish (capitals name)

namespace Builder

variable {b b' : Builder}

/-- The builder after a call, which is the same as before if the call is refused. -/
def after (b : Builder) : Call → Builder
  | .start tag attributes line =>
    match b.start tag (.ofTexts attributes) line with
    | .ok started => started
    | .error _ => b
  | .finish tag => b.finish tag
  | .build => b

/-- The builder after calls in turn. -/
def afterAll (b : Builder) (calls : List Call) : Builder := calls.foldl after b

theorem afterAll_cons (b : Builder) (c : Call) (calls : List Call) :
    b.afterAll (c :: calls) = (b.after c).afterAll calls := rfl

theorem afterAll_append (b : Builder) (calls later : List Call) :
    b.afterAll (calls ++ later) = (b.afterAll calls).afterAll later :=
  List.foldl_append

/-! ## What a call does -/

/-- What the beginning of an element makes of a builder that takes it. -/
inductive Started (tag : Text) (a : Attributes) (b : Builder) : Builder → Prop where
  /-- A domain of a new name opens, without records. -/
  | opened {z : Zone} (htag : tag = domainTag) (hclosed : b.openDomain = none)
      (hname : readName a ≠ []) (hnew : readName a ∉ b.zones.map Prod.fst)
      (hz : readZone a (readName a) = .ok z) :
      Started tag a b ⟨b.zones ++ [(readName a, z)], some (readName a)⟩
  /-- The open domain is given one more record. -/
  | recorded {domain : Text} {r : Record} (htag : tag = recordTag)
      (hopen : b.openDomain = some domain) (hr : readRecord a domain = .ok r) :
      Started tag a b ⟨addRecords b.zones domain [r], some domain⟩
  /-- The element declares nothing. -/
  | passed (hdomain : tag ≠ domainTag) (hrecord : tag ≠ recordTag) : Started tag a b b

/-- What a call can make of a builder. -/
inductive Step (b : Builder) : Builder → Prop where
  /-- Nothing changes. -/
  | kept : Step b b
  /-- A domain of a new name opens, without records. -/
  | opened {a : Attributes} {z : Zone} (hclosed : b.openDomain = none) (hname : readName a ≠ [])
      (hnew : readName a ∉ b.zones.map Prod.fst) (hz : readZone a (readName a) = .ok z) :
      Step b ⟨b.zones ++ [(readName a, z)], some (readName a)⟩
  /-- The open domain is given one more record. -/
  | recorded {a : Attributes} {domain : Text} {r : Record} (hopen : b.openDomain = some domain)
      (hr : readRecord a domain = .ok r) : Step b ⟨addRecords b.zones domain [r], some domain⟩
  /-- The open domain, if there is one, is closed. -/
  | closed : Step b ⟨b.zones, none⟩

theorem started_of_start {tag : Text} {a : Attributes} {line : Option Nat}
    (h : b.start tag a line = .ok b') : b.Started tag a b' := by
  obtain ⟨zones, openDomain⟩ := b
  rw [start, mapError_eq_ok_iff] at h
  by_cases hdomain : tag = domainTag
  · rw [if_pos hdomain] at h
    cases openDomain with
    | some domain => cases h
    | none =>
      obtain ⟨hname, hnew, z, hz, rfl⟩ := startDomain_eq_ok_iff.mp h
      exact .opened hdomain rfl hname hnew hz
  · rw [if_neg hdomain] at h
    by_cases hrecord : tag = recordTag
    · rw [if_pos hrecord] at h
      cases openDomain with
      | none => cases h
      | some domain =>
        obtain ⟨r, hr, rfl⟩ := startRecord_eq_ok_iff.mp h
        exact .recorded hrecord rfl hr
    · rw [if_neg hrecord] at h
      obtain rfl := Except.ok.inj h
      exact .passed hdomain hrecord

theorem step_of_start {tag : Text} {a : Attributes} {line : Option Nat}
    (h : b.start tag a line = .ok b') : b.Step b' := by
  cases started_of_start h with
  | opened _ hclosed hname hnew hz => exact .opened hclosed hname hnew hz
  | recorded _ hopen hr => exact .recorded hopen hr
  | passed => exact .kept

theorem step_after (b : Builder) (c : Call) : b.Step (b.after c) := by
  cases c with
  | start tag attributes line =>
    rw [after]
    split
    · next h => exact step_of_start h
    · exact .kept
  | finish tag =>
    rw [after, finish]
    split
    · exact .closed
    · exact .kept
  | build => exact .kept

/-- What holds of a builder and is kept by every step holds after any calls. -/
theorem afterAll_induction {p : Builder → Prop} (hstep : ∀ b b', p b → b.Step b' → p b')
    (hb : p b) (calls : List Call) : p (b.afterAll calls) := by
  induction calls generalizing b with
  | nil => exact hb
  | cons c calls ih => exact ih (hstep _ _ hb (b.step_after c))

end Builder

/-! ## Catalogues that calls lead to -/

/-- Whether calls to a new builder lead to a catalogue. -/
def Buildable (zones : Catalogue) : Prop :=
  ∃ calls, (Builder.empty.afterAll calls).build = .ok zones

theorem Builder.build_eq_ok_iff {b : Builder} {zones : Catalogue} :
    b.build = .ok zones ↔ b = ⟨zones, none⟩ := by
  obtain ⟨zones', openDomain⟩ := b
  cases openDomain <;> simp [build]

theorem Builder.after_ofEvent {b b' : Builder} {event : Xml.Event}
    (h : (b.take event).outcome = .ok b') : b.after (.ofEvent event) = b' := by
  cases event with
  | start name attributes line =>
    have hstart := mapError_eq_ok_iff.mp h
    rw [Call.ofEvent, after]
    show (match b.start _ (foldedAttributes attributes) _ with | .ok b => b | .error _ => b) = b'
    rw [hstart]
  | finish name =>
    have hfinish : b.run [.finish name] = .ok b' := by
      rw [run, List.foldlM_cons, h]
      rfl
    rw [run_finish, Except.ok.injEq] at hfinish
    exact hfinish

theorem Builder.afterAll_map_ofEvent {b b' : Builder} {events : List Xml.Event}
    (h : b.run events = .ok b') : b.afterAll (events.map .ofEvent) = b' := by
  induction events generalizing b with
  | nil => exact Except.ok.inj h
  | cons event events ih =>
    rw [run, List.foldlM_cons] at h
    obtain ⟨between, hfirst, hrest⟩ := bind_eq_ok_iff.mp h
    rw [List.map_cons, afterAll_cons, after_ofEvent hfirst]
    exact ih hrest

/-- What a document declares is something that calls lead to. -/
theorem buildable_ofBytes {bytes : List UInt8} {zones : Catalogue}
    (h : (ofBytes bytes).outcome = .ok zones) : Buildable zones := by
  rw [ofBytes, ofEvents, Journaled.outcome_bind, Builder.outcome_foldlM_take] at h
  obtain ⟨b, hrun, h⟩ := bind_eq_ok_iff.mp h
  refine ⟨(Xml.Document.read bytes).events.map .ofEvent, ?_⟩
  rw [Builder.afterAll_map_ofEvent hrun]
  cases hfailure : (Xml.Document.read bytes).failure with
  | some failure =>
    rw [hfailure] at h
    cases h
  | none =>
    rw [hfailure] at h
    simpa only [Journaled.outcome_bind, Journaled.outcome_ofExcept, Journaled.outcome_pure,
      Journaled.outcome_report, ok_bind, bind_eq_ok_iff, mapError_eq_ok_iff, Except.ok.injEq,
      exists_eq_right] using h

end ZoneKeeper.Declaration
