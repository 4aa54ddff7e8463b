import ZoneKeeper.Proofs.Declaration.Loading
import ZoneKeeper.Proofs.Spf.Reading

/-!
# Why an element is refused

The attributes of an element can have any number of faults at the same time, and each of them can be
told without regard to the others. Put in the order in which they count, the first of them is what
the element is refused for; without any, the element is taken.
-/

namespace ZoneKeeper.Declaration

open Text

/-! ## What attributes say -/

section Attributes

variable (a : List (Text × Text))

/-- The name of a domain, blanks around it left out; nothing if there is none. -/
def domainName : Text := trim ((textOf? a "NAME".toList).getD [])

def fieldText (field : Field) : Text := (textOf? a field.attribute).getD []

def declaredZone : Zone where
  name := domainName a
  admin := fieldText a .admin
  ttl := fieldText a .ttl
  refresh := fieldText a .refresh
  retry := fieldText a .retry
  expire := fieldText a .expire
  negativeTtl := fieldText a .negttl
  records := []

def recordType : RecordType := RecordType.ofToken ((textOf? a "TYPE".toList).getD [])

/-- The value of a record, blanks around it left out. -/
def recordValue : Text := trim ((textOf? a "VALUE".toList).getD [])

def preference? : Option Text := textOf? a "PRIORITY".toList

def declaredRecord : Record where
  type := recordType a
  values := Element.fieldsOf (recordType a) (recordValue a) (preference? a)
  owner := (textOf? a "DOMAIN".toList).bind fun t => if trim t = [] then none else some (trim t)
  ttl := textOf? a "TTL".toList

/-! ## What is wrong with them -/

/-- The fields of a domain in the order in which they count. -/
def Field.all : List Field := [.admin, .ttl, .refresh, .retry, .expire, .negttl]

/-- What is wrong with the name of a domain: there is none, or it is taken. -/
def nameFaults (zones : Catalogue) : List Cause :=
  (if domainName a = [] then [.unnamedDomain] else []) ++
    if domainName a ∈ zones.map Prod.fst then [.duplicateDomain (domainName a)] else []

/-- What is wrong with a field of a domain: it is absent, or it is no time where it has to be one. -/
def fieldFaults (field : Field) : List Cause :=
  match textOf? a field.attribute with
  | none => [.missingField field (domainName a)]
  | some t =>
    if field = .admin ∨ isTime t = true then [] else [.badField (.text t) field (domainName a)]

def domainFaults (zones : Catalogue) : List Cause :=
  nameFaults a zones ++ Field.all.flatMap (fieldFaults a)

variable (domain : Text)

/-- What is wrong with the type of a record: it is absent, or it is not one of those published. -/
def typeFaults : List Cause :=
  match textOf? a "TYPE".toList with
  | none => [.missingType domain]
  | some t =>
    if t ∈ RecordType.published.map RecordType.token then [] else [.badType (.text t) domain]

/-- What is wrong with the value of a record before its type is looked at: it is absent. -/
def valueFaults : List Cause :=
  if (textOf? a "VALUE".toList).isNone then [.missingValue (recordType a) domain] else []

/-- What is wrong with the time to live of a record: it is there and no time. -/
def ttlFaults : List Cause :=
  match textOf? a "TTL".toList with
  | none => []
  | some t => if isTime t = true then [] else [.badTtl (.text t) (recordType a) domain]

/-- What is wrong with the preference of a mail exchange: it is absent, or it is none. -/
def preferenceFaults : List Cause :=
  match preference? a with
  | none => [.missingPreference domain]
  | some p => if isPreference p = true then [] else [.badPreference p domain]

/-- What is wrong with a record by the rule of its type. -/
def ruleFaults : List Cause :=
  match recordType a with
  | .a => if isAddress (recordValue a) = true then [] else [.badAddress (recordValue a) domain]
  | .mx => preferenceFaults a domain
  | .spf => (Spf.faults (recordValue a)).map (.badPolicy · domain)
  | _ => []

def recordFaults : List Cause :=
  typeFaults a domain ++ valueFaults a domain ++ ttlFaults a domain ++ ruleFaults a domain

end Attributes

/-! ## Reading attributes -/

variable {a : List (Text × Text)}

theorem readName_ofTexts (a : List (Text × Text)) : readName (.ofTexts a) = domainName a := by
  rw [readName, get?_ofTexts, domainName]
  cases textOf? a "NAME".toList <;> rfl

theorem readField_ofTexts (a : List (Text × Text)) (field : Field) :
    readField (.ofTexts a) (domainName a) field =
      verdict (fieldFaults a field) (fieldText a field) := by
  rw [readField, get?_ofTexts, fieldFaults, fieldText]
  cases textOf? a field.attribute with
  | none => rfl
  | some t =>
    have hcheck : (decide (field = .admin) || isTime t) = true ↔
        field = .admin ∨ isTime t = true := by simp
    by_cases h : field = .admin ∨ isTime t = true
    · simp only [if_pos h]
      exact if_pos (hcheck.mpr h)
    · simp only [if_neg h]
      exact if_neg (mt hcheck.mp h)

/-- A zone is read field by field, so the first field that something is wrong with decides. -/
theorem readZone_ofTexts (a : List (Text × Text)) :
    readZone (.ofTexts a) (domainName a) =
      verdict (Field.all.flatMap (fieldFaults a)) (declaredZone a) := by
  rw [readZone]
  simp only [readField_ofTexts, Field.all, List.flatMap_cons, List.flatMap_nil]
  iterate 6 refine verdict_bind ?_
  rfl

theorem readType_ofTexts (a : List (Text × Text)) (domain : Text) :
    readType (.ofTexts a) domain = verdict (typeFaults a domain) (recordType a) := by
  rw [readType, get?_ofTexts, typeFaults, recordType]
  cases textOf? a "TYPE".toList with
  | none => rfl
  | some t =>
    simp only [Option.map_some, Option.getD_some, RecordType.ofToken]
    cases htype : RecordType.ofToken? t with
    | some type =>
      obtain ⟨hmem, rfl⟩ := Element.ofToken?_eq_some_iff.mp htype
      have hpublished : type.token ∈ RecordType.published.map RecordType.token :=
        List.mem_map_of_mem hmem
      simp only [if_pos hpublished]
      rfl
    | none =>
      have hother : t ∉ RecordType.published.map RecordType.token := by
        intro hpublished
        obtain ⟨type, hmem, rfl⟩ := List.mem_map.mp hpublished
        rw [Element.ofToken?_eq_some_iff.mpr ⟨hmem, rfl⟩] at htype
        cases htype
      simp only [if_neg hother]
      rfl

theorem readValue_ofTexts (a : List (Text × Text)) (domain : Text) :
    readValue (.ofTexts a) domain (recordType a) =
      verdict (valueFaults a domain) (recordValue a) := by
  rw [readValue, get?_ofTexts, valueFaults, recordValue]
  cases textOf? a "VALUE".toList <;> rfl

theorem readTtl_ofTexts (a : List (Text × Text)) (domain : Text) :
    readTtl (.ofTexts a) domain (recordType a) =
      verdict (ttlFaults a domain) (textOf? a "TTL".toList) := by
  rw [readTtl, get?_ofTexts, ttlFaults]
  cases textOf? a "TTL".toList with
  | none => rfl
  | some t => by_cases ht : isTime t = true <;> simp [ht]

theorem readOwner_ofTexts (a : List (Text × Text)) (domain : Text) (type : RecordType) :
    readOwner (.ofTexts a) domain type = .ok (declaredRecord a).owner := by
  rw [readOwner, get?_ofTexts, declaredRecord]
  cases textOf? a "DOMAIN".toList <;> rfl

theorem readPreference_ofTexts (a : List (Text × Text)) (domain : Text) (type : RecordType) :
    readPreference (.ofTexts a) domain type = .ok (preference? a) := by
  rw [readPreference, get?_ofTexts, preference?]
  cases textOf? a "PRIORITY".toList <;> rfl

theorem dataFields_eq (a : List (Text × Text)) (domain : Text) :
    dataFields domain (recordType a) (recordValue a) (preference? a) =
      verdict (ruleFaults a domain) (declaredRecord a).values := by
  rw [ruleFaults, declaredRecord]
  cases recordType a with
  | a => by_cases h : isAddress (recordValue a) = true <;> simp [dataFields, Element.fieldsOf, h]
  | mx =>
    rw [preferenceFaults]
    cases preference? a with
    | none => rfl
    | some p => by_cases h : isPreference p = true <;> simp [dataFields, Element.fieldsOf, h]
  | spf =>
    have hpublish := Spf.publish_eq (recordValue a)
    cases hfaults : Spf.faults (recordValue a) with
    | nil =>
      rw [hfaults, verdict_nil] at hpublish
      simp [dataFields, Element.fieldsOf, hpublish, Except.toOption]
    | cons fault rest =>
      rw [hfaults, verdict_cons] at hpublish
      simp [dataFields, hpublish]
  | _ => rfl

theorem readRecord_ofTexts (a : List (Text × Text)) (domain : Text) :
    readRecord (.ofTexts a) domain = verdict (recordFaults a domain) (declaredRecord a) := by
  rw [readRecord, readType_ofTexts, recordFaults, List.append_assoc, List.append_assoc]
  -- Owner and preference are texts here, so no fault of theirs stands between the others.
  refine verdict_bind ?_
  rw [readValue_ofTexts]
  refine verdict_bind ?_
  rw [readTtl_ofTexts]
  refine verdict_bind ?_
  rw [readOwner_ofTexts, ok_bind, readPreference_ofTexts, ok_bind, dataFields_eq]
  exact verdict_bind_ok _ _ _

/-! ## Wording -/

theorem message_missingField (field : Field) (domain : Text) :
    (Cause.missingField field domain).message =
      "Domain attribute ".toList ++ named (smallLetters field.attribute) ++
        " undefined for ".toList ++ named domain := rfl

theorem message_badField (t : Text) (field : Field) (domain : Text) :
    (Cause.badField (.text t) field domain).message =
      "Invalid time value ".toList ++ named t ++ " for attribute ".toList ++
        named (smallLetters field.attribute) ++ " on domain ".toList ++
          named domain := rfl

/-- What is said of a field names its attribute, and its value if there is one. -/
theorem infix_message_of_mem_fieldFaults {field : Field} {cause : Cause}
    (h : cause ∈ fieldFaults a field) :
    named (smallLetters field.attribute) <:+: cause.message ∧
      ∀ t, textOf? a field.attribute = some t → named t <:+: cause.message := by
  rw [fieldFaults] at h
  cases htext : textOf? a field.attribute with
  | none =>
    rw [htext] at h
    obtain rfl := List.mem_singleton.mp h
    refine ⟨?_, nofun⟩
    rw [message_missingField, List.append_assoc _ _ (named (domainName a))]
    exact List.infix_append _ _ _
  | some t =>
    rw [htext] at h
    by_cases hsound : field = .admin ∨ isTime t = true
    · simp only [if_pos hsound] at h
      cases h
    · simp only [if_neg hsound] at h
      obtain rfl := List.mem_singleton.mp h
      rw [message_badField, List.append_assoc _ _ (named (domainName a))]
      refine ⟨List.infix_append _ _ _, ?_⟩
      rintro t' ⟨⟩
      rw [List.append_assoc, List.append_assoc]
      exact List.infix_append _ _ _

/-! ## The decision -/

namespace Builder

theorem startDomain_ofTexts (zones : Catalogue) (a : List (Text × Text)) :
    startDomain ⟨zones, none⟩ (.ofTexts a) = verdict (domainFaults a zones)
      ⟨zones ++ [(domainName a, declaredZone a)], some (domainName a)⟩ := by
  have hhas := Catalogue.has_iff zones (domainName a)
  rw [startDomain, readName_ofTexts, domainFaults, nameFaults]
  by_cases hname : domainName a = []
  · simp only [if_pos hname]
    rfl
  · by_cases hknown : domainName a ∈ zones.map Prod.fst
    · simp only [if_neg hname, if_pos hknown, if_pos (hhas.mpr hknown)]
      rfl
    · simp only [if_neg hname, if_neg hknown, if_neg (mt hhas.mp hknown)]
      show readZone _ _ >>= _ = _
      rw [readZone_ofTexts]
      exact verdict_bind_ok _ _ _

theorem startRecord_ofTexts (zones : Catalogue) (domain : Text) (a : List (Text × Text)) :
    startRecord ⟨zones, some domain⟩ (.ofTexts a) = verdict (recordFaults a domain)
      ⟨addRecord zones domain (declaredRecord a), some domain⟩ := by
  show readRecord _ _ >>= _ = _
  rw [readRecord_ofTexts]
  exact verdict_bind_ok _ _ _

/-- Whatever else is wrong with an element, the first fault in a fixed order decides: a domain that
begins while none is open and a record that begins in a domain are refused for it, at the line of the
element, and are taken if nothing is wrong with them. What is said of a field of a domain names the
attribute, and its value if it has one. -/
theorem start_decided (zones : Catalogue) (a : List (Text × Text)) (line : Option Nat) :
    start ⟨zones, none⟩ domainTag (.ofTexts a) line =
        verdict ((domainFaults a zones).map (Fault.mk · line))
          ⟨zones ++ [(domainName a, declaredZone a)], some (domainName a)⟩ ∧
      (∀ domain, start ⟨zones, some domain⟩ recordTag (.ofTexts a) line =
        verdict ((recordFaults a domain).map (Fault.mk · line))
          ⟨addRecord zones domain (declaredRecord a), some domain⟩) ∧
      ∀ field, ∀ cause ∈ fieldFaults a field,
        named (smallLetters field.attribute) <:+: cause.message ∧
          ∀ t, textOf? a field.attribute = some t → named t <:+: cause.message := by
  refine ⟨?_, fun domain => ?_, fun field cause => infix_message_of_mem_fieldFaults⟩
  · rw [start, if_pos rfl, startDomain_ofTexts, mapError_verdict]
  · have hother : ¬ recordTag = domainTag := by decide
    rw [start, if_neg hother, if_pos rfl, startRecord_ofTexts, mapError_verdict]

/-- The refresh interval is no time and there is no expiry time: the former decides. -/
theorem start_decided_sample :
    let a := [("NAME", " e "), ("ADMIN", "h@e"), ("TTL", "1d"), ("REFRESH", "0"), ("RETRY", "1h"),
      ("NEGTTL", "1h")].map fun a => (a.1.toList, a.2.toList)
    let cause := Cause.badField (.text "0".toList) .refresh "e".toList
    cause ∈ fieldFaults a .refresh ∧ textOf? a "REFRESH".toList = some "0".toList ∧
      start ⟨[], none⟩ domainTag (.ofTexts a) (some 7) = .error ⟨cause, some 7⟩ ∧
      named "refresh".toList <:+: cause.message ∧ named "0".toList <:+: cause.message := by
  intro a cause
  have hmem : cause ∈ fieldFaults a .refresh := by decide
  have htext : textOf? a "REFRESH".toList = some "0".toList := by decide
  have hfaults : domainFaults a [] = [cause, .missingField .expire "e".toList] := by decide
  have hstart := (start_decided [] a (some 7)).1
  rw [hfaults] at hstart
  obtain ⟨hfield, hvalue⟩ := (start_decided [] a (some 7)).2.2 .refresh cause hmem
  exact ⟨hmem, htext, hstart, hfield, hvalue _ htext⟩

end Builder

end ZoneKeeper.Declaration
