import ZoneKeeper.Proofs.Declaration.Element
import ZoneKeeper.Proofs.Outcome

/-!
# What a document declares

The rules that a document has to keep, said of its elements and of where they stand, and the
catalogue that it then declares. Both are said without the order in which the elements begin and
end; that the attributes of an element are read by these rules is proved here.
-/

namespace ZoneKeeper.Declaration

open Text

/-! ## Attributes -/

/-- The text of an attribute; of several attributes of one name the last counts. -/
def textOf? (a : List (Text × Text)) (name : Text) : Option Text :=
  ((a.filter (·.1 = name)).getLast?).map (·.2)

theorem get?_ofTexts (a : List (Text × Text)) (name : Text) :
    (Attributes.ofTexts a).get? name = (textOf? a name).map Value.text := by
  have hlast : (a.filter (·.1 = name)).getLast? = a.reverse.find? (·.1 = name) := by
    rw [List.getLast?_eq_head?_reverse, ← List.filter_reverse, List.head?_filter]
  rw [textOf?, hlast, Attributes.get?, Attributes.ofTexts, ← List.map_reverse, List.find?_map,
    Option.map_map, Option.map_map]
  rfl

namespace Element

/-! ## Domains and records -/

/-- Whether an element declares a domain. -/
def isDomain (e : Element) : Bool := capitals e.name = domainTag

/-- Whether an element declares a record. -/
def isRecord (e : Element) : Bool := capitals e.name = recordTag

theorem isRecord_of_isDomain {e : Element} (h : e.isDomain = true) : e.isRecord = false := by
  have htag : capitals e.name = domainTag := of_decide_eq_true h
  rw [isRecord, htag]
  decide

/-- The value of an attribute, its name in any letter case; of several the last counts. -/
def attribute? (e : Element) (name : Text) : Option Text :=
  ((e.attributes.filter (capitals ·.1 = name)).getLast?).map (·.2)

/-- The name that a domain declares. -/
def domainName (e : Element) : Text := trim ((e.attribute? "NAME".toList).getD [])

/-- What a domain says of itself: its name, its administrator and its times. -/
structure DeclaresDomain (e : Element) : Prop where
  name : ∃ t, e.attribute? "NAME".toList = some t ∧ trim t ≠ []
  admin : ∃ t, e.attribute? "ADMIN".toList = some t
  ttl : ∃ t, e.attribute? "TTL".toList = some t ∧ isTime t = true
  refresh : ∃ t, e.attribute? "REFRESH".toList = some t ∧ isTime t = true
  retry : ∃ t, e.attribute? "RETRY".toList = some t ∧ isTime t = true
  expire : ∃ t, e.attribute? "EXPIRE".toList = some t ∧ isTime t = true
  negativeTtl : ∃ t, e.attribute? "NEGTTL".toList = some t ∧ isTime t = true

/-- The type that a record declares. -/
def recordType (e : Element) : RecordType :=
  RecordType.ofToken ((e.attribute? "TYPE".toList).getD [])

/-- The value that a record declares. -/
def recordValue (e : Element) : Text := trim ((e.attribute? "VALUE".toList).getD [])

/-- What a type asks of the value and the preference of a record. -/
def MeetsRule (type : RecordType) (value : Text) (preference : Option Text) : Prop :=
  match type with
  | .a => isAddress value = true
  | .mx => ∃ p, preference = some p ∧ isPreference p = true
  | .spf => ∃ policy, Spf.publish value = .ok policy
  | _ => True

/-- What a record says of itself: a published type, a value that the type admits, and a time to live
if it has one. -/
structure DeclaresRecord (e : Element) : Prop where
  type : ∃ type ∈ RecordType.published, e.attribute? "TYPE".toList = some type.token
  value : ∃ t, e.attribute? "VALUE".toList = some t
  ttl : ∀ t, e.attribute? "TTL".toList = some t → isTime t = true
  rule : MeetsRule e.recordType e.recordValue (e.attribute? "PRIORITY".toList)

/-- The data fields of a record of a type with a value and perhaps a preference. -/
def fieldsOf (type : RecordType) (value : Text) (preference : Option Text) : List Text :=
  match type with
  | .mx => [preference.getD [], value]
  | .spf => [quote ((Spf.publish value).toOption.getD [])]
  | .txt => [quote value]
  | _ => [value]

/-- The record that an element declares. -/
def record (e : Element) : Record where
  type := e.recordType
  values := fieldsOf e.recordType e.recordValue (e.attribute? "PRIORITY".toList)
  owner := (e.attribute? "DOMAIN".toList).bind fun t => if trim t = [] then none else some (trim t)
  ttl := e.attribute? "TTL".toList

/-- The records that elements declare, in the order in which they begin. -/
def recordsAmong (es : List Element) : List Record := (es.filter isRecord).map record

/-- The zone that an element declares: its records are all those in it, however deep. -/
def zone (e : Element) : Zone where
  name := e.domainName
  admin := (e.attribute? "ADMIN".toList).getD []
  ttl := (e.attribute? "TTL".toList).getD []
  refresh := (e.attribute? "REFRESH".toList).getD []
  retry := (e.attribute? "RETRY".toList).getD []
  expire := (e.attribute? "EXPIRE".toList).getD []
  negativeTtl := (e.attribute? "NEGTTL".toList).getD []
  records := recordsAmong e.descendants

/-- The names of the domains among elements. -/
def namesAmong (es : List Element) : List Text := (es.filter isDomain).map domainName

/-- The zones of the domains among elements, under the names of the domains. -/
def zonesAmong (es : List Element) : Catalogue :=
  (es.filter isDomain).map fun e => (e.domainName, e.zone)

/-! ## Documents -/

/-- Whether a document keeps the rules: no domain stands in a domain, every record stands in one,
domains and records say what they have to, and no two domains have the same name. -/
structure MeetsSchema (root : Element) : Prop where
  outermost : ∀ p ∈ root.places [], p.element.isDomain = true →
    ∀ a ∈ p.ancestors, a.isDomain = false
  inside : ∀ p ∈ root.places [], p.element.isRecord = true →
    ∃ a ∈ p.ancestors, a.isDomain = true
  domains : ∀ e ∈ root.elements, e.isDomain = true → e.DeclaresDomain
  records : ∀ e ∈ root.elements, e.isRecord = true → e.DeclaresRecord
  names : (namesAmong root.elements).Nodup

/-- The catalogue that a document declares. -/
def catalogue (root : Element) : Catalogue := zonesAmong root.elements

/-! ## Reading attributes -/

variable {e : Element}

theorem get?_foldedAttributes (e : Element) (name : Text) :
    (foldedAttributes e.attributes).get? name = (e.attribute? name).map Value.text := by
  have htext : textOf? (e.attributes.map fun a => (capitals a.1, a.2)) name =
      e.attribute? name := by
    rw [textOf?, attribute?, List.filter_map, List.getLast?_map, Option.map_map]
    rfl
  rw [← htext]
  exact get?_ofTexts _ name

theorem readName_foldedAttributes (e : Element) :
    readName (foldedAttributes e.attributes) = e.domainName := by
  rw [readName, get?_foldedAttributes, domainName]
  cases e.attribute? "NAME".toList <;> rfl

theorem readField_eq_ok_iff {domain : Text} {field : Field} {t : Text} :
    readField (foldedAttributes e.attributes) domain field = .ok t ↔
      e.attribute? field.attribute = some t ∧ (field = .admin ∨ isTime t = true) := by
  rw [readField, get?_foldedAttributes]
  cases e.attribute? field.attribute with
  | none => simp
  | some t' =>
    by_cases h : field = .admin ∨ isTime t' = true
    · have hb : (decide (field = .admin) || isTime t') = true := by simpa using h
      simp only [Option.map_some, hb, if_true, Except.ok.injEq, Option.some.injEq]
      constructor
      · rintro rfl
        exact ⟨rfl, h⟩
      · exact And.left
    · have hb : ¬ (decide (field = .admin) || isTime t') = true := by simpa using h
      simp only [Option.map_some, hb, if_false, reduceCtorEq, false_iff, Option.some.injEq]
      rintro ⟨rfl, ht⟩
      exact h ht

theorem domainName_ne_nil_iff :
    e.domainName ≠ [] ↔ ∃ t, e.attribute? "NAME".toList = some t ∧ trim t ≠ [] := by
  rw [domainName]
  cases e.attribute? "NAME".toList with
  | none => simp [trim, trimLeft, trimRight]
  | some t => simp

/-- The attributes of a domain give a name and a zone exactly if they say what they have to. -/
theorem readZone_eq_ok_iff {z : Zone} :
    (e.domainName ≠ [] ∧ readZone (foldedAttributes e.attributes) e.domainName = .ok z) ↔
      e.DeclaresDomain ∧ { e.zone with records := [] } = z := by
  have htime (field : Field) {t : Text} (hne : field ≠ .admin) :
      readField (foldedAttributes e.attributes) e.domainName field = .ok t ↔
        e.attribute? field.attribute = some t ∧ isTime t = true := by
    rw [readField_eq_ok_iff, or_iff_right hne]
  have hfield {name t : Text} (h : e.attribute? name = some t) :
      (e.attribute? name).getD [] = t := by rw [h, Option.getD_some]
  have hzone {admin ttl refresh retry expire negativeTtl : Text}
      (hadmin : e.attribute? Field.admin.attribute = some admin)
      (httl : e.attribute? Field.ttl.attribute = some ttl)
      (hrefresh : e.attribute? Field.refresh.attribute = some refresh)
      (hretry : e.attribute? Field.retry.attribute = some retry)
      (hexpire : e.attribute? Field.expire.attribute = some expire)
      (hnegative : e.attribute? Field.negttl.attribute = some negativeTtl) :
      { e.zone with records := [] } =
        ⟨e.domainName, admin, ttl, refresh, retry, expire, negativeTtl, []⟩ := by
    rw [Zone.mk.injEq]
    exact ⟨rfl, hfield hadmin, hfield httl, hfield hrefresh, hfield hretry, hfield hexpire,
      hfield hnegative, rfl⟩
  rw [domainName_ne_nil_iff]
  constructor
  · rintro ⟨hname, h⟩
    obtain ⟨admin, hadmin, h⟩ := bind_eq_ok_iff.mp h
    obtain ⟨ttl, httl, h⟩ := bind_eq_ok_iff.mp h
    obtain ⟨refresh, hrefresh, h⟩ := bind_eq_ok_iff.mp h
    obtain ⟨retry, hretry, h⟩ := bind_eq_ok_iff.mp h
    obtain ⟨expire, hexpire, h⟩ := bind_eq_ok_iff.mp h
    obtain ⟨negativeTtl, hnegative, h⟩ := bind_eq_ok_iff.mp h
    obtain rfl := Except.ok.inj h
    have hadmin := (readField_eq_ok_iff.mp hadmin).1
    have httl := (htime .ttl nofun).mp httl
    have hrefresh := (htime .refresh nofun).mp hrefresh
    have hretry := (htime .retry nofun).mp hretry
    have hexpire := (htime .expire nofun).mp hexpire
    have hnegative := (htime .negttl nofun).mp hnegative
    refine ⟨⟨hname, ⟨admin, hadmin⟩, ⟨ttl, httl⟩, ⟨refresh, hrefresh⟩, ⟨retry, hretry⟩,
      ⟨expire, hexpire⟩, ⟨negativeTtl, hnegative⟩⟩, ?_⟩
    exact hzone hadmin httl.1 hrefresh.1 hretry.1 hexpire.1 hnegative.1
  · rintro ⟨⟨hname, ⟨admin, hadmin⟩, ⟨ttl, httl⟩, ⟨refresh, hrefresh⟩, ⟨retry, hretry⟩,
      ⟨expire, hexpire⟩, ⟨negativeTtl, hnegative⟩⟩, rfl⟩
    refine ⟨hname, bind_eq_ok_iff.mpr ⟨admin, readField_eq_ok_iff.mpr ⟨hadmin, .inl rfl⟩, ?_⟩⟩
    refine bind_eq_ok_iff.mpr ⟨ttl, (htime .ttl nofun).mpr httl, ?_⟩
    refine bind_eq_ok_iff.mpr ⟨refresh, (htime .refresh nofun).mpr hrefresh, ?_⟩
    refine bind_eq_ok_iff.mpr ⟨retry, (htime .retry nofun).mpr hretry, ?_⟩
    refine bind_eq_ok_iff.mpr ⟨expire, (htime .expire nofun).mpr hexpire, ?_⟩
    refine bind_eq_ok_iff.mpr ⟨negativeTtl, (htime .negttl nofun).mpr hnegative, ?_⟩
    exact congrArg Except.ok
      (hzone hadmin httl.1 hrefresh.1 hretry.1 hexpire.1 hnegative.1).symm

theorem ofToken?_eq_some_iff {t : Text} {type : RecordType} :
    RecordType.ofToken? t = some type ↔ type ∈ RecordType.published ∧ type.token = t := by
  rw [RecordType.ofToken?]
  constructor
  · intro h
    exact ⟨List.mem_of_find?_eq_some h, by simpa using List.find?_some h⟩
  · rintro ⟨hmem, rfl⟩
    have hall : ∀ type ∈ RecordType.published,
        RecordType.published.find? (fun other => decide (other.token = type.token)) = some type := by
      decide
    exact hall type hmem

theorem readType_eq_ok_iff {domain : Text} {type : RecordType} :
    readType (foldedAttributes e.attributes) domain = .ok type ↔
      (∃ type ∈ RecordType.published, e.attribute? "TYPE".toList = some type.token) ∧
        e.recordType = type := by
  rw [readType, get?_foldedAttributes, recordType]
  cases e.attribute? "TYPE".toList with
  | none => simp
  | some t =>
    simp only [Option.map_some, Option.getD_some, Option.some.injEq, RecordType.ofToken]
    cases h : RecordType.ofToken? t with
    | none =>
      have hnone : ∀ type ∈ RecordType.published, t ≠ type.token := by
        rintro type hmem rfl
        rw [ofToken?_eq_some_iff.mpr ⟨hmem, rfl⟩] at h
        cases h
      simp only [reduceCtorEq, false_iff, not_and]
      rintro ⟨type, hmem, heq⟩
      exact absurd heq (hnone type hmem)
    | some type' =>
      obtain ⟨hmem, htoken⟩ := ofToken?_eq_some_iff.mp h
      simp only [Except.ok.injEq, Option.getD_some, iff_and_self]
      exact fun _ => ⟨type', hmem, htoken.symm⟩

theorem readValue_eq_ok_iff {domain value : Text} {type : RecordType} :
    readValue (foldedAttributes e.attributes) domain type = .ok value ↔
      (∃ t, e.attribute? "VALUE".toList = some t) ∧ e.recordValue = value := by
  rw [readValue, get?_foldedAttributes, recordValue]
  cases e.attribute? "VALUE".toList <;> simp

theorem readTtl_eq_ok_iff {domain : Text} {type : RecordType} {ttl : Option Text} :
    readTtl (foldedAttributes e.attributes) domain type = .ok ttl ↔
      (∀ t, e.attribute? "TTL".toList = some t → isTime t = true) ∧
        e.attribute? "TTL".toList = ttl := by
  rw [readTtl, get?_foldedAttributes]
  cases e.attribute? "TTL".toList with
  | none => simp
  | some t =>
    by_cases ht : isTime t = true
    · simp [ht]
    · simp [ht]

theorem readOwner_eq (domain : Text) (type : RecordType) :
    readOwner (foldedAttributes e.attributes) domain type = .ok e.record.owner := by
  rw [readOwner, get?_foldedAttributes, record]
  cases e.attribute? "DOMAIN".toList <;> rfl

theorem readPreference_eq (domain : Text) (type : RecordType) :
    readPreference (foldedAttributes e.attributes) domain type =
      .ok (e.attribute? "PRIORITY".toList) := by
  rw [readPreference, get?_foldedAttributes]
  cases e.attribute? "PRIORITY".toList <;> rfl

theorem dataFields_eq_ok_iff {domain value : Text} {type : RecordType} {preference : Option Text}
    {values : List Text} : dataFields domain type value preference = .ok values ↔
      MeetsRule type value preference ∧ fieldsOf type value preference = values := by
  cases type with
  | a => cases h : isAddress value <;> simp [dataFields, MeetsRule, fieldsOf, h]
  | mx =>
    cases preference with
    | none => simp [dataFields, MeetsRule]
    | some p => cases h : isPreference p <;> simp [dataFields, MeetsRule, fieldsOf, h]
  | spf =>
    cases h : Spf.publish value <;> simp [dataFields, MeetsRule, fieldsOf, h, Except.toOption]
  | _ => simp [dataFields, MeetsRule, fieldsOf]

/-- The attributes of a record give a record exactly if they say what they have to. -/
theorem readRecord_eq_ok_iff {domain : Text} {r : Record} :
    readRecord (foldedAttributes e.attributes) domain = .ok r ↔
      e.DeclaresRecord ∧ e.record = r := by
  simp only [readRecord, bind_eq_ok_iff, readType_eq_ok_iff, readValue_eq_ok_iff,
    readTtl_eq_ok_iff, readOwner_eq, readPreference_eq, Except.ok.injEq, dataFields_eq_ok_iff]
  constructor
  · rintro ⟨_, ⟨htype, rfl⟩, _, ⟨hvalue, rfl⟩, _, ⟨httl, rfl⟩, _, rfl, _, rfl, _, ⟨hrule, rfl⟩, ⟨⟩⟩
    exact ⟨⟨htype, hvalue, httl, hrule⟩, rfl⟩
  · rintro ⟨⟨htype, hvalue, httl, hrule⟩, rfl⟩
    exact ⟨_, ⟨htype, rfl⟩, _, ⟨hvalue, rfl⟩, _, ⟨httl, rfl⟩, _, rfl, _, rfl, _, ⟨hrule, rfl⟩, rfl⟩

end Element

end ZoneKeeper.Declaration
