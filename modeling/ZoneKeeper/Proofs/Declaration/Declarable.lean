import Mathlib.Data.List.Nodup
import ZoneKeeper.Proofs.Declaration.Call
import ZoneKeeper.Proofs.Literal

/-!
# The catalogues that can be declared

What a builder checks of every element is all that is known of the catalogue in the end, and it is
exactly what is needed to declare the catalogue: every call keeps it, and a catalogue of which it is
true is built by declaring its zones one after another, each with its records in order.
-/

namespace ZoneKeeper

open Text Declaration

/-! ## What can be declared -/

/-- The data fields that a record of a type can be declared with. -/
inductive RecordType.Admits : RecordType → List Text → Prop where
  /-- A nameserver has a host. -/
  | ns {host : Text} (h : host.IsTrimmed) : Admits .ns [host]
  /-- An address record has an address. -/
  | a {address : Text} (h : isAddress address = true) : Admits .a [address]
  /-- An alias has a host. -/
  | cname {host : Text} (h : host.IsTrimmed) : Admits .cname [host]
  /-- A mail exchange has a preference and a host. -/
  | mx {preference host : Text} (hpreference : isPreference preference = true)
      (hhost : host.IsTrimmed) : Admits .mx [preference, host]
  /-- A sender policy has the published text of the policy that some criteria describe, in quotes. -/
  | spf {criteria policy : Text} (hcriteria : criteria.IsTrimmed)
      (hpolicy : Spf.publish criteria = .ok policy) : Admits .spf [quote policy]
  /-- A text record has a text in quotes. -/
  | txt {t : Text} (h : t.IsTrimmed) : Admits .txt [quote t]

/-- A record that can be declared. -/
structure Record.IsDeclarable (r : Record) : Prop where
  values : r.type.Admits r.values
  owner : ∀ owner, r.owner = some owner → owner ≠ [] ∧ owner.IsTrimmed
  ttl : ∀ ttl, r.ttl = some ttl → isTime ttl = true

/-- A zone that can be declared. Its administrator can be any text. -/
structure Zone.IsDeclarable (z : Zone) : Prop where
  ttl : isTime z.ttl = true
  refresh : isTime z.refresh = true
  retry : isTime z.retry = true
  expire : isTime z.expire = true
  negativeTtl : isTime z.negativeTtl = true
  records : ∀ r ∈ z.records, r.IsDeclarable

/-- A catalogue that can be declared: zones under names of their own. -/
structure Catalogue.IsDeclarable (c : Catalogue) : Prop where
  keys : (c.map Prod.fst).Nodup
  names : ∀ e ∈ c, e.1 ≠ [] ∧ e.1.IsTrimmed ∧ e.2.name = e.1
  zones : ∀ e ∈ c, e.2.IsDeclarable

theorem Catalogue.isDeclarable_nil : Catalogue.IsDeclarable [] where
  keys := List.nodup_nil
  names := by simp
  zones := by simp

namespace Declaration

/-! ## What is checked -/

section Checks

variable {a : Attributes} {domain : Text}

theorem isTrimmed_readName (a : Attributes) : (readName a).IsTrimmed := by
  rw [readName]
  split
  · exact isTrimmed_trim _
  · rfl

theorem isTime_of_readField {field : Field} {t : Text} (h : readField a domain field = .ok t)
    (hne : field ≠ .admin) : isTime t = true := by
  rw [readField] at h
  split at h
  · cases h
  · split at h
    · next hcheck =>
      obtain rfl := Except.ok.inj h
      simpa [hne] using hcheck
    · cases h
  · cases h

theorem isDeclarable_of_readZone {name : Text} {z : Zone} (h : readZone a name = .ok z) :
    z.name = name ∧ z.IsDeclarable := by
  obtain ⟨admin, -, h⟩ := bind_eq_ok_iff.mp h
  obtain ⟨ttl, httl, h⟩ := bind_eq_ok_iff.mp h
  obtain ⟨refresh, hrefresh, h⟩ := bind_eq_ok_iff.mp h
  obtain ⟨retry, hretry, h⟩ := bind_eq_ok_iff.mp h
  obtain ⟨expire, hexpire, h⟩ := bind_eq_ok_iff.mp h
  obtain ⟨negativeTtl, hnegative, h⟩ := bind_eq_ok_iff.mp h
  obtain rfl := Except.ok.inj h
  exact ⟨rfl, isTime_of_readField httl nofun, isTime_of_readField hrefresh nofun,
    isTime_of_readField hretry nofun, isTime_of_readField hexpire nofun,
    isTime_of_readField hnegative nofun, nofun⟩

theorem mem_published_of_readType {type : RecordType} (h : readType a domain = .ok type) :
    type ∈ RecordType.published := by
  rw [readType] at h
  split at h
  · cases h
  · split at h
    · next htoken =>
      obtain rfl := Except.ok.inj h
      exact (Element.ofToken?_eq_some_iff.mp htoken).1
    · cases h
  · cases h

theorem isTrimmed_of_readValue {type : RecordType} {value : Text}
    (h : readValue a domain type = .ok value) : value.IsTrimmed := by
  rw [readValue] at h
  split at h
  · obtain rfl := Except.ok.inj h
    exact isTrimmed_trim _
  · cases h

theorem isTime_of_readTtl {type : RecordType} {ttl : Text}
    (h : readTtl a domain type = .ok (some ttl)) : isTime ttl = true := by
  rw [readTtl] at h
  split at h
  · cases h
  · cases h
  · split at h
    · next htime =>
      obtain ⟨⟩ := h
      exact htime
    · cases h
  · cases h

theorem spec_of_readOwner {type : RecordType} {owner : Text}
    (h : readOwner a domain type = .ok (some owner)) : owner ≠ [] ∧ owner.IsTrimmed := by
  rw [readOwner] at h
  split at h
  · cases h
  · cases h
  · split at h
    · cases h
    · next hne =>
      obtain ⟨⟩ := h
      exact ⟨hne, isTrimmed_trim _⟩
  · cases h

/-- The data fields that a type admits are those that are read of some value without blanks around
it, in whatever domain. -/
theorem admits_iff {type : RecordType} {values : List Text} (domain : Text) :
    type.Admits values ↔ type ∈ RecordType.published ∧
      ∃ value preference, value.IsTrimmed ∧
        dataFields domain type value preference = .ok values := by
  simp only [Element.dataFields_eq_ok_iff]
  constructor
  · intro h
    cases h with
    | @ns host h => exact ⟨by decide, host, none, h, trivial, rfl⟩
    | @a address h => exact ⟨by decide, address, none, isTrimmed_of_isAddress h, h, rfl⟩
    | @cname host h => exact ⟨by decide, host, none, h, trivial, rfl⟩
    | @mx preference host hpreference hhost =>
      exact ⟨by decide, host, some preference, hhost, ⟨preference, rfl, hpreference⟩, rfl⟩
    | @spf criteria policy hcriteria hpolicy =>
      refine ⟨by decide, criteria, none, hcriteria, ⟨policy, hpolicy⟩, ?_⟩
      rw [Element.fieldsOf, hpolicy]
      rfl
    | @txt t h => exact ⟨by decide, t, none, h, trivial, rfl⟩
  · rintro ⟨htype, value, preference, htrimmed, hrule, rfl⟩
    cases type with
    | ns => exact .ns htrimmed
    | a => exact .a hrule
    | cname => exact .cname htrimmed
    | mx =>
      obtain ⟨p, rfl, hp⟩ := hrule
      exact .mx hp htrimmed
    | spf =>
      obtain ⟨policy, hpolicy⟩ := hrule
      rw [Element.fieldsOf, hpolicy]
      exact .spf htrimmed hpolicy
    | txt => exact .txt htrimmed
    | other token => simp [RecordType.published] at htype

theorem isDeclarable_of_readRecord {r : Record} (h : readRecord a domain = .ok r) :
    r.IsDeclarable := by
  obtain ⟨type, htype, h⟩ := bind_eq_ok_iff.mp h
  obtain ⟨value, hvalue, h⟩ := bind_eq_ok_iff.mp h
  obtain ⟨ttl, httl, h⟩ := bind_eq_ok_iff.mp h
  obtain ⟨owner, howner, h⟩ := bind_eq_ok_iff.mp h
  obtain ⟨preference, -, h⟩ := bind_eq_ok_iff.mp h
  obtain ⟨values, hvalues, h⟩ := bind_eq_ok_iff.mp h
  obtain rfl := Except.ok.inj h
  refine ⟨(admits_iff domain).mpr ⟨mem_published_of_readType htype, value, preference,
    isTrimmed_of_readValue hvalue, hvalues⟩, ?_, ?_⟩
  · rintro _ rfl
    exact spec_of_readOwner howner
  · rintro _ rfl
    exact isTime_of_readTtl httl

end Checks

/-! ## What calls keep -/

namespace Builder

variable {b b' : Builder}

theorem exists_of_mem_addRecords {zones : Catalogue} {domain : Text} {rs : List Record}
    {e : Text × Zone} (h : e ∈ addRecords zones domain rs) :
    ∃ z, (e.1, z) ∈ zones ∧ (e.2 = z ∨ e.2 = { z with records := z.records ++ rs }) := by
  obtain ⟨⟨key, z⟩, hmem, rfl⟩ := List.mem_map.mp h
  by_cases hkey : key = domain
  · exact ⟨z, by simpa [hkey] using hmem, .inr (by simp [hkey])⟩
  · exact ⟨z, by simpa [hkey] using hmem, .inl (by simp [hkey])⟩

/-- What is declared so far stays something that can be declared, whatever a call does. -/
theorem Step.isDeclarable (hstep : b.Step b') (h : b.zones.IsDeclarable) :
    b'.zones.IsDeclarable := by
  cases hstep with
  | kept => exact h
  | closed => exact h
  | @opened a z _ hname hnew hz =>
    obtain ⟨hsame, hzone⟩ := isDeclarable_of_readZone hz
    refine ⟨?_, List.forall_mem_append.mpr ⟨h.names, ?_⟩,
      List.forall_mem_append.mpr ⟨h.zones, ?_⟩⟩
    · rw [List.map_append, List.map_singleton, ← List.concat_eq_append]
      exact h.keys.concat hnew
    · exact List.forall_mem_singleton.mpr ⟨hname, isTrimmed_readName a, hsame⟩
    · exact List.forall_mem_singleton.mpr hzone
  | @recorded a domain r _ hr =>
    refine ⟨(map_fst_addRecords b.zones domain [r]).symm ▸ h.keys, fun e he => ?_, fun e he => ?_⟩
    · obtain ⟨z, hz, heq⟩ := exists_of_mem_addRecords he
      obtain ⟨hname, htrimmed, hsame⟩ := h.names _ hz
      refine ⟨hname, htrimmed, ?_⟩
      rcases heq with heq | heq <;> rw [heq] <;> exact hsame
    · obtain ⟨z, hz, heq⟩ := exists_of_mem_addRecords he
      have hzone := h.zones _ hz
      rcases heq with heq | heq
      · rwa [heq]
      · have hrecords : ∀ r' ∈ z.records ++ [r], r'.IsDeclarable :=
          List.forall_mem_append.mpr
            ⟨hzone.records, List.forall_mem_singleton.mpr (isDeclarable_of_readRecord hr)⟩
        rw [heq]
        exact { hzone with records := hrecords }

theorem isDeclarable_afterAll (calls : List Call) :
    (empty.afterAll calls).zones.IsDeclarable :=
  afterAll_induction (fun _ _ h hstep => hstep.isDeclarable h) Catalogue.isDeclarable_nil calls

end Builder

theorem Buildable.isDeclarable {zones : Catalogue} (h : Buildable zones) : zones.IsDeclarable := by
  obtain ⟨calls, hbuild⟩ := h
  have hzones := Builder.isDeclarable_afterAll calls
  rwa [Builder.build_eq_ok_iff.mp hbuild] at hzones

/-! ## Declaring a catalogue -/

/-- The attributes that declare a zone. -/
def zoneAttributes (z : Zone) : List (Text × Text) :=
  [("NAME".toList, z.name), ("ADMIN".toList, z.admin), ("TTL".toList, z.ttl),
    ("REFRESH".toList, z.refresh), ("RETRY".toList, z.retry), ("EXPIRE".toList, z.expire),
    ("NEGTTL".toList, z.negativeTtl)]

/-- The attributes that declare a record of a value and perhaps a preference. -/
def recordAttributes (r : Record) (value : Text) (preference : Option Text) : List (Text × Text) :=
  [("TYPE".toList, r.type.token), ("VALUE".toList, value)] ++
    r.ttl.toList.map (("TTL".toList, ·)) ++ r.owner.toList.map (("DOMAIN".toList, ·)) ++
    preference.toList.map (("PRIORITY".toList, ·))

theorem readField_eq_ok {a : Attributes} {domain t : Text} {field : Field}
    (h : a.get? field.attribute = some (.text t)) (hfield : field = .admin ∨ isTime t = true) :
    readField a domain field = .ok t := by
  have hcheck : (decide (field = .admin) || isTime t) = true := by simpa using hfield
  rw [readField, h]
  exact if_pos hcheck

theorem readZone_zoneAttributes {z : Zone} (h : z.IsDeclarable) :
    readZone (.ofTexts (zoneAttributes z)) z.name = .ok { z with records := [] } := by
  have hadmin : readField (.ofTexts (zoneAttributes z)) z.name .admin = .ok z.admin :=
    readField_eq_ok rfl (.inl rfl)
  have htime (field : Field) {t : Text}
      (hget : Attributes.get? (.ofTexts (zoneAttributes z)) field.attribute = some (.text t))
      (ht : isTime t = true) : readField (.ofTexts (zoneAttributes z)) z.name field = .ok t :=
    readField_eq_ok hget (.inr ht)
  rw [readZone, hadmin, htime .ttl rfl h.ttl, htime .refresh rfl h.refresh,
    htime .retry rfl h.retry, htime .expire rfl h.expire, htime .negttl rfl h.negativeTtl]
  rfl

/-- The attributes of a record as they are found by their names. -/
structure Attributes.Describe (a : Attributes) (r : Record) (value : Text)
    (preference : Option Text) : Prop where
  type : a.get? "TYPE".toList = some (.text r.type.token)
  value : a.get? "VALUE".toList = some (.text value)
  ttl : a.get? "TTL".toList = r.ttl.map .text
  owner : a.get? "DOMAIN".toList = r.owner.map .text
  preference : a.get? "PRIORITY".toList = preference.map .text

theorem describe_recordAttributes (r : Record) (value : Text) (preference : Option Text) :
    Attributes.Describe (.ofTexts (recordAttributes r value preference)) r value preference := by
  obtain ⟨type, values, owner, ttl⟩ := r
  cases ttl <;> cases owner <;> cases preference <;> exact ⟨rfl, rfl, rfl, rfl, rfl⟩

/-- A record that can be declared is read of attributes that describe it. -/
theorem Attributes.Describe.readRecord_eq_ok {a : Attributes} {r : Record} {domain value : Text}
    {preference : Option Text} (ha : a.Describe r value preference) (h : r.IsDeclarable)
    (hvalue : value.IsTrimmed) (hfields : dataFields domain r.type value preference = .ok r.values) :
    readRecord a domain = .ok r := by
  have hpublished := ((admits_iff domain).mp h.values).1
  have htype : readType a domain = .ok r.type := by
    rw [readType, ha.type]
    simp only [Element.ofToken?_eq_some_iff.mpr ⟨hpublished, rfl⟩]
  have hread : readValue a domain r.type = .ok value := by
    rw [readValue, ha.value]
    exact congrArg Except.ok hvalue
  have httl : readTtl a domain r.type = .ok r.ttl := by
    rw [readTtl, ha.ttl]
    cases hr : r.ttl with
    | none => rfl
    | some ttl => exact if_pos (h.ttl ttl hr)
  have howner : readOwner a domain r.type = .ok r.owner := by
    rw [readOwner, ha.owner]
    cases hr : r.owner with
    | none => rfl
    | some owner =>
      obtain ⟨hne, htrimmed⟩ := h.owner owner hr
      have htrim : trim owner = owner := htrimmed
      simp [htrim, hne]
  have hpreference : readPreference a domain r.type = .ok preference := by
    rw [readPreference, ha.preference]
    cases preference <;> rfl
  rw [readRecord, htype, ok_bind, hread, ok_bind, httl, ok_bind, howner, ok_bind, hpreference,
    ok_bind, hfields]
  rfl

/-- Every record that can be declared is declared by some attributes, in whatever domain. -/
theorem exists_readRecord_eq_ok {r : Record} (h : r.IsDeclarable) (domain : Text) :
    ∃ attributes, readRecord (.ofTexts attributes) domain = .ok r := by
  obtain ⟨-, value, preference, hvalue, hfields⟩ := (admits_iff domain).mp h.values
  exact ⟨recordAttributes r value preference,
    (describe_recordAttributes r value preference).readRecord_eq_ok h hvalue hfields⟩

namespace Builder

theorem after_start_of_ok {b b' : Builder} {tag : Text} {attributes : List (Text × Text)}
    {line : Option Nat} (h : b.start tag (.ofTexts attributes) line = .ok b') :
    b.after (.start tag attributes line) = b' := by
  rw [after, h]

/-- Records that can be declared are added to the open domain by some calls. -/
theorem exists_calls_addRecords {rs : List Record} (h : ∀ r ∈ rs, r.IsDeclarable)
    (zones : Catalogue) (domain : Text) :
    ∃ calls, afterAll ⟨zones, some domain⟩ calls = ⟨addRecords zones domain rs, some domain⟩ := by
  induction rs generalizing zones with
  | nil => exact ⟨[], by rw [addRecords_nil]; rfl⟩
  | cons r rs ih =>
    obtain ⟨hr, hrs⟩ := List.forall_mem_cons.mp h
    obtain ⟨attributes, hread⟩ := exists_readRecord_eq_ok hr domain
    obtain ⟨calls, hcalls⟩ := ih hrs (addRecords zones domain [r])
    have hstart : start ⟨zones, some domain⟩ recordTag (.ofTexts attributes) none =
        .ok ⟨addRecords zones domain [r], some domain⟩ := by
      rw [start, mapError_eq_ok_iff, if_neg (by decide), if_pos rfl, startRecord_eq_ok_iff]
      exact ⟨r, hread, rfl⟩
    refine ⟨.start recordTag attributes none :: calls, ?_⟩
    rw [addRecords_append] at hcalls
    rw [afterAll_cons, after_start_of_ok hstart]
    exact hcalls

/-- A zone that can be declared is added to the catalogue under a new name by some calls. -/
theorem exists_calls_zone {zones : Catalogue} {name : Text} {z : Zone} (h : z.IsDeclarable)
    (hname : name ≠ [] ∧ name.IsTrimmed ∧ z.name = name) (hnew : name ∉ zones.map Prod.fst) :
    ∃ calls, afterAll ⟨zones, none⟩ calls = ⟨zones ++ [(name, z)], none⟩ := by
  obtain ⟨hne, htrimmed, rfl⟩ := hname
  obtain ⟨calls, hcalls⟩ := exists_calls_addRecords h.records
    (zones ++ [(z.name, { z with records := [] })]) z.name
  rw [addRecords_concat hnew, List.nil_append] at hcalls
  have hstart : start ⟨zones, none⟩ domainTag (.ofTexts (zoneAttributes z)) none =
      .ok ⟨zones ++ [(z.name, { z with records := [] })], some z.name⟩ := by
    have hread : readName (.ofTexts (zoneAttributes z)) = z.name := htrimmed
    rw [start, mapError_eq_ok_iff, if_pos rfl, startDomain_eq_ok_iff, hread]
    exact ⟨hne, hnew, _, readZone_zoneAttributes h, rfl⟩
  refine ⟨.start domainTag (zoneAttributes z) none :: calls ++ [.finish domainTag], ?_⟩
  rw [List.cons_append, afterAll_cons, after_start_of_ok hstart, afterAll_append, hcalls]
  rfl

/-- The zones of a catalogue that can be declared are added one after another by some calls. -/
theorem exists_calls_catalogue (zones later : Catalogue) (h : (zones ++ later).IsDeclarable) :
    ∃ calls, afterAll ⟨zones, none⟩ calls = ⟨zones ++ later, none⟩ := by
  induction later generalizing zones with
  | nil => exact ⟨[], by rw [List.append_nil]; rfl⟩
  | cons e later ih =>
    have hmem : e ∈ zones ++ e :: later := List.mem_append_right _ List.mem_cons_self
    have hnew : e.1 ∉ zones.map Prod.fst := by
      have hkeys := h.keys
      rw [List.map_append, List.map_cons, List.nodup_middle, List.nodup_cons,
        List.mem_append, not_or] at hkeys
      exact hkeys.1.1
    obtain ⟨first, hfirst⟩ := exists_calls_zone (h.zones e hmem) (h.names e hmem) hnew
    have hsplit : zones ++ [e] ++ later = zones ++ e :: later := by simp
    obtain ⟨calls, hcalls⟩ := ih (zones ++ [e]) (hsplit ▸ h)
    refine ⟨first ++ calls, ?_⟩
    rw [afterAll_append, hfirst, hcalls, hsplit]

end Builder

theorem buildable_of_isDeclarable {zones : Catalogue} (h : zones.IsDeclarable) :
    Buildable zones := by
  obtain ⟨calls, hcalls⟩ := Builder.exists_calls_catalogue [] zones h
  exact ⟨calls, Builder.build_eq_ok_iff.mpr hcalls⟩

/-- The catalogues that calls to a new builder lead to, refused calls among them or not, are exactly
those that can be declared. -/
theorem buildable_iff_isDeclarable (zones : Catalogue) :
    Buildable zones ↔ zones.IsDeclarable :=
  ⟨Buildable.isDeclarable, buildable_of_isDeclarable⟩

end Declaration

end ZoneKeeper
