import ZoneKeeper.Proofs.MasterFile.Rendered

/-!
# Revising the literals of a zone

A zone whose file loads still has a file that loads after its times, the addresses of its hosts and
the preferences of its mail exchanges are replaced by others: by any preference, by addresses in
ASCII without leading zeros and by times in ASCII of at most 2³² - 1 seconds, or others that the
loader reads. So of what a declaration takes as literals, nothing else is refused, as long as the
fields of the zone are single tokens of the file.
-/

namespace ZoneKeeper

open Text MasterFile

/-! ## Revisions -/

/-- A time stays, or another one comes in its place, in ASCII and of at most 2³² - 1 seconds, or
readable anyway. -/
def RevisesTime (IsRead : Text → Prop) (t t' : Text) : Prop :=
  t' = t ∨ isTime t' = true ∧ (IsPlainTime t' ∨ IsRead t')

namespace Record

/-- What the data fields of a record of a type may become. -/
inductive RevisesValues (type : RecordType) : List Text → List Text → Prop where
  /-- All of them stay. -/
  | same {values : List Text} : RevisesValues type values values
  /-- A canonical address comes in place of the address. -/
  | address {old new : Text} {rest : List Text} (htype : type = .a)
      (hnew : isCanonicalAddress new = true) : RevisesValues type (old :: rest) (new :: rest)
  /-- Another preference comes in place of the preference. -/
  | preference {old new : Text} {rest : List Text} (htype : type = .mx)
      (hnew : isPreference new = true) : RevisesValues type (old :: rest) (new :: rest)

/-- A record stays but for its time to live and the literal among its data fields. -/
structure Revises (f : Fields) (r r' : Record) : Prop where
  type : r'.type = r.type
  owner : r'.owner = r.owner
  ttl : r'.ttl = r.ttl ∨
    ∃ ttl, r'.ttl = some ttl ∧ isTime ttl = true ∧ (IsPlainTime ttl ∨ f.IsTtl ttl)
  values : RevisesValues r.type r.values r'.values

end Record

/-- A zone stays but for its times and the literals of its records. -/
structure Zone.Revises (f : Fields) (z z' : Zone) : Prop where
  name : z'.name = z.name
  admin : z'.admin = z.admin
  ttl : RevisesTime f.IsTtl z.ttl z'.ttl
  refresh : RevisesTime f.IsTiming z.refresh z'.refresh
  retry : RevisesTime f.IsTiming z.retry z'.retry
  expire : RevisesTime f.IsTiming z.expire z'.expire
  negativeTtl : RevisesTime f.IsTiming z.negativeTtl z'.negativeTtl
  records : List.Forall₂ (Record.Revises f) z.records z'.records

section

variable {IsRead : Text → Prop} {t t' : Text}

theorem RevisesTime.isOneWord (h : RevisesTime IsRead t t') (ht : IsOneWord t) : IsOneWord t' := by
  rcases h with rfl | ⟨htime, -⟩
  · exact ht
  · exact (isVisibleWord_of_isTime htime).isOneWord

theorem RevisesTime.isRead (h : RevisesTime IsRead t t')
    (hplain : ∀ {t}, IsPlainTime t → IsRead t) (ht : IsRead t) : IsRead t' := by
  rcases h with rfl | ⟨-, hnew | hnew⟩
  · exact ht
  · exact hplain hnew
  · exact hnew

end

/-! ## Records that load alike -/

namespace MasterFile.Fields

/-- Whether a record loads wherever another one does, and adds the same. -/
structure LoadsLike (f : Fields) (e e' : ResourceRecord) : Prop where
  owner : e'.owner = e.owner
  kind : e'.kind = e.kind
  ttl : (∀ ttl, e.ttl = some ttl → f.IsTtl ttl) → ∀ ttl, e'.ttl = some ttl → f.IsTtl ttl
  data : ∀ apex, f.IsData e.kind apex e.data → f.IsData e.kind apex e'.data

variable {f : Fields} {apex : Name} {e e' : ResourceRecord} {entries entries' : List ResourceRecord}
  {sets sets' : List (Name × Kind)}

theorem LoadsLike.loads (h : f.LoadsLike e e') (he : f.Loads apex e sets sets') :
    f.Loads apex e' sets sets' := by
  cases he with
  | outside hdollar hname hout =>
    exact .outside (h.owner ▸ hdollar) (h.owner ▸ hname) hout
  | inside hdollar hname hin httl hdata hfits =>
    have hdata' := h.data apex hdata
    rw [← h.kind] at hfits hdata' ⊢
    exact .inside (h.owner ▸ hdollar) (h.owner ▸ hname) hin (h.ttl httl) hdata' hfits

theorem LoadsAll.alike (h : List.Forall₂ f.LoadsLike entries entries')
    (hentries : f.LoadsAll apex entries sets sets') : f.LoadsAll apex entries' sets sets' := by
  induction hentries generalizing entries' with
  | nil =>
    cases h
    exact .nil
  | cons he _ ih =>
    cases h with
    | cons h hrest => exact .cons (h.loads he) (ih hrest)

end MasterFile.Fields

namespace Record

variable {f : Fields} {load : Loader} {r r' : Record} {rs rs' : List Record} {e : ResourceRecord}
  {tokens : List Token} {entries : List ResourceRecord}

/-! ## Records -/

theorem Revises.ownerLabel (h : r.Revises f r') : r'.ownerLabel = r.ownerLabel := by
  rw [Record.ownerLabel, Record.ownerLabel, h.owner]

theorem Revises.firstValue (h : r.Revises f r') (htype : r.type = .ns) :
    r'.firstValue = r.firstValue := by
  obtain ⟨-, -, -, hvalues⟩ := h
  obtain ⟨type, values, owner, ttl⟩ := r
  obtain ⟨type', values', owner', ttl'⟩ := r'
  cases hvalues with
  | same => rfl
  | address ha _ => exact absurd (htype.symm.trans ha) (by decide)
  | preference hmx _ => exact absurd (htype.symm.trans hmx) (by decide)

theorem Revises.endsVisibly (h : r.Revises f r') (hr : ∀ value ∈ r.values, value.EndsVisibly) :
    ∀ value ∈ r'.values, value.EndsVisibly := by
  obtain ⟨-, -, -, hvalues⟩ := h
  obtain ⟨type, values, owner, ttl⟩ := r
  obtain ⟨type', values', owner', ttl'⟩ := r'
  cases hvalues with
  | same => exact hr
  | address _ hnew =>
    have hword := isVisibleWord_of_isAddress (isAddress_of_isCanonicalAddress hnew)
    exact List.forall_mem_cons.mpr ⟨hword.endsVisibly, (List.forall_mem_cons.mp hr).2⟩
  | preference _ hnew =>
    have hword := isVisibleWord_of_isPreference hnew
    exact List.forall_mem_cons.mpr ⟨hword.endsVisibly, (List.forall_mem_cons.mp hr).2⟩

/-- Revised data are tokens as well. -/
theorem Revises.exists_tokens (h : r.Revises f r') (hr : r.HasTokens tokens) :
    ∃ tokens', r'.HasTokens tokens' ∧ ∀ {load : Loader}, f.Describes load → f.TakesLiterals →
      ∀ apex, f.IsData r.type.kind apex tokens → f.IsData r.type.kind apex tokens' := by
  obtain ⟨htype, -, -, hvalues⟩ := h
  obtain ⟨type, values, owner, ttl⟩ := r
  obtain ⟨type', values', owner', ttl'⟩ := r'
  obtain rfl : type' = type := htype
  unfold HasTokens at hr ⊢
  cases hvalues with
  | same => exact ⟨tokens, hr, fun _ _ _ => id⟩
  | @address old new rest ha hnew =>
    cases ha
    have hword := isVisibleWord_of_isAddress (isAddress_of_isCanonicalAddress hnew)
    exact ⟨_, ⟨rfl, hword.isOneWord⟩, fun _ hf apex _ => hf.isData_address hnew apex⟩
  | @preference old new rest hmx hnew =>
    cases hmx
    match rest, hr with
    | [host], hr =>
      obtain ⟨rfl, -, hhost⟩ := hr
      have hword := (isVisibleWord_of_isPreference hnew).isOneWord
      exact ⟨_, ⟨rfl, hword, hhost⟩, fun hload hf _ hdata =>
        hload.exchange.mpr ⟨hf.isPreference hnew, (hload.exchange.mp hdata).2⟩⟩

theorem Revises.isTokenwise (h : r.Revises f r') (hr : r.IsTokenwise) : r'.IsTokenwise where
  owner := h.ownerLabel ▸ hr.owner
  ttl ttl httl := by
    rcases h.ttl with hsame | ⟨new, hnew, htime, -⟩
    · exact hr.ttl ttl (hsame.symm.trans httl)
    · obtain rfl := Option.some.inj (hnew.symm.trans httl)
      exact isTtlShaped_of_isTime htime
  data := by
    obtain ⟨tokens, htokens⟩ := hr.data
    obtain ⟨tokens', htokens', -⟩ := h.exists_tokens htokens
    exact ⟨tokens', htokens'⟩
  visible := h.endsVisibly hr.visible

section

variable (hload : f.Describes load) (hf : f.TakesLiterals)

include hload hf

/-- The row of a revised record loads like that of the record. -/
theorem Revises.exists_entry (h : r.Revises f r') (he : r.Gives e) :
    ∃ e', r'.Gives e' ∧ f.LoadsLike e e' := by
  obtain ⟨tokens, htokens, rfl⟩ := he
  obtain ⟨tokens', htokens', hdata⟩ := h.exists_tokens htokens
  refine ⟨_, ⟨tokens', htokens', rfl⟩, h.ownerLabel, congrArg RecordType.kind h.type, ?_,
    hdata hload hf⟩
  intro hold ttl httl
  rcases h.ttl with hsame | ⟨new, hnew, -, hreadable⟩
  · exact hold ttl (hsame.symm.trans httl)
  · obtain rfl := Option.some.inj (hnew.symm.trans httl)
    exact hreadable.elim hf.ttl id

theorem exists_entries_revised (h : List.Forall₂ (Revises f) rs rs')
    (hentries : List.Forall₂ Gives rs entries) :
    ∃ entries', List.Forall₂ Gives rs' entries' ∧ List.Forall₂ f.LoadsLike entries entries' := by
  induction h generalizing entries with
  | nil =>
    cases hentries
    exact ⟨[], .nil, .nil⟩
  | cons h _ ih =>
    cases hentries with
    | cons he hentries =>
      obtain ⟨e', he', hlike⟩ := h.exists_entry hload hf he
      obtain ⟨entries', hentries', halike⟩ := ih hentries
      exact ⟨e' :: entries', .cons he' hentries', .cons hlike halike⟩

end

end Record

namespace Zone

variable {f : Fields} {load : Loader} {z z' : Zone} {layout : Layout} {domain host text : Text}
  {serial : Option Text} {n : Nat}

/-! ## Zones -/

theorem Revises.mailbox (h : z.Revises f z') : z'.mailbox = z.mailbox := by
  rw [Zone.mailbox, Zone.mailbox, h.admin]

theorem Revises.recordsOf (h : z.Revises f z') (type : RecordType) :
    List.Forall₂ (Record.Revises f) (z.recordsOf type) (z'.recordsOf type) :=
  List.rel_filter (fun _ _ hr => by simp [hr.type]) h.records

theorem Revises.ordered (h : z.Revises f z') :
    List.Forall₂ (Record.Revises f) z.ordered z'.ordered := by
  rw [Zone.ordered, Zone.ordered, groups, groups, List.flatten_filter_ne_nil,
    List.flatten_filter_ne_nil]
  refine List.rel_flatten ?_
  rw [List.forall₂_map_left_iff, List.forall₂_map_right_iff, List.forall₂_same]
  exact fun type _ => h.recordsOf type

/-- The nameserver of the start of authority stays. -/
theorem Revises.primary (h : z.Revises f z') (hhost : z.primary = .ok host) :
    z'.primary = .ok host := by
  obtain ⟨r, rest, hns, hvalue⟩ := primary_eq_ok_iff.mp hhost
  have hmem : r ∈ z.recordsOf .ns := hns ▸ List.mem_cons_self
  have htype : r.type = .ns := of_decide_eq_true (List.mem_filter.mp hmem).2
  have hrecords := h.recordsOf .ns
  rw [hns] at hrecords
  obtain ⟨r', rest', hr, -, hns'⟩ := List.forall₂_cons_left_iff.mp hrecords
  exact primary_eq_ok_iff.mpr ⟨r', rest', hns', (hr.firstValue htype).trans hvalue⟩

theorem Revises.isTokenwise (h : z.Revises f z') (hz : z.IsTokenwise) : z'.IsTokenwise where
  mailbox := h.mailbox ▸ hz.mailbox
  ttl := h.ttl.isOneWord hz.ttl
  refresh := h.refresh.isOneWord hz.refresh
  retry := h.retry.isOneWord hz.retry
  expire := h.expire.isOneWord hz.expire
  negativeTtl := h.negativeTtl.isOneWord hz.negativeTtl
  records r' hr' := by
    obtain ⟨r, hr, hrevises⟩ := exists_of_mem_right h.ordered hr'
    exact hrevises.isTokenwise (hz.records r hr)

/-- The start of authority of a revised zone loads like that of the zone. One with all its timings
but no serial does not load. -/
theorem Revises.loadsLike_authority (h : z.Revises f z') (hload : f.Describes load)
    (hf : f.TakesLiterals) (host : Text) (serial : Option Text) :
    f.LoadsLike (z.authority host serial) (z'.authority host serial) := by
  refine ⟨rfl, rfl, id, fun apex hdata => ?_⟩
  obtain ⟨hhosts, number, timings, htokens, hlength, hnumber, htimings⟩ :=
    (hload.authority List.getLast?_concat).mp hdata
  have hfields : z.authorityFields serial = number :: timings :=
    List.map_injective_iff.mpr (fun _ _ => Token.word.inj) htokens
  cases serial with
  | none =>
    obtain rfl : [z.retry, z.expire, z.negativeTtl] = timings := (List.cons.inj hfields).2
    cases hlength
  | some s =>
    obtain rfl : s = number := (List.cons.inj hfields).1
    obtain rfl : [z.refresh, z.retry, z.expire, z.negativeTtl] = timings :=
      (List.cons.inj hfields).2
    simp only [List.forall_mem_cons] at htimings
    obtain ⟨hrefresh, hretry, hexpire, hnegative, hnil⟩ := htimings
    refine (hload.authority List.getLast?_concat).mpr ⟨h.mailbox ▸ hhosts, s,
      [z'.refresh, z'.retry, z'.expire, z'.negativeTtl], rfl, rfl, hnumber, ?_⟩
    simp only [List.forall_mem_cons]
    exact ⟨h.refresh.isRead hf.timing hrefresh, h.retry.isRead hf.timing hretry,
      h.expire.isRead hf.timing hexpire, h.negativeTtl.isRead hf.timing hnegative, hnil⟩

/-- A zone whose fields are single tokens and whose file loads has, after a revision, a file that
loads and defines as many record sets. -/
theorem checkLoads_revised (hload : f.Describes load) (hf : f.TakesLiterals) (hz : z.IsTokenwise)
    (hserial : ∀ s, serial = some s → IsOneWord s) (h : z.Revises f z')
    (hrender : z.render layout serial = .ok text)
    (hcheck : (checkLoads domain text load).outcome = .ok n) :
    ∃ text', z'.render layout serial = .ok text' ∧
      (checkLoads domain text' load).outcome = .ok n := by
  obtain ⟨host, hhost, hfile⟩ := hz.exists_file hserial hrender
  obtain ⟨-, -, rfl, -, -⟩ := render_eq_ok_iff.mp hrender
  have hz' := h.isTokenwise hz
  obtain ⟨groups', hgroups'⟩ := exists_recordLines hz'.records
  have hrender' : z'.render .standard serial = .ok _ :=
    render_eq_ok_iff.mpr ⟨host, groups', rfl, h.primary hhost, hgroups', rfl⟩
  obtain ⟨host', hhost', hfile'⟩ := hz'.exists_file hserial hrender'
  obtain rfl := Except.ok.inj ((h.primary hhost).symm.trans hhost')
  obtain ⟨entries, hentries⟩ := Record.exists_entries hz.records
  obtain ⟨entries', hentries', halike⟩ :=
    Record.exists_entries_revised hload hf h.ordered hentries
  rw [outcome_checkLoads, hload.load_iff (hfile entries hentries)] at hcheck
  obtain ⟨httl, apex, sets, hzone, hloads, rfl⟩ := hcheck
  refine ⟨_, hrender', ?_⟩
  rw [outcome_checkLoads, hload.load_iff (hfile' entries' hentries')]
  exact ⟨h.ttl.isRead hf.ttl httl, apex, sets, hzone,
    hloads.alike (.cons (h.loadsLike_authority hload hf host serial) halike), rfl⟩

/-! ## Fixed zones -/

/-- How many record sets the file of a zone defines, if it has a file and the check reads it. -/
def loaded? (z : Zone) (serial : Text) : Option Nat :=
  (z.render .standard (some serial)).toOption.bind fun text =>
    (checkLoads z.name text MasterFile.check).outcome.toOption

theorem loaded?_eq_some_iff {serial : Text} : z.loaded? serial = some n ↔
    ∃ text, z.render .standard (some serial) = .ok text ∧
      (checkLoads z.name text MasterFile.check).outcome = .ok n := by
  simp only [loaded?, Option.bind_eq_some_iff, toOption_eq_some_iff]

/-- The records of the fixed zone with another address, another preference and another time to
live. -/
def revisedRecords : List Record :=
  [⟨.a, ["255.255.255.255".toList], some "www".toList, some "1٠h".toList⟩,
   ⟨.cname, ["www".toList], some "*.ftp".toList, none⟩,
   ⟨.mx, ["9٩٩".toList, "mail.e.".toList], none, none⟩,
   ⟨.spf, ["\"v=spf1 -all\"".toList], none, none⟩,
   ⟨.txt, ["\"a; b (c)\"".toList], some "@".toList, none⟩,
   ⟨.a, ["10.0.0.2".toList], some "www.f.".toList, none⟩,
   ⟨.other "LOC".toList, [], none, none⟩]

theorem checkLoads_revised_sample : ∃ text,
    { sample revisedRecords with ttl := "4294967295".toList }.render .standard
      (some "2024010100".toList) = .ok text ∧
        (checkLoads "e".toList text MasterFile.check).outcome = .ok 6 := by
  have hloaded : (sample plainRecords).loaded? "2024010100".toList = some 6 := by decide +kernel
  obtain ⟨text, hrender, hcheck⟩ := loaded?_eq_some_iff.mp hloaded
  have hstays {r : Record} : r.Revises checkFields r := ⟨rfl, rfl, .inl rfl, .same⟩
  refine checkLoads_revised describes_check takesLiterals_check isPlain_plainRecords.isTokenwise
    (by decide) ?_ hrender hcheck
  refine ⟨rfl, rfl, .inr ⟨by decide, .inr ⟨4294967295, by decide⟩⟩, .inl rfl, .inl rfl, .inl rfl,
    .inl rfl, ?_⟩
  exact .cons hstays <|
    .cons ⟨rfl, rfl, .inr ⟨_, rfl, by decide, .inr ⟨36000, by decide⟩⟩, .address rfl (by decide)⟩ <|
    .cons hstays <| .cons ⟨rfl, rfl, .inl rfl, .preference rfl (by decide)⟩ <|
    .cons hstays <| .cons hstays <| .cons hstays <| .cons hstays .nil

/-- Literals that are refused in place of others: times that do not fit into 32 bits, and addresses
with leading zeros or with digits that are not ASCII. Where fields are not single tokens others are
refused as well: behind an owner that goes on with `MX` a time to live is read as a preference, and
in place of a type a time to live leaves its record without the data that it had. -/
theorem checkLoads_revised_refused :
    let loads (z : Zone) : Bool := (z.loaded? "2024010100".toList).isSome
    let address (value : Text) := sample [⟨.a, [value], none, none⟩]
    let split (ttl : Text) := sample [⟨.ns, [";n".toList], some "x MX".toList, some ttl⟩]
    let typed (ttl : Text) := sample [⟨.a, ["foo".toList], some "x".toList, some ttl⟩]
    (isTime "9999999999".toList ∧ loads (sample []) ∧
      ¬ loads { sample [] with ttl := "9999999999".toList } ∧
      ¬ loads { sample [] with refresh := "9999999999".toList }) ∧
    (isAddress "010.0.0.1".toList ∧ isAddress "1٠.0.0.1".toList ∧
      loads (address "10.0.0.1".toList) ∧ ¬ loads (address "010.0.0.1".toList) ∧
      ¬ loads (address "1٠.0.0.1".toList)) ∧
    (isTime "70000".toList ∧ loads (split "10".toList) ∧ ¬ loads (split "70000".toList)) ∧
    (isTime "10".toList ∧ loads (typed "TXT".toList) ∧ ¬ loads (typed "10".toList)) := by
  decide +kernel

end Zone

end ZoneKeeper
