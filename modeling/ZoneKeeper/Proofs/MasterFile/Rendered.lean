import Mathlib.Data.List.Dedup
import ZoneKeeper.Plan.Basic
import ZoneKeeper.Proofs.MasterFile.Conformance
import ZoneKeeper.Proofs.MasterFile.Entry

/-!
# Plain zones load

The file of a zone whose fields are plain is loaded by every loader that takes plain fields, and
defines what the zone declares: the start of authority, and the owner and kind of every record with
an owner in the zone.
-/

namespace ZoneKeeper

open Text MasterFile

theorem RecordType.kind_eq_cname_iff {type : RecordType} : type.kind = .cname ↔ type = .cname := by
  cases type <;> simp [kind]

/-- A text is checked by loading it. -/
theorem outcome_checkLoads (domain text : Text) (load : Loader) :
    (checkLoads domain text load).outcome = load domain text := by
  rw [checkLoads, Journaled.outcome_bind, Journaled.outcome_ofExcept]
  cases load domain text <;> rfl

namespace Zone

/-- The name of a zone, which completes the names in its file. -/
def apex (z : Zone) : Name := (Name.ofParts z.name).complete (some .root)

/-- The record sets that a zone declares: its start of authority, and those of its published records
with an owner in the zone. -/
def recordSets (z : Zone) : List (Name × Kind) :=
  (z.apex.folded, .soa) :: z.ordered.flatMap (Record.recordSets z.apex)

/-- A zone with a nameserver and plain fields in which an alias has nothing beside it. -/
structure IsPlain (z : Zone) : Prop where
  name : IsNameText .root z.name
  mailbox : IsNameText z.apex (z.mailbox ++ ['.'])
  ttl : IsPlainTime z.ttl
  refresh : IsPlainTime z.refresh
  retry : IsPlainTime z.retry
  expire : IsPlainTime z.expire
  negativeTtl : IsPlainTime z.negativeTtl
  records : ∀ r ∈ z.ordered, r.IsPlain z.apex
  nameserver : ∃ r ∈ z.records, r.type = .ns
  aliases : ∀ r ∈ z.ordered, r.type = .cname → (r.ownerName z.apex).isIn z.apex = true →
    (r.ownerName z.apex).folded ≠ z.apex.folded ∧
      ∀ r' ∈ z.ordered, (r'.ownerName z.apex).folded = (r.ownerName z.apex).folded →
        r'.type = .cname

variable {z : Zone} {f : Fields} {load : Loader} {host serial : Text}

theorem IsPlain.isOrigin (h : z.IsPlain) : IsOrigin z.apex := h.name.isOrigin isOrigin_root

theorem mem_recordSets {p : Name × Kind} : p ∈ z.recordSets ↔ p = (z.apex.folded, .soa) ∨
    ∃ r ∈ z.ordered, (r.ownerName z.apex).isIn z.apex = true ∧
      p = ((r.ownerName z.apex).folded, r.type.kind) := by
  rw [recordSets, List.mem_cons, List.mem_flatMap]
  simp only [Record.mem_recordSets]

theorem IsPlain.compatible (h : z.IsPlain) : Compatible z.recordSets := by
  intro p hp q hq howner hcname
  rcases mem_recordSets.mp hp with rfl | ⟨r, hr, hin, rfl⟩
  · cases hcname
  · obtain ⟨hapex, halone⟩ := h.aliases r hr (RecordType.kind_eq_cname_iff.mp hcname) hin
    rcases mem_recordSets.mp hq with rfl | ⟨r', hr', -, rfl⟩
    · exact absurd howner hapex
    · exact RecordType.kind_eq_cname_iff.mpr (halone r' hr' howner.symm)

theorem IsPlain.isTokenwise (h : z.IsPlain) : z.IsTokenwise where
  mailbox := h.mailbox.isPlainWord.isOneWord
  ttl := h.ttl.isPlainWord.isOneWord
  refresh := h.refresh.isPlainWord.isOneWord
  retry := h.retry.isPlainWord.isOneWord
  expire := h.expire.isPlainWord.isOneWord
  negativeTtl := h.negativeTtl.isPlainWord.isOneWord
  records r hr := (h.records r hr).isTokenwise

theorem IsPlain.exists_host (h : z.IsPlain) :
    ∃ host, z.primary = .ok host ∧ IsNameText z.apex host := by
  obtain ⟨r, hr, host, htype, hvalues, hprimary⟩ :=
    exists_primary (fun r hr => (h.records r hr).data.hasData) h.nameserver
  have hname := (h.records r hr).data
  rw [Record.HasPlainData, htype, hvalues] at hname
  exact ⟨host, hprimary, hname⟩

/-! ## Loading -/

/-- The start of authority of a plain zone loads first, and then its record set is there. -/
theorem IsPlain.loads_authority (h : z.IsPlain) (hload : f.Describes load) (hf : f.TakesPlain)
    (hhost : IsNameText z.apex host) (hserial : IsPlainSerial serial) :
    f.Loads z.apex (z.authority host (some serial)) [] [(z.apex.folded, .soa)] := by
  have hat : f.name z.apex ['@'] = some z.apex := hload.name_at (hf.zone h.name)
  have hin : z.apex.isIn z.apex = true := by simp [Name.isIn]
  have htimings : ∀ timing ∈ [z.refresh, z.retry, z.expire, z.negativeTtl], f.IsTiming timing := by
    simp [hf.timing h.refresh, hf.timing h.retry, hf.timing h.expire, hf.timing h.negativeTtl]
  have hdata : f.IsData .soa z.apex (z.authority host (some serial)).data :=
    (hload.authority List.getLast?_concat).mpr ⟨hf.hosts h.isOrigin hhost h.mailbox,
      serial, _, rfl, rfl, hf.serial hserial, htimings⟩
  exact .inside (by simp [authority]) hat hin nofun hdata ⟨fun _ => rfl, nofun⟩

/-- The file of a plain zone loads, and defines exactly the record sets that the zone declares. -/
theorem checkLoads_render (hload : f.Describes load) (hf : f.TakesPlain) (hz : z.IsPlain)
    (hserial : IsPlainSerial serial) :
    ∃ text, z.render .standard (some serial) = .ok text ∧
      (checkLoads z.name text load).outcome = .ok z.recordSets.dedup.length := by
  obtain ⟨host, hhost, hname⟩ := hz.exists_host
  obtain ⟨groups, hgroups⟩ := exists_recordLines hz.isTokenwise.records
  have hrender : z.render .standard (some serial) = .ok _ :=
    render_eq_ok_iff.mpr ⟨host, groups, rfl, hhost, hgroups, rfl⟩
  have hword : ∀ s, some serial = some s → IsOneWord s := by
    rintro _ ⟨⟩
    exact (IsPlainWord.of_digits hserial.1 hserial.2.1).isOneWord
  obtain ⟨host', hhost', hfile⟩ := hz.isTokenwise.exists_file hword hrender
  obtain rfl := Except.ok.inj (hhost.symm.trans hhost')
  have hzone : f.zone z.name = some z.apex := hf.zone hz.name
  -- The start of authority is the first record set; the induction goes over the records behind it.
  obtain ⟨entries, sets, hentries, hloads, hnodup, hmem⟩ :=
    Record.exists_loadsAll hload hf hz.isOrigin (hload.name_at hzone) hz.records
      (List.nodup_singleton (z.apex.folded, Kind.soa)) (fun _ => Iff.rfl) hz.compatible
  have hlength : sets.length = z.recordSets.dedup.length := by
    refine List.Perm.length_eq ((List.perm_ext_iff_of_nodup hnodup (List.nodup_dedup _)).mpr ?_)
    intro p
    rw [hmem, List.mem_dedup]
    rfl
  refine ⟨_, hrender, ?_⟩
  rw [outcome_checkLoads, ← hlength]
  exact (hload.load_iff (hfile entries hentries)).mpr ⟨hf.ttl hz.ttl, z.apex, sets, hzone,
    .cons (hz.loads_authority hload hf hname hserial) hloads, rfl⟩

/-! ## A fixed zone -/

/-- Records of every published type, one with an owner outside the zone, and an unpublished one. -/
def plainRecords : List Record :=
  [⟨.a, ["10.0.0.1".toList], some "www".toList, some "5m".toList⟩,
   ⟨.cname, ["www".toList], some "*.ftp".toList, none⟩,
   ⟨.mx, ["10".toList, "mail.e.".toList], none, none⟩,
   ⟨.spf, ["\"v=spf1 -all\"".toList], none, none⟩,
   ⟨.txt, ["\"a; b (c)\"".toList], some "@".toList, none⟩,
   ⟨.a, ["10.0.0.2".toList], some "www.f.".toList, none⟩,
   ⟨.other "LOC".toList, [], none, none⟩]

theorem ordered_plainRecords : (sample plainRecords).ordered =
    [⟨.ns, ["n".toList], none, none⟩,
     ⟨.a, ["10.0.0.1".toList], some "www".toList, some "5m".toList⟩,
     ⟨.a, ["10.0.0.2".toList], some "www.f.".toList, none⟩,
     ⟨.cname, ["www".toList], some "*.ftp".toList, none⟩,
     ⟨.mx, ["10".toList, "mail.e.".toList], none, none⟩,
     ⟨.spf, ["\"v=spf1 -all\"".toList], none, none⟩,
     ⟨.txt, ["\"a; b (c)\"".toList], some "@".toList, none⟩] := by
  decide +kernel

theorem isPlain_plainRecords : (sample plainRecords).IsPlain where
  name := by decide
  mailbox := by decide
  ttl := ⟨86400, ⟨by decide, ['1'], ['d'], 1, 86400, rfl, by decide, by decide, by decide, rfl⟩,
    by decide⟩
  refresh := ⟨10800, ⟨by decide, ['3'], ['h'], 3, 3600, rfl, by decide, by decide, by decide, rfl⟩,
    by decide⟩
  retry := ⟨3600, ⟨by decide, ['1'], ['h'], 1, 3600, rfl, by decide, by decide, by decide, rfl⟩,
    by decide⟩
  expire := ⟨604800, ⟨by decide, ['1'], ['w'], 1, 604800, rfl, by decide, by decide, by decide,
    rfl⟩, by decide⟩
  negativeTtl := ⟨3600, ⟨by decide, ['1'], ['h'], 1, 3600, rfl, by decide, by decide, by decide,
    rfl⟩, by decide⟩
  records r hr := by
    rw [ordered_plainRecords] at hr
    simp only [List.mem_cons, List.not_mem_nil, or_false] at hr
    rcases hr with rfl | rfl | rfl | rfl | rfl | rfl | rfl
    · exact ⟨by decide, nofun, (by decide : IsNameText _ ['n'])⟩
    · refine ⟨by decide, ?_, 10, 0, 0, 1, by decide, by decide, by decide, by decide, by decide⟩
      rintro _ ⟨⟩
      exact ⟨300, ⟨by decide, ['5'], ['m'], 5, 60, rfl, by decide, by decide, by decide, rfl⟩,
        by decide⟩
    · exact ⟨by decide, nofun, 10, 0, 0, 2, by decide, by decide, by decide, by decide, by decide⟩
    · exact ⟨by decide, nofun, (by decide : IsNameText _ ['w', 'w', 'w'])⟩
    · exact ⟨by decide, nofun, (by decide : IsPlainPreference ['1', '0']),
        (by decide : IsNameText _ ['m', 'a', 'i', 'l', '.', 'e', '.'])⟩
    · exact ⟨by decide, nofun, "v=spf1 -all".toList, by decide, by decide, by decide⟩
    · exact ⟨by decide, nofun, "a; b (c)".toList, by decide, by decide, by decide⟩
  nameserver := ⟨_, List.mem_cons_self, rfl⟩
  aliases := by
    rw [ordered_plainRecords]
    decide +kernel

/-- The check loads a plain zone of seven published records, one of them outside the zone. -/
theorem checkLoads_render_sample : ∃ text,
    (sample plainRecords).render .standard (some "2024010100".toList) = .ok text ∧
      (checkLoads "e".toList text MasterFile.check).outcome = .ok 6 := by
  have hsets : (sample plainRecords).recordSets.dedup.length = 6 := by decide +kernel
  rw [← hsets]
  exact checkLoads_render describes_check takesPlain_check isPlain_plainRecords
    ⟨by decide, by decide, 2024010100, by decide, by decide⟩

end Zone

end ZoneKeeper
