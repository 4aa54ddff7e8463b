import ZoneKeeper.Proofs.Plan.Call

/-!
# Synchronizing converges

Once the zones of a catalogue are synchronized, the file of every domain reads as its zone, so
whatever is planned for the same catalogue afterwards, on whatever day, changes nothing. This needs
that no two domains share a file: of two zones for one file only the last one is in it.
-/

namespace ZoneKeeper.Target

open Text

variable {t : Target} {files : FileTree} {today : Day} {zones : Catalogue} {plan : Plan}

/-! ## After synchronizing -/

/-- Writing all staged zones leaves the file of every domain reading as its zone, with the serial
that was staged if it was. -/
theorem Planned.read_apply (h : Planned t files today zones plan) (hday : today.IsDate)
    (hserves : t.Serves zones) (hapart : t.KeepsApart files zones)
    (hall : (writeAll files plan.staged).fault = none) {domain : Text} {z : Zone}
    (hmem : (domain, z) ∈ zones) :
    ∃ snapshot, (Snapshot.read (writeAll files plan.staged).files (t.pathOf domain)).outcome =
        .ok (some snapshot) ∧
      z.render t.layout none = .ok snapshot.body ∧
      ∀ s ∈ plan.staged, s.domain = domain →
        s.serial = snapshot.mark.stamp ++ twoDigits snapshot.mark.version := by
  have hwritten : (writeAll files plan.staged).written = plan.staged :=
    fault_writeAll_eq_none_iff.mp hall
  have hpairs := h.pairwise_apart hserves hapart
  rcases h.decided hmem with hd | ⟨s, hs, hd⟩
  · -- The file is as before, since only files of other domains are written.
    obtain ⟨snapshot, hsnapshot, hbody⟩ := decide_eq_unchanged_iff.mp hd
    have hother : ∀ s ∈ plan.staged, s.domain ≠ domain := by
      rintro s hs rfl
      have := h.decide_of_mem_staged hserves.keys hs hmem
      simp [hd] at this
    have hleft : ∀ s ∈ (writeAll files plan.staged).written,
        files.Apart s.path (t.pathOf domain) := by
      rw [hwritten]
      intro s hs
      obtain ⟨z', hz', hd'⟩ := h.exists_of_mem_staged hs
      have hab := hserves.apart hapart hz' hmem (hother s hs)
      rwa [(decide_staged hd').2]
    have hsnapshot' :=
      (Snapshot.read_eq_some_congr fun _ => read_writeAll_of_apart hleft).mpr hsnapshot
    exact ⟨snapshot, hsnapshot', hbody, fun s hs hdomain => absurd hdomain (hother s hs)⟩
  · -- The file is what was staged for it.
    obtain ⟨existing, body, -, -, hserial, hbody, hcut⟩ :=
      decide_staged_spec hday (hserves.opens _ hmem) hd
    obtain ⟨rfl, hpath⟩ := decide_staged hd
    have hread := read_writeAll_of_mem hpairs (hwritten ▸ hs)
    rw [hpath] at hread
    refine ⟨_, Snapshot.read_eq_some_iff.mpr
      ⟨_, s.text, _, hread, Utf8.decode_encode _, hcut, rfl⟩, hbody, fun s' hs' hdomain => ?_⟩
    have hd' := h.decide_of_mem_staged hserves.keys hs' (hdomain ▸ hmem)
    rw [hdomain, hd] at hd'
    cases hd'
    exact hserial

/-- If the files of all domains read as their zones, then the plan is to leave everything as it is,
and synchronizing does so. -/
theorem synchronize_of_reads {after : FileTree}
    (h : ∀ domain z, (domain, z) ∈ zones → ∃ snapshot,
      (Snapshot.read after (t.pathOf domain)).outcome = .ok (some snapshot) ∧
        z.render t.layout none = .ok snapshot.body) (day : Day) :
    (t.plan after day zones).outcome = .ok ⟨[], zones.map Prod.fst⟩ ∧
      (t.synchronize after day zones).outcome = .ok ⟨[], zones.map Prod.fst⟩ ∧
      (t.synchronize after day zones).files = after := by
  have hplan : (t.plan after day zones).outcome = .ok ⟨[], zones.map Prod.fst⟩ :=
    plan_eq_ok_iff.mpr (planned_of_unchanged fun e he => decide_eq_unchanged_iff.mpr (h e.1 e.2 he))
  refine ⟨hplan, synchronize_eq_ok_iff.mpr ⟨hplan, rfl⟩, ?_⟩
  rw [files_synchronize hplan]
  rfl

/-- Synchronizing converges. If it succeeds, the file of every domain reads as its zone, with the
serial that was staged if it was; and planning and synchronizing the same catalogue again, on any
day and with or without a check, stages nothing, finds every domain unchanged and leaves all files
as they are. -/
theorem synchronize_converges (hday : today.IsDate) (hserves : t.Serves zones)
    (hapart : t.KeepsApart files zones)
    (h : (t.synchronize files today zones).outcome = .ok plan) :
    (∀ domain z, (domain, z) ∈ zones → ∃ snapshot,
      (Snapshot.read (t.synchronize files today zones).files (t.pathOf domain)).outcome =
          .ok (some snapshot) ∧
        z.render t.layout none = .ok snapshot.body ∧
        ∀ s ∈ plan.staged, s.domain = domain →
          s.serial = snapshot.mark.stamp ++ twoDigits snapshot.mark.version) ∧
    ∀ (day : Day) (isChecked : Bool),
      let again : Target := { t with isChecked := isChecked }
      (again.plan (t.synchronize files today zones).files day zones).outcome =
          .ok ⟨[], zones.map Prod.fst⟩ ∧
        (again.synchronize (t.synchronize files today zones).files day zones).outcome =
          .ok ⟨[], zones.map Prod.fst⟩ ∧
        (again.synchronize (t.synchronize files today zones).files day zones).files =
          (t.synchronize files today zones).files := by
  obtain ⟨hplan, hall⟩ := synchronize_eq_ok_iff.mp h
  rw [files_synchronize hplan]
  have hread : ∀ domain z, (domain, z) ∈ zones → _ := fun domain z hmem =>
    (plan_eq_ok_iff.mp hplan).read_apply hday hserves hapart hall hmem
  refine ⟨hread, ?_⟩
  intro day isChecked again
  refine synchronize_of_reads (t := again) (fun domain z hmem => ?_) day
  obtain ⟨snapshot, hsnapshot, hbody, -⟩ := hread domain z hmem
  exact ⟨snapshot, hsnapshot, hbody⟩

/-- A zone with a nameserver and one with a text as well, under two domains. -/
def sampleZones (first second : Text) : Catalogue :=
  [(first, Zone.sample []), (second, Zone.sample [⟨.txt, ["x".toList], none, none⟩])]

theorem serves_sampleZones {t : Target} {first second : Text} (hne : first ≠ second)
    (hfirst : t.NamesFile first) (hsecond : t.NamesFile second) :
    t.Serves (sampleZones first second) where
  keys := by simp [sampleZones, hne]
  names e he := by
    rcases List.mem_cons.mp he with rfl | he
    · exact hfirst
    · obtain rfl := List.mem_singleton.mp he
      exact hsecond
  opens e he := by
    rcases List.mem_cons.mp he with rfl | he
    · exact Zone.opensOnLines_sample _
    · obtain rfl := List.mem_singleton.mp he
      exact Zone.opensOnLines_sample _

/-- One zone has a file of another day that reads otherwise and the other has none; after
synchronizing both are unchanged, even for a check on a day before. -/
theorem synchronize_converges_sample :
    ((sample true).plan ((sample false).synchronize
        (sampleFiles [("db.e".toList, "\n\t2026101899\t; Serial\n".toList)])
        ⟨2026, 10, 19⟩ (sampleZones "e".toList "f".toList)).files
      ⟨2026, 10, 18⟩ (sampleZones "e".toList "f".toList)).outcome =
        .ok ⟨[], ["e".toList, "f".toList]⟩ := by
  have hok : ((sample false).synchronize
      (sampleFiles [("db.e".toList, "\n\t2026101899\t; Serial\n".toList)])
      ⟨2026, 10, 19⟩ (sampleZones "e".toList "f".toList)).outcome.isOk = true := by
    decide +kernel
  obtain ⟨plan, hplan⟩ := exists_eq_ok_of_isOk hok
  have hserves : (sample false).Serves (sampleZones "e".toList "f".toList) :=
    serves_sampleZones (by decide) (by decide) (by decide)
  exact ((synchronize_converges Day.isDate_sample hserves (.inl (by decide +kernel)) hplan).2
    ⟨2026, 10, 18⟩ true).1

/-- Two domains that share a file, as the target is no folder, are never both unchanged: the zone
that is written last is in the file, so the other one is staged again. -/
theorem synchronize_diverges_sample :
    let t : Target := ⟨Path.ofText "zones/new".toList, [], .standard, false, MasterFile.check⟩
    let after := (t.synchronize (sampleFiles []) ⟨2026, 10, 19⟩ (sampleZones [] ['.'])).files
    Day.IsDate ⟨2026, 10, 19⟩ ∧ t.Serves (sampleZones [] ['.']) ∧
      (t.synchronize (sampleFiles []) ⟨2026, 10, 19⟩ (sampleZones [] ['.'])).outcome.isOk = true ∧
      (t.plan after ⟨2026, 10, 19⟩ (sampleZones [] ['.'])).outcome.map (·.unchanged) =
        .ok [['.']] := by
  refine ⟨Day.isDate_sample, serves_sampleZones (by decide) (by decide) (by decide), ?_, ?_⟩
  · decide +kernel
  · decide +kernel

end ZoneKeeper.Target
