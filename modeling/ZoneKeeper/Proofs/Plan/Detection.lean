import ZoneKeeper.Proofs.Plan.Planned
import ZoneKeeper.Proofs.Text.Utf8
import ZoneKeeper.Proofs.Zone.Lines

/-!
# Which files are taken for unchanged

A file is left as it is exactly if it is its zone without a serial with one serial line put in,
wherever that line stands and whatever serial it carries. Every other file is written again or
refused: refused if it has no serial line, or if the first one carries the last serial of the day.
-/

namespace ZoneKeeper.Target

open Text

variable {t : Target} {files : FileTree} {today : Day} {domain : Text} {z : Zone}
  {bytes : List UInt8} {body text : Text}

/-! ## The plan for one domain -/

/-- The plan for one domain is what is decided for it. -/
theorem outcome_plan_singleton (t : Target) (files : FileTree) (today : Day) (domain : Text)
    (z : Zone) :
    (t.plan files today [(domain, z)]).outcome = (t.decide files today domain z).outcome.map fun
      | .unchanged => ⟨[], [domain]⟩
      | .staged s => ⟨[s], []⟩ := by
  rw [outcome_plan_cons]
  cases (t.decide files today domain z).outcome with
  | error why => rfl
  | ok decision => cases decision <;> rfl

theorem plan_singleton_eq_unchanged_iff :
    (t.plan files today [(domain, z)]).outcome = .ok ⟨[], [domain]⟩ ↔
      (t.decide files today domain z).outcome = .ok .unchanged := by
  rw [outcome_plan_singleton]
  cases (t.decide files today domain z).outcome with
  | error why => simp [Except.map]
  | ok decision => cases decision <;> simp [Except.map]

/-! ## What is decided for a file of text -/

/-- A file of text is unchanged exactly if cutting its first serial line out leaves the zone. -/
theorem decide_eq_unchanged_iff_cut (hbody : z.render t.layout none = .ok body)
    (hread : files.read (t.pathOf domain) = .ok bytes) (htext : Utf8.decode bytes = .ok text) :
    (t.decide files today domain z).outcome = .ok .unchanged ↔
      ∃ mark, Serial.cut? text = some ⟨body, mark⟩ := by
  rw [decide_eq_unchanged_iff]
  constructor
  · rintro ⟨snapshot, hsnapshot, hbody'⟩
    obtain ⟨bytes', text', cut, hread', htext', hcut, rfl⟩ := Snapshot.read_eq_some_iff.mp hsnapshot
    cases hread.symm.trans hread'
    cases htext.symm.trans htext'
    cases hbody.symm.trans hbody'
    exact ⟨cut.mark, hcut⟩
  · rintro ⟨mark, hcut⟩
    exact ⟨_, Snapshot.read_eq_some_iff.mpr ⟨bytes, text, _, hread, htext, hcut, rfl⟩, hbody⟩

/-- A file without a serial line is refused. -/
theorem decide_eq_noSerial (hread : files.read (t.pathOf domain) = .ok bytes)
    (htext : Utf8.decode bytes = .ok text) (hcut : Serial.cut? text = none) :
    (t.decide files today domain z).outcome =
      .error (.snapshot (.noSerial (t.pathOf domain))) := by
  rw [outcome_decide, Snapshot.read_eq_noSerial hread htext hcut]
  rfl

/-- A file has no next version on a day exactly if its serial line carries the stamp of the day and
the last version. -/
theorem maxVersion_lt_nextVersion_iff (p : Path) (rest : Text) (l : Serial.Line) :
    Serial.maxVersion < nextVersion (some ⟨p, rest, l.mark⟩) today ↔
      l.stamp = today.stamp ∧ numeral? l.version = some 99 := by
  obtain ⟨version, hversion, hle, hmark⟩ := l.exists_version
  rw [nextVersion_some, hmark, hversion, Option.some.injEq]
  unfold Serial.maxVersion
  by_cases hstamp : l.stamp = today.stamp
  · rw [if_pos hstamp]
    show 99 < version + 1 ↔ _
    exact ⟨fun h => ⟨hstamp, by omega⟩, fun h => by omega⟩
  · rw [if_neg hstamp]
    exact ⟨fun h => absurd h (Nat.not_lt_zero _), fun h => absurd h.1 hstamp⟩

/-- Without a check a zone that renders is staged as long as there is a next version. -/
theorem stage_of_unchecked {existing : Option Snapshot} (hchecked : t.isChecked = false)
    (hbody : z.render t.layout none = .ok body)
    (hversion : nextVersion existing today ≤ Serial.maxVersion) :
    ∃ s, (t.stage today domain z existing).outcome = .ok s ∧ s.domain = domain ∧
      s.path = t.pathOf domain ∧ z.render t.layout (some s.serial) = .ok s.text := by
  have hserial := nextSerial_eq (t.pathOf domain) existing today
  rw [if_pos hversion] at hserial
  obtain ⟨text, htext⟩ :=
    Zone.exists_render hbody (some (today.stamp ++ twoDigits (nextVersion existing today)))
  refine ⟨⟨domain, t.pathOf domain, _, text⟩, ?_, rfl, rfl, htext⟩
  exact stage_eq_ok_iff.mpr ⟨hserial, htext, by simp [hchecked], rfl, rfl⟩

/-! ## Which files are unchanged -/

/-- The file of a zone whose fields have no line feed is unchanged exactly if it is the zone with
one serial line put in. If it is another text, then without a check the zone is refused if the text
has no serial line, and otherwise staged, unless the first serial line carries the stamp of the day
and the last version. -/
theorem plan_detects (hbody : z.render t.layout none = .ok body) (hfree : z.IsLineFree)
    (hread : files.read (t.pathOf domain) = .ok bytes) (htext : Utf8.decode bytes = .ok text) :
    (∀ zones plan, (zones.map Prod.fst).Nodup → (domain, z) ∈ zones →
      (t.plan files today zones).outcome = .ok plan →
        (domain ∈ plan.unchanged ↔ Serial.IsInserted body text)) ∧
    ((t.plan files today [(domain, z)]).outcome = .ok ⟨[], [domain]⟩ ↔
      Serial.IsInserted body text) ∧
    (t.isChecked = false → ¬ Serial.IsInserted body text →
      (¬ Serial.HasLine text → (t.plan files today [(domain, z)]).outcome =
        .error (.snapshot (.noSerial (t.pathOf domain)))) ∧
      (Serial.HasLine text → ∃ l, Serial.IsFirstLine l text ∧
        if l.stamp = today.stamp ∧ numeral? l.version = some 99 then
          (t.plan files today [(domain, z)]).outcome =
            .error (.exhausted (t.pathOf domain) today.stamp)
        else ∃ s, (t.plan files today [(domain, z)]).outcome = .ok ⟨[s], []⟩ ∧
          s.domain = domain ∧ s.path = t.pathOf domain ∧
            z.render t.layout (some s.serial) = .ok s.text)) := by
  have hinserted : (t.decide files today domain z).outcome = .ok .unchanged ↔
      Serial.IsInserted body text := by
    rw [decide_eq_unchanged_iff_cut hbody hread htext,
      Serial.exists_cut?_iff_isInserted (Zone.cut?_render_none hfree hbody)]
  refine ⟨fun zones plan hkeys hmem hplan => ?_, ?_, fun hchecked hother => ⟨fun hline => ?_, ?_⟩⟩
  · rw [(plan_eq_ok_iff.mp hplan).mem_unchanged_iff hkeys hmem, hinserted]
  · rw [plan_singleton_eq_unchanged_iff, hinserted]
  · have hcut := Serial.cut?_eq_none_iff.mpr hline
    rw [outcome_plan_singleton, decide_eq_noSerial hread htext hcut]
    rfl
  · intro hline
    obtain ⟨body', l, hfirst, hcut⟩ := hline.exists_cut?
    have hne : body ≠ body' := by
      rintro rfl
      exact hother (hinserted.mp
        ((decide_eq_unchanged_iff_cut hbody hread htext).mpr ⟨l.mark, hcut⟩))
    have hsnapshot := Snapshot.read_eq_some_iff.mpr ⟨bytes, text, _, hread, htext, hcut, rfl⟩
    refine ⟨l, hfirst, ?_⟩
    rw [outcome_plan_singleton, decide_of_differs hsnapshot hbody hne]
    split
    · next hused =>
      rw [stage_of_exhausted ((maxVersion_lt_nextVersion_iff _ _ l).mpr hused)]
      rfl
    · next hnext =>
      obtain ⟨s, hs, hrest⟩ := stage_of_unchecked hchecked hbody
        (Nat.not_lt.mp fun hlt => hnext ((maxVersion_lt_nextVersion_iff _ _ l).mp hlt))
      rw [hs]
      exact ⟨s, rfl, hrest⟩

/-- A file whose serial line was moved to its end is unchanged. -/
theorem plan_detects_moved_line :
    ((sample true).plan
      (sampleFiles [("db.e".toList,
        Zone.sampleText ++ Zone.fieldLine "2026101907".toList "Serial".toList ++ ['\n'])])
      ⟨2026, 10, 19⟩ [("e".toList, Zone.sample [])]).outcome = .ok ⟨[], ["e".toList]⟩ := by
  refine (plan_detects Zone.render_sample Zone.isLineFree_sample (by decide +kernel)
    (Utf8.decode_encode
      (Zone.sampleText ++ Zone.fieldLine "2026101907".toList "Serial".toList ++ ['\n']))).2.1.mpr ?_
  refine ⟨Zone.sampleText.dropLast, [],
    Serial.Line.ofSerial "2026101907".toList (by decide) (List.all_eq_true.mp (by decide)), ?_, ?_⟩
  · decide +kernel
  · decide +kernel

end ZoneKeeper.Target
