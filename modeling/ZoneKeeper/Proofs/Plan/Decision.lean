import ZoneKeeper.Plan.Basic
import ZoneKeeper.Proofs.FileTree
import ZoneKeeper.Proofs.Outcome

/-!
# What is decided for a zone, and what makes a plan

A zone is unchanged exactly if its file reads as the zone without its serial; it is staged exactly
if it has no file or its file reads otherwise, the next serial exists, and the zone renders with it
and passes the check. A plan is these decisions zone by zone, and it fails with the first that
fails.
-/

namespace ZoneKeeper

open Text

/-! ## Snapshots -/

namespace Snapshot

variable {files : FileTree} {p : Path} {s : Snapshot} {bytes : List UInt8}

theorem outcome_read (files : FileTree) (p : Path) :
    (read files p).outcome = (files.isFile p).mapError (.path p) >>= fun isFile =>
      if isFile then
        (files.read p).mapError (.unreadable p) >>= fun bytes => (ofBytes p bytes).map some
      else .ok none := by
  unfold read
  rw [Journaled.outcome_bind]
  refine congrArg _ (funext fun isFile => ?_)
  cases isFile with
  | false => rfl
  | true =>
    rw [if_pos rfl, Journaled.outcome_bind]
    refine congrArg _ (funext fun bytes => ?_)
    rw [Journaled.outcome_bind, Journaled.outcome_ofExcept]
    cases ofBytes p bytes <;> rfl

theorem ofBytes_eq_ok_iff :
    ofBytes p bytes = .ok s ↔ ∃ text cut,
      Utf8.decode bytes = .ok text ∧ Serial.cut? text = some cut ∧ s = ⟨p, cut.body, cut.mark⟩ := by
  simp only [ofBytes, bind_eq_ok_iff, mapError_eq_ok_iff]
  refine exists_congr fun text => ?_
  cases Serial.cut? text <;> simp [eq_comm]

/-- A path gives a snapshot exactly if it leads to a file of text with a serial line. -/
theorem read_eq_some_iff :
    (read files p).outcome = .ok (some s) ↔ ∃ bytes text cut, files.read p = .ok bytes ∧
      Utf8.decode bytes = .ok text ∧ Serial.cut? text = some cut ∧
        s = ⟨p, cut.body, cut.mark⟩ := by
  rw [outcome_read, bind_eq_ok_iff]
  simp only [mapError_eq_ok_iff]
  constructor
  · rintro ⟨isFile, -, h⟩
    cases isFile with
    | false => cases h
    | true =>
      obtain ⟨bytes, hbytes, h⟩ := bind_eq_ok_iff.mp h
      obtain ⟨s', hs, ⟨⟩⟩ := map_eq_ok_iff.mp h
      obtain ⟨text, cut, htext, hcut, rfl⟩ := ofBytes_eq_ok_iff.mp hs
      exact ⟨bytes, text, cut, mapError_eq_ok_iff.mp hbytes, htext, hcut, rfl⟩
  · rintro ⟨bytes, text, cut, hbytes, htext, hcut, rfl⟩
    refine ⟨true, FileTree.isFile_eq_ok_true_iff.mpr ⟨bytes, hbytes⟩, ?_⟩
    have hs := (ofBytes_eq_ok_iff (p := p)).mpr ⟨text, cut, htext, hcut, rfl⟩
    exact bind_eq_ok_iff.mpr ⟨bytes, mapError_eq_ok_iff.mpr hbytes, map_eq_ok_iff.mpr ⟨_, hs, rfl⟩⟩

theorem read_eq_some_congr {files' : FileTree}
    (h : ∀ bytes, files'.read p = .ok bytes ↔ files.read p = .ok bytes) :
    (read files' p).outcome = .ok (some s) ↔ (read files p).outcome = .ok (some s) := by
  simp only [read_eq_some_iff, h]

theorem eq_none_of_read {existing : Option Snapshot} (hnone : ∀ bytes, files.read p ≠ .ok bytes)
    (hread : (read files p).outcome = .ok existing) : existing = none := by
  cases existing with
  | none => rfl
  | some snapshot =>
    obtain ⟨bytes, _, _, hbytes, -⟩ := read_eq_some_iff.mp hread
    exact absurd hbytes (hnone bytes)

/-- A path gives no snapshot and no fault exactly if it leads to no file. -/
theorem read_eq_none_iff : (read files p).outcome = .ok none ↔ files.isFile p = .ok false := by
  rw [outcome_read, bind_eq_ok_iff]
  simp only [mapError_eq_ok_iff]
  constructor
  · rintro ⟨isFile, hfile, h⟩
    cases isFile with
    | false => exact hfile
    | true =>
      obtain ⟨bytes, -, h⟩ := bind_eq_ok_iff.mp h
      obtain ⟨s', -, ⟨⟩⟩ := map_eq_ok_iff.mp h
  · intro hfile
    exact ⟨false, hfile, rfl⟩

/-- A file of text without a serial line is refused. -/
theorem read_eq_noSerial {text : Text} (hbytes : files.read p = .ok bytes)
    (htext : Utf8.decode bytes = .ok text) (hcut : Serial.cut? text = none) :
    (read files p).outcome = .error (.noSerial p) := by
  have hfile := FileTree.isFile_eq_ok_true_iff.mpr ⟨bytes, hbytes⟩
  simp [outcome_read, hfile, hbytes, Except.mapError, ofBytes, htext, hcut, Except.map]

end Snapshot

/-! ## Decisions -/

namespace Target

variable {t : Target} {files : FileTree} {today : Day} {domain : Text} {z : Zone}

/-- The version of the next writing over a file, if there is one: the next one if the file carries
the day, otherwise the first. -/
def nextVersion (existing : Option Snapshot) (today : Day) : Nat :=
  match existing with
  | none => 0
  | some s => if s.mark.stamp = today.stamp then s.mark.version + 1 else 0

theorem nextVersion_some (s : Snapshot) (today : Day) :
    nextVersion (some s) today = if s.mark.stamp = today.stamp then s.mark.version + 1 else 0 := rfl

/-- The next serial carries the day and the next version, as long as there is a next version. -/
theorem nextSerial_eq (path : Path) (existing : Option Snapshot) (today : Day) :
    nextSerial path existing today =
      if nextVersion existing today ≤ Serial.maxVersion then
        .ok (today.stamp ++ twoDigits (nextVersion existing today))
      else .error (.exhausted path today.stamp) := by
  cases existing with
  | none => rfl
  | some s =>
    by_cases hstamp : s.mark.stamp = today.stamp
    · by_cases hversion : s.mark.version + 1 ≤ Serial.maxVersion
      · have hnext : ¬ (s.mark.version : Int) + 1 > Serial.maxVersion := by omega
        simp only [nextSerial, Serial.next, Option.map_some, hstamp, hnext, nextVersion, hversion,
          if_true, if_false]
        rfl
      · have hnext : (s.mark.version : Int) + 1 > Serial.maxVersion := by omega
        simp [nextSerial, Serial.next, hstamp, hnext, nextVersion, hversion]
    · simp [nextSerial, Serial.next, hstamp, nextVersion]

theorem outcome_stage (t : Target) (today : Day) (domain : Text) (z : Zone)
    (existing : Option Snapshot) :
    (t.stage today domain z existing).outcome =
      nextSerial (t.pathOf domain) existing today >>= fun serial =>
        (z.render t.layout (some serial)).mapError .render >>= fun text =>
          if t.isChecked then
            (t.loader domain text).mapError (.unloadable domain) >>= fun _ =>
              .ok ⟨domain, t.pathOf domain, serial, text⟩
          else .ok ⟨domain, t.pathOf domain, serial, text⟩ := by
  unfold stage stageBy
  rw [Journaled.outcome_bind]
  refine congrArg _ (funext fun serial => ?_)
  rw [Journaled.outcome_bind]
  refine congrArg _ (funext fun text => ?_)
  cases hchecked : t.isChecked with
  | false => simp
  | true =>
    simp only [if_true, Journaled.outcome_bind, Journaled.outcome_mapError, checkLoads,
      Journaled.outcome_ofExcept]
    cases t.loader domain text <;> rfl

/-- A zone is staged with the next serial of its file, rendered with it and checked if that is
asked for. -/
theorem stage_eq_ok_iff {existing : Option Snapshot} {s : Staged} :
    (t.stage today domain z existing).outcome = .ok s ↔
      nextSerial (t.pathOf domain) existing today = .ok s.serial ∧
        z.render t.layout (some s.serial) = .ok s.text ∧
        (t.isChecked = true → ∃ n, t.loader domain s.text = .ok n) ∧
        s.domain = domain ∧ s.path = t.pathOf domain := by
  simp only [outcome_stage, bind_eq_ok_iff, mapError_eq_ok_iff]
  constructor
  · rintro ⟨serial, hserial, text, htext, h⟩
    split at h
    · obtain ⟨n, hn, ⟨⟩⟩ := bind_eq_ok_iff.mp h
      exact ⟨hserial, htext, fun _ => ⟨n, mapError_eq_ok_iff.mp hn⟩, rfl, rfl⟩
    · next hchecked =>
      cases h
      exact ⟨hserial, htext, fun hc => absurd hc hchecked, rfl, rfl⟩
  · rintro ⟨hserial, htext, hcheck, rfl, hpath⟩
    refine ⟨s.serial, hserial, s.text, htext, ?_⟩
    split
    · next hchecked =>
      obtain ⟨n, hn⟩ := hcheck hchecked
      rw [hn, ← hpath]
      rfl
    · rw [← hpath]

theorem outcome_decide (t : Target) (files : FileTree) (today : Day) (domain : Text) (z : Zone) :
    (t.decide files today domain z).outcome =
      (Snapshot.read files (t.pathOf domain)).outcome.mapError .snapshot >>= fun
        | none => (t.stage today domain z none).outcome.map .staged
        | some snapshot => (z.render t.layout none).mapError .render >>= fun body =>
          if body = snapshot.body then .ok .unchanged
          else (t.stage today domain z (some snapshot)).outcome.map .staged := by
  unfold decide decideBy stage
  simp only [Journaled.outcome_bind, Journaled.outcome_mapError]
  refine congrArg _ (funext fun existing => ?_)
  cases existing with
  | none =>
    simp only [Journaled.outcome_bind, Journaled.outcome_report, ok_bind]
    cases (t.stageBy (z.render t.layout) today domain none).outcome <;> rfl
  | some snapshot =>
    simp only [Journaled.outcome_bind, Journaled.outcome_ofExcept]
    refine congrArg _ (funext fun body => ?_)
    split
    · rfl
    · simp only [Journaled.outcome_bind, Journaled.outcome_report, ok_bind]
      cases (t.stageBy (z.render t.layout) today domain (some snapshot)).outcome <;> rfl

/-- A zone is unchanged exactly if its file reads as the zone without its serial. -/
theorem decide_eq_unchanged_iff :
    (t.decide files today domain z).outcome = .ok .unchanged ↔
      ∃ snapshot, (Snapshot.read files (t.pathOf domain)).outcome = .ok (some snapshot) ∧
        z.render t.layout none = .ok snapshot.body := by
  rw [outcome_decide, bind_eq_ok_iff]
  constructor
  · rintro ⟨existing, hread, h⟩
    cases existing with
    | none =>
      obtain ⟨s, -, ⟨⟩⟩ := map_eq_ok_iff.mp h
    | some snapshot =>
      obtain ⟨body, hbody, h⟩ := bind_eq_ok_iff.mp h
      split at h
      · next heq => exact ⟨snapshot, mapError_eq_ok_iff.mp hread, heq ▸ mapError_eq_ok_iff.mp hbody⟩
      · obtain ⟨s, -, ⟨⟩⟩ := map_eq_ok_iff.mp h
  · rintro ⟨snapshot, hread, hbody⟩
    refine ⟨some snapshot, mapError_eq_ok_iff.mpr hread, ?_⟩
    simp [hbody, Except.mapError]

/-- A zone is staged exactly if its file, if there is one, reads otherwise and staging succeeds. -/
theorem decide_eq_staged_iff {s : Staged} :
    (t.decide files today domain z).outcome = .ok (.staged s) ↔
      ∃ existing, (Snapshot.read files (t.pathOf domain)).outcome = .ok existing ∧
        (∀ snapshot, existing = some snapshot →
          ∃ body, z.render t.layout none = .ok body ∧ body ≠ snapshot.body) ∧
        (t.stage today domain z existing).outcome = .ok s := by
  rw [outcome_decide, bind_eq_ok_iff]
  refine exists_congr fun existing => ?_
  rw [mapError_eq_ok_iff]
  refine and_congr_right fun _ => ?_
  cases existing with
  | none => simp
  | some snapshot =>
    cases hbody : z.render t.layout none with
    | error why => simp [Except.mapError]
    | ok body =>
      by_cases heq : body = snapshot.body <;> simp [Except.mapError, heq]

/-- A zone whose file reads otherwise is staged, if it can be. -/
theorem decide_of_differs {snapshot : Snapshot} {body : Text}
    (hread : (Snapshot.read files (t.pathOf domain)).outcome = .ok (some snapshot))
    (hbody : z.render t.layout none = .ok body) (hne : body ≠ snapshot.body) :
    (t.decide files today domain z).outcome =
      (t.stage today domain z (some snapshot)).outcome.map .staged := by
  rw [outcome_decide, hread]
  simp [Except.mapError, hbody, hne]

/-- A zone is not staged over a file that carries the last serial of the day. -/
theorem stage_of_exhausted {existing : Option Snapshot}
    (h : Serial.maxVersion < nextVersion existing today) :
    (t.stage today domain z existing).outcome =
      .error (.exhausted (t.pathOf domain) today.stamp) := by
  rw [outcome_stage, nextSerial_eq, if_neg (Nat.not_le.mpr h)]
  rfl

theorem decide_staged {s : Staged} (h : (t.decide files today domain z).outcome = .ok (.staged s)) :
    s.domain = domain ∧ s.path = t.pathOf domain := by
  obtain ⟨existing, -, -, hstage⟩ := decide_eq_staged_iff.mp h
  exact (stage_eq_ok_iff.mp hstage).2.2.2

/-! ## Plans -/

/-- The plans that decisions on the zones of a catalogue make. -/
inductive Planned (t : Target) (files : FileTree) (today : Day) : Catalogue → Plan → Prop where
  /-- There is nothing to do for no zones. -/
  | nil : Planned t files today [] ⟨[], []⟩
  /-- The file of the first zone stays as it is. -/
  | unchanged {domain : Text} {z : Zone} {zones : Catalogue} {p : Plan}
      (hd : (t.decide files today domain z).outcome = .ok .unchanged)
      (hp : Planned t files today zones p) :
      Planned t files today ((domain, z) :: zones) ⟨p.staged, domain :: p.unchanged⟩
  /-- The file of the first zone is to be written. -/
  | staged {domain : Text} {z : Zone} {zones : Catalogue} {p : Plan} {s : Staged}
      (hd : (t.decide files today domain z).outcome = .ok (.staged s))
      (hp : Planned t files today zones p) :
      Planned t files today ((domain, z) :: zones) ⟨s :: p.staged, p.unchanged⟩

theorem outcome_plan (t : Target) (files : FileTree) (today : Day) (zones : Catalogue) :
    (t.plan files today zones).outcome =
      (zones.mapM fun e => (t.decide files today e.1 e.2).outcome.map (e.1, ·)).map
        Plan.ofDecisions := by
  unfold plan planBy
  rw [Journaled.outcome_bind, Journaled.outcome_mapM]
  have hstep (e : Text × Zone) :
      (do return (e.1, ← t.decideBy (e.2.render t.layout) files today e.1) :
        Journaled PlanFault _).outcome = (t.decide files today e.1 e.2).outcome.map (e.1, ·) := by
    rw [Journaled.outcome_bind, decide]
    cases (t.decideBy (e.2.render t.layout) files today e.1).outcome <;> rfl
  simp only [hstep]
  cases zones.mapM fun e => (t.decide files today e.1 e.2).outcome.map (e.1, ·) <;> rfl

/-- A plan is made zone by zone, the first zone first. -/
theorem outcome_plan_cons (t : Target) (files : FileTree) (today : Day) (domain : Text) (z : Zone)
    (zones : Catalogue) :
    (t.plan files today ((domain, z) :: zones)).outcome =
      (t.decide files today domain z).outcome >>= fun
        | .unchanged => (t.plan files today zones).outcome.map fun p =>
          ⟨p.staged, domain :: p.unchanged⟩
        | .staged s => (t.plan files today zones).outcome.map fun p =>
          ⟨s :: p.staged, p.unchanged⟩ := by
  rw [outcome_plan, outcome_plan, List.mapM_cons]
  cases (t.decide files today domain z).outcome with
  | error why => rfl
  | ok decision =>
    cases zones.mapM fun e => (t.decide files today e.1 e.2).outcome.map (e.1, ·) with
    | error why => cases decision <;> rfl
    | ok decisions => cases decision <;> rfl

theorem plan_eq_ok_iff {zones : Catalogue} {p : Plan} :
    (t.plan files today zones).outcome = .ok p ↔ Planned t files today zones p := by
  constructor
  · intro h
    induction zones generalizing p with
    | nil =>
      cases h
      exact .nil
    | cons e zones ih =>
      obtain ⟨domain, z⟩ := e
      rw [outcome_plan_cons, bind_eq_ok_iff] at h
      obtain ⟨decision, hd, h⟩ := h
      cases decision with
      | unchanged =>
        obtain ⟨q, hq, rfl⟩ := map_eq_ok_iff.mp h
        exact .unchanged hd (ih hq)
      | staged s =>
        obtain ⟨q, hq, rfl⟩ := map_eq_ok_iff.mp h
        exact .staged hd (ih hq)
  · intro h
    induction h with
    | nil => rfl
    | unchanged hd _ ih => rw [outcome_plan_cons, hd, ok_bind, ih]; rfl
    | staged hd _ ih => rw [outcome_plan_cons, hd, ok_bind, ih]; rfl

/-- A plan fails with the fault of the first zone that cannot be decided. -/
theorem plan_eq_error_iff {zones : Catalogue} {why : PlanFault} :
    (t.plan files today zones).outcome = .error why ↔
      ∃ (before after : Catalogue) (domain : Text) (z : Zone) (p : Plan),
        zones = before ++ (domain, z) :: after ∧ Planned t files today before p ∧
          (t.decide files today domain z).outcome = .error why := by
  constructor
  · intro h
    induction zones with
    | nil => cases h
    | cons e zones ih =>
      obtain ⟨domain, z⟩ := e
      rw [outcome_plan_cons] at h
      cases hd : (t.decide files today domain z).outcome with
      | error why' =>
        rw [hd] at h
        cases h
        exact ⟨[], zones, domain, z, ⟨[], []⟩, rfl, .nil, hd⟩
      | ok decision =>
        rw [hd, ok_bind] at h
        have hrest : (t.plan files today zones).outcome = .error why := by
          cases decision <;> exact map_eq_error_iff.mp h
        obtain ⟨before, after, domain', z', p, rfl, hp, hd'⟩ := ih hrest
        cases decision with
        | unchanged => exact ⟨_ :: before, after, domain', z', _, rfl, .unchanged hd hp, hd'⟩
        | staged s => exact ⟨_ :: before, after, domain', z', _, rfl, .staged hd hp, hd'⟩
  · rintro ⟨before, after, domain, z, p, rfl, hp, hd⟩
    induction hp with
    | nil => rw [List.nil_append, outcome_plan_cons, hd]; rfl
    | unchanged hd' _ ih => rw [List.cons_append, outcome_plan_cons, hd', ok_bind, ih]; rfl
    | staged hd' _ ih => rw [List.cons_append, outcome_plan_cons, hd', ok_bind, ih]; rfl

/-- A domain for which nothing can be decided leaves no plan; the plan fails with it, or with a
domain before it. -/
theorem plan_of_decide_error {why : PlanFault}
    (hd : (t.decide files today domain z).outcome = .error why) (before rest : Catalogue) :
    ∃ why', (t.plan files today (before ++ (domain, z) :: rest)).outcome = .error why' ∧
      (why' = why ∨ ∃ e ∈ before, (t.decide files today e.1 e.2).outcome = .error why') := by
  induction before with
  | nil =>
    refine ⟨why, ?_, .inl rfl⟩
    rw [List.nil_append, outcome_plan_cons, hd]
    rfl
  | cons e before ih =>
    rw [List.cons_append, outcome_plan_cons]
    cases he : (t.decide files today e.1 e.2).outcome with
    | error why' => exact ⟨why', rfl, .inr ⟨e, List.mem_cons_self, he⟩⟩
    | ok decision =>
      obtain ⟨why', hplan, hwhy⟩ := ih
      refine ⟨why', ?_, hwhy.imp_right fun ⟨e', he', hd'⟩ => ⟨e', List.mem_cons_of_mem _ he', hd'⟩⟩
      cases decision <;> rw [ok_bind, hplan] <;> rfl

/-! ## A fixed target -/

/-- A target, for statements about fixed files. -/
def sample (isChecked : Bool) : Target :=
  ⟨Path.ofText "zones".toList, "db.".toList, .standard, isChecked, MasterFile.check⟩

/-- The folder of that target with some files in it. -/
def sampleFiles (files : List (Text × Text)) : FileTree where
  here := []
  entries := (["zones".toList], .folder) ::
    files.map fun f => (["zones".toList, f.1], .file (Utf8.encode f.2))

end Target

end ZoneKeeper
