import ZoneKeeper.Plan.Synchronized
import ZoneKeeper.Proofs.Plan.Planned
import ZoneKeeper.Proofs.Plan.Writing
import ZoneKeeper.Proofs.Text.Utf8

/-!
# What one call does to one file

Synchronizing either leaves the file of a domain as it is or writes it once, with the day and the
next version of what was there. It does the first whenever there is no plan, and for every file that
a failing write leaves unwritten.
-/

namespace ZoneKeeper.Target

open Text

variable {t : Target} {files : FileTree} {today : Day} {zones : Catalogue} {plan : Plan}

/-! ## The parts of synchronizing -/

theorem synchronize_of_plan_error {why : PlanFault}
    (h : (t.plan files today zones).outcome = .error why) :
    t.synchronize files today zones =
      ⟨files, [], (t.plan files today zones).journal, .error (.plan why)⟩ := by
  simp only [synchronize, h]

theorem files_synchronize (h : (t.plan files today zones).outcome = .ok plan) :
    (t.synchronize files today zones).files = (writeAll files plan.staged).files := by
  simp only [synchronize, h, Plan.apply]

theorem written_synchronize (h : (t.plan files today zones).outcome = .ok plan) :
    (t.synchronize files today zones).written = (writeAll files plan.staged).written := by
  simp only [synchronize, h, Plan.apply]

/-- Synchronizing succeeds if there is a plan and all of it is written. -/
theorem synchronize_eq_ok_iff :
    (t.synchronize files today zones).outcome = .ok plan ↔
      (t.plan files today zones).outcome = .ok plan ∧
        (writeAll files plan.staged).fault = none := by
  cases hplan : (t.plan files today zones).outcome with
  | error why => simp [synchronize_of_plan_error hplan]
  | ok plan' =>
    simp only [synchronize, hplan, Plan.apply, Except.ok.injEq]
    cases hfault : (writeAll files plan'.staged).fault with
    | none =>
      simp only [Except.ok.injEq]
      exact ⟨fun h => ⟨h, h ▸ hfault⟩, And.left⟩
    | some why =>
      simp only [reduceCtorEq, false_iff, not_and]
      rintro rfl hnone
      simp [hfault] at hnone

theorem isFolder_synchronize {p : Path} :
    (t.synchronize files today zones).files.isFolder p = .ok true ↔
      files.isFolder p = .ok true := by
  cases hplan : (t.plan files today zones).outcome with
  | error why => rw [synchronize_of_plan_error hplan]
  | ok plan =>
    rw [files_synchronize hplan]
    exact isFolder_writeAll

/-! ## One file -/

/-- What synchronizing can do to the file of a domain, of the catalogue or not. -/
inductive Outlook (files : FileTree) (today : Day) (q : Path) (done : Synchronized) : Prop where
  /-- The file is left as it is. -/
  | kept (hread : ∀ bytes, done.files.read q = .ok bytes ↔ files.read q = .ok bytes)
      (hwritten : (done.written.map (·.path)).count q = 0)
  /-- The file is written once, with the next version. -/
  | written {existing : Option Snapshot} {body : Text}
      (hexisting : (Snapshot.read files q).outcome = .ok existing)
      (hversion : nextVersion existing today ≤ Serial.maxVersion)
      (hread : (Snapshot.read done.files q).outcome =
        .ok (some ⟨q, body, ⟨today.stamp, nextVersion existing today⟩⟩))
      (hwritten : (done.written.map (·.path)).count q = 1)

/-- Synchronizing leaves the file of a domain as it is or writes it with the next version. -/
theorem outlook_synchronize (hday : today.IsDate) (hserves : t.Serves zones)
    (hapart : t.KeepsApart files zones) {domain : Text} (hname : t.NamesFile domain) :
    Outlook files today (t.pathOf domain) (t.synchronize files today zones) := by
  cases hplan : (t.plan files today zones).outcome with
  | error why =>
    rw [synchronize_of_plan_error hplan]
    exact .kept (fun _ => Iff.rfl) rfl
  | ok plan =>
    have hplanned := plan_eq_ok_iff.mp hplan
    have hpairs := hplanned.pairwise_apart hserves hapart
    have hsubset := (written_prefix_staged files plan.staged).subset
    have hfiles := files_synchronize hplan
    have hall := written_synchronize hplan
    by_cases hmem : ∃ s ∈ (writeAll files plan.staged).written, s.path = t.pathOf domain
    · obtain ⟨s, hs, hpath⟩ := hmem
      obtain ⟨z, hz, hd⟩ := hplanned.exists_of_mem_staged (hsubset hs)
      obtain ⟨existing, body, hexisting, hversion, -, -, hcut⟩ :=
        decide_staged_spec hday (hserves.opens _ hz) hd
      have hread := read_writeAll_of_mem hpairs hs
      rw [← (decide_staged hd).2, hpath] at hexisting
      rw [hpath, ← hfiles] at hread
      have hsnapshot := Snapshot.read_eq_some_iff.mpr
        ⟨_, s.text, _, hread, Utf8.decode_encode _, hcut, rfl⟩
      refine .written hexisting hversion hsnapshot ?_
      rw [hall]
      have hpaths : t.pathOf domain ∈ (writeAll files plan.staged).written.map (·.path) :=
        List.mem_map.mpr ⟨s, hs, hpath⟩
      exact List.count_eq_one_of_mem (nodup_paths_written hpairs) hpaths
    · -- Different paths of one folder are apart, whichever call they come from.
      have hleft : ∀ s ∈ (writeAll files plan.staged).written,
          files.Apart s.path (t.pathOf domain) := by
        intro s hs
        obtain ⟨z, hz, hd⟩ := hplanned.exists_of_mem_staged (hsubset hs)
        have hne : t.pathOf s.domain ≠ t.pathOf domain := fun heq =>
          hmem ⟨s, hs, (decide_staged hd).2.trans heq⟩
        rw [(decide_staged hd).2]
        exact apart_pathOf (hserves.names _ hz) hname (fun heq => hne (congrArg _ heq)) (.inr hne)
      refine .kept (fun bytes => ?_) (List.count_eq_zero_of_not_mem fun hpaths => hmem ?_)
      · rw [hfiles]
        exact read_writeAll_of_apart hleft
      · rw [hall] at hpaths
        exact List.mem_map.mp hpaths

end ZoneKeeper.Target
