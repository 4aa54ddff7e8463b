import ZoneKeeper.Proofs.Plan.Call
import ZoneKeeper.Proofs.Plan.Detection

/-!
# Foreign files and failing plans

A file that was not generated here is never written over: a path that leads to it gives no plan, and
a write changes nothing but the location that its path leads to, which is the same when the plan is
made and when it is carried out. If there is no plan for one domain there is none for all of them,
and then nothing is written, wherever the domain stands.
-/

namespace ZoneKeeper

open Text

/-! ## Files of other origin -/

/-- Whether bytes are those of a file that was not generated here: they are not UTF-8, or there is
no serial line between two line feeds of the text. -/
def Foreign (bytes : List UInt8) : Prop :=
  ∀ text, Utf8.decode bytes = .ok text → ¬ Serial.HasLine text

theorem foreign_encode {text : Text} (h : Serial.cut? text = none) :
    Foreign (Utf8.encode text) := by
  intro text' htext'
  rw [Utf8.decode_encode] at htext'
  cases htext'
  exact Serial.cut?_eq_none_iff.mp h

variable {files files' : FileTree} {p : Path} {l : Location} {bytes : List UInt8}

/-- A path that leads to a foreign file gives no snapshot and is not taken for free either. -/
theorem Snapshot.read_ne_ok_of_foreign (hread : files.read p = .ok bytes) (h : Foreign bytes)
    (existing : Option Snapshot) : (Snapshot.read files p).outcome ≠ .ok existing := by
  intro hexisting
  cases existing with
  | none =>
    have hfile := FileTree.isFile_eq_ok_true_iff.mpr ⟨bytes, hread⟩
    rw [Snapshot.read_eq_none_iff.mp hexisting] at hfile
    cases hfile
  | some snapshot =>
    obtain ⟨bytes', text, cut, hread', htext, hcut, -⟩ := Snapshot.read_eq_some_iff.mp hexisting
    obtain rfl := Except.ok.inj (hread.symm.trans hread')
    have hnone := Serial.cut?_eq_none_iff.mpr (h text htext)
    rw [hnone] at hcut
    cases hcut

/-! ## Zones that do not render -/

namespace Zone

variable {z : Zone} {groups : List (List Text)}

/-- If the records of a zone can be written, then each published one can. -/
theorem exists_line_of_mem (h : z.recordLines = .ok groups) {r : Record} (hr : r ∈ z.records)
    (htype : r.type ∈ RecordType.published) : ∃ line, r.line = .ok line := by
  have hgroup : r ∈ z.recordsOf r.type := List.mem_filter.mpr ⟨hr, by simp⟩
  have hmem : z.recordsOf r.type ∈ z.groups := by
    refine List.mem_filter.mpr ⟨List.mem_map.mpr ⟨r.type, htype, rfl⟩, ?_⟩
    exact decide_eq_true (List.ne_nil_of_mem hgroup)
  obtain ⟨lines, hlines⟩ := exists_ok_of_mem_mapM h hmem
  exact exists_ok_of_mem_mapM hlines hgroup

theorem exists_ns_of_primary {host : Text} (h : z.primary = .ok host) :
    ∃ r ∈ z.records, r.type = .ns := by
  obtain ⟨r, rest, hns, -⟩ := primary_eq_ok_iff.mp h
  have hr : r ∈ z.recordsOf .ns := hns ▸ List.mem_cons_self
  obtain ⟨hmem, htype⟩ := List.mem_filter.mp hr
  exact ⟨r, hmem, of_decide_eq_true htype⟩

end Zone

theorem Record.length_values_of_line {r : Record} {line : Text} (htype : r.type = .mx)
    (h : r.line = .ok line) : r.values.length = 2 := by
  obtain ⟨data, hdata, -⟩ := map_eq_ok_iff.mp h
  obtain ⟨type, values, owner, ttl⟩ := r
  cases htype
  match values, hdata with
  | [_, _], _ => rfl

/-! ## What stands in the way of a plan -/

namespace Target

variable {t : Target} {today : Day} {domain : Text} {z : Zone} {zones : Catalogue}

/-- What can stand in the way of a plan for a domain. -/
inductive Obstacle (t : Target) (files : FileTree) (today : Day) (domain : Text) (z : Zone) :
    Prop where
  /-- A foreign file is at the path of the domain. -/
  | foreign {bytes : List UInt8} (hread : files.read (t.pathOf domain) = .ok bytes)
      (h : Foreign bytes)
  /-- The zone has no nameserver. -/
  | noNameserver (h : ∀ r ∈ z.records, r.type ≠ .ns)
  /-- A mail exchange of the zone has not exactly a preference and a host. -/
  | exchange {r : Record} (hr : r ∈ z.records) (htype : r.type = .mx) (h : r.values.length ≠ 2)
  /-- The file reads otherwise and carries the last version of the day. -/
  | exhausted {snapshot : Snapshot} {body : Text}
      (hread : (Snapshot.read files (t.pathOf domain)).outcome = .ok (some snapshot))
      (hmark : snapshot.mark = ⟨today.stamp, 99⟩) (hbody : z.render t.layout none = .ok body)
      (h : body ≠ snapshot.body)
  /-- The zone is checked, is to be written over the file that is there, if one is, and does not
  load. -/
  | unloadable {existing : Option Snapshot} {serial text : Text} {why : MasterFile.Fault}
      (hchecked : t.isChecked = true)
      (hread : (Snapshot.read files (t.pathOf domain)).outcome = .ok existing)
      (hdiffers : ∀ snapshot, existing = some snapshot →
        z.render t.layout none ≠ .ok snapshot.body)
      (hserial : nextSerial (t.pathOf domain) existing today = .ok serial)
      (htext : z.render t.layout (some serial) = .ok text)
      (h : t.loader domain text = .error why)

/-- Whatever is decided for a domain, its path was free or led to a generated file. -/
theorem exists_read_of_decide {d : Decision}
    (h : (t.decide files today domain z).outcome = .ok d) :
    ∃ existing, (Snapshot.read files (t.pathOf domain)).outcome = .ok existing := by
  cases d with
  | unchanged =>
    obtain ⟨snapshot, hread, -⟩ := decide_eq_unchanged_iff.mp h
    exact ⟨some snapshot, hread⟩
  | staged s =>
    obtain ⟨existing, hread, -⟩ := decide_eq_staged_iff.mp h
    exact ⟨existing, hread⟩

theorem exists_render_of_decide {d : Decision}
    (h : (t.decide files today domain z).outcome = .ok d) :
    ∃ body, z.render t.layout none = .ok body := by
  cases d with
  | unchanged =>
    obtain ⟨snapshot, -, hbody⟩ := decide_eq_unchanged_iff.mp h
    exact ⟨snapshot.body, hbody⟩
  | staged s =>
    obtain ⟨existing, -, -, hstage⟩ := decide_eq_staged_iff.mp h
    exact Zone.exists_render (stage_eq_ok_iff.mp hstage).2.1 none

theorem Obstacle.decide_ne_ok (h : t.Obstacle files today domain z) (d : Decision) :
    (t.decide files today domain z).outcome ≠ .ok d := by
  intro hd
  cases h with
  | foreign hread hforeign =>
    obtain ⟨existing, hexisting⟩ := exists_read_of_decide hd
    exact Snapshot.read_ne_ok_of_foreign hread hforeign existing hexisting
  | noNameserver hnone =>
    obtain ⟨body, hbody⟩ := exists_render_of_decide hd
    obtain ⟨host, groups, -, hhost, -, -⟩ := Zone.render_eq_ok_iff.mp hbody
    obtain ⟨r, hr, htype⟩ := Zone.exists_ns_of_primary hhost
    exact hnone r hr htype
  | exchange hr htype hlen =>
    obtain ⟨body, hbody⟩ := exists_render_of_decide hd
    obtain ⟨host, groups, -, -, hgroups, -⟩ := Zone.render_eq_ok_iff.mp hbody
    obtain ⟨line, hline⟩ := Zone.exists_line_of_mem hgroups hr (by rw [htype]; decide)
    exact hlen (Record.length_values_of_line htype hline)
  | @exhausted snapshot body hread hmark hbody hne =>
    have hlast : Serial.maxVersion < nextVersion (some snapshot) today := by
      rw [nextVersion_some, hmark, if_pos rfl]
      exact Nat.lt_succ_self 99
    rw [decide_of_differs hread hbody hne, stage_of_exhausted hlast] at hd
    cases hd
  | unloadable hchecked hread hdiffers hserial htext hcheck =>
    cases d with
    | unchanged =>
      obtain ⟨snapshot, hsnapshot, hbody⟩ := decide_eq_unchanged_iff.mp hd
      obtain rfl := Except.ok.inj (hread.symm.trans hsnapshot)
      exact hdiffers snapshot rfl hbody
    | staged s =>
      obtain ⟨existing, hexisting, -, hstage⟩ := decide_eq_staged_iff.mp hd
      obtain rfl := Except.ok.inj (hread.symm.trans hexisting)
      obtain ⟨hserial', htext', hloads, -, -⟩ := stage_eq_ok_iff.mp hstage
      obtain rfl := Except.ok.inj (hserial.symm.trans hserial')
      obtain rfl := Except.ok.inj (htext.symm.trans htext')
      obtain ⟨count, hcount⟩ := hloads hchecked
      rw [hcheck] at hcount
      cases hcount

theorem plan_singleton_eq_error_iff {why : PlanFault} :
    (t.plan files today [(domain, z)]).outcome = .error why ↔
      (t.decide files today domain z).outcome = .error why := by
  rw [outcome_plan_singleton, map_eq_error_iff]

/-! ## Synchronizing -/

theorem Planned.locate_ne_of_foreign {plan : Plan} (h : Planned t files today zones plan)
    (hl : files.get? l = some (.file bytes)) (hforeign : Foreign bytes) {s : Staged}
    (hs : s ∈ plan.staged) : files.locate s.path ≠ .ok l := by
  intro hlocate
  obtain ⟨z, -, hd⟩ := h.exists_of_mem_staged hs
  obtain ⟨existing, hexisting⟩ := exists_read_of_decide hd
  rw [← (decide_staged hd).2] at hexisting
  have hread : files.read s.path = .ok bytes := FileTree.read_eq_ok_iff.mpr ⟨l, hlocate, hl⟩
  exact Snapshot.read_ne_ok_of_foreign hread hforeign existing hexisting

/-- Synchronizing leaves every foreign file as it is, whatever comes of it; and if there is no plan
for one domain of the catalogue, wherever it stands, then there is none for all of them and every
file stays as it is. -/
theorem synchronize_spares (t : Target) (files : FileTree) (today : Day) (zones : Catalogue) :
    (∀ l bytes, files.get? l = some (.file bytes) → Foreign bytes →
      (t.synchronize files today zones).files.get? l = some (.file bytes)) ∧
    ∀ domain z, (domain, z) ∈ zones →
      ((∃ why, (t.plan files today [(domain, z)]).outcome = .error why) ∨
        t.Obstacle files today domain z) →
      (∃ why, (t.synchronize files today zones).outcome = .error (.plan why)) ∧
        (t.synchronize files today zones).files = files := by
  refine ⟨fun l bytes hl hforeign => ?_, fun domain z hmem hfails => ?_⟩
  · cases hplan : (t.plan files today zones).outcome with
    | error why =>
      rw [synchronize_of_plan_error hplan]
      exact hl
    | ok plan =>
      rw [files_synchronize hplan, get?_writeAll, hl]
      intro s hs
      have hstaged := (written_prefix_staged files plan.staged).subset hs
      exact (plan_eq_ok_iff.mp hplan).locate_ne_of_foreign hl hforeign hstaged
  · have hdecide : ∃ why, (t.decide files today domain z).outcome = .error why := by
      rcases hfails with ⟨why, hwhy⟩ | hobstacle
      · exact ⟨why, plan_singleton_eq_error_iff.mp hwhy⟩
      · cases hd : (t.decide files today domain z).outcome with
        | error why => exact ⟨why, rfl⟩
        | ok d => exact absurd hd (hobstacle.decide_ne_ok d)
    obtain ⟨why, hwhy⟩ := hdecide
    obtain ⟨before, rest, rfl⟩ := List.append_of_mem hmem
    obtain ⟨why', hplan, -⟩ := plan_of_decide_error hwhy before rest
    rw [synchronize_of_plan_error hplan]
    exact ⟨⟨why', rfl⟩, rfl⟩

/-- A folder with a foreign file for one of two domains: the file survives the writing of the other
domain, and keeps it from being written when both are declared. -/
theorem synchronize_spares_sample :
    let files := sampleFiles [("db.f".toList, "by hand\n".toList)]
    let good : Text × Zone := ("e".toList, Zone.sample [])
    ((sample true).synchronize files ⟨2026, 10, 19⟩ [good]).files.get?
        ["zones".toList, "db.f".toList] = some (.file (Utf8.encode "by hand\n".toList)) ∧
      ((sample true).synchronize files ⟨2026, 10, 19⟩
        [good, ("f".toList, Zone.sample [])]).files = files := by
  intro files good
  have hforeign : Foreign (Utf8.encode "by hand\n".toList) := foreign_encode (by decide)
  have hthere : files.get? ["zones".toList, "db.f".toList] =
      some (.file (Utf8.encode "by hand\n".toList)) := by decide +kernel
  have hread : files.read ((sample true).pathOf "f".toList) =
      .ok (Utf8.encode "by hand\n".toList) := by decide +kernel
  constructor
  · exact (synchronize_spares (sample true) files ⟨2026, 10, 19⟩ [good]).1 _ _ hthere hforeign
  · refine ((synchronize_spares (sample true) files ⟨2026, 10, 19⟩ _).2 "f".toList
      (Zone.sample []) (by simp) (.inr ?_)).2
    exact .foreign hread hforeign

end Target

end ZoneKeeper
