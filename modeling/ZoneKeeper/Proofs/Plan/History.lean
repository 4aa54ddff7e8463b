import ZoneKeeper.Proofs.Plan.Call

/-!
# Serials over whole histories

Calls of synchronizing on one folder, one after another, on days that never go back. A zone file is
always one that was written by these calls: its serial carries the day of its last writing and how
often it was written on that day before, so the serials of a file grow with every writing, and a day
has room for a hundred of them.
-/

namespace ZoneKeeper

open Text

/-- A call of synchronizing. -/
structure Call where
  /-- Where the shape of the files comes from. -/
  layout : Layout
  /-- Whether zones are loaded for a check. -/
  isChecked : Bool
  /-- The day of the call. -/
  today : Day
  /-- The zones. -/
  zones : Catalogue

/-- What calls have made of the files so far. -/
structure History where
  /-- The files. -/
  files : FileTree
  /-- The days and paths of all writings, first to last. -/
  writes : List (Day × Path)

namespace Call

/-- The target of a call: the folder and the start of file names are those of all calls. -/
def target (c : Call) (t : Target) : Target :=
  { t with layout := c.layout, isChecked := c.isChecked }

/-- Carries a call out. -/
def synchronize (c : Call) (t : Target) (files : FileTree) : Synchronized :=
  (c.target t).synchronize files c.today c.zones

/-- A call on a day of the calendar, with a catalogue that the target serves and whose files are
apart. -/
structure IsOrdinary (c : Call) (t : Target) (files : FileTree) : Prop where
  day : c.today.IsDate
  serves : t.Serves c.zones
  apart : t.KeepsApart files c.zones

theorem IsOrdinary.serves_target {c : Call} {t : Target} {files : FileTree}
    (h : c.IsOrdinary t files) : (c.target t).Serves c.zones :=
  ⟨h.serves.keys, h.serves.names, h.serves.opens⟩

end Call

namespace History

/-- A history with one more call. -/
def step (t : Target) (h : History) (c : Call) : History :=
  let done := c.synchronize t h.files
  ⟨done.files, h.writes ++ done.written.map fun s => (c.today, s.path)⟩

/-- A history with more calls. -/
def run (t : Target) (h : History) (calls : List Call) : History := calls.foldl (step t) h

variable {t : Target} {h : History} {c : Call} {calls : List Call} {q : Path} {since day : Day}

@[simp] theorem run_nil : h.run t [] = h := rfl

@[simp] theorem run_cons : h.run t (c :: calls) = (h.step t c).run t calls := rfl

theorem run_append {later : List Call} : h.run t (calls ++ later) = (h.run t calls).run t later :=
  List.foldl_append

/-- How often a step writes a file on a day. -/
theorem count_writes_step :
    (h.step t c).writes.count (day, q) = h.writes.count (day, q) +
      if day = c.today then ((c.synchronize t h.files).written.map (·.path)).count q else 0 := by
  show List.count _ (h.writes ++ _) = _
  rw [List.count_append]
  congr 1
  generalize (c.synchronize t h.files).written = written
  induction written with
  | nil => simp
  | cons s written ih =>
    simp only [List.map_cons, List.count_cons, ih, beq_iff_eq, Prod.mk.injEq]
    by_cases hday : day = c.today <;> simp [hday, eq_comm]

end History

theorem Call.IsOrdinary.step {t : Target} {h : History} {c c' : Call}
    (hc : c'.IsOrdinary t h.files) : c'.IsOrdinary t (h.step t c).files :=
  ⟨hc.day, hc.serves, hc.apart.imp_left Target.isFolder_synchronize.mpr⟩

theorem Call.IsOrdinary.run {t : Target} {h : History} {c : Call} {calls : List Call}
    (hc : c.IsOrdinary t h.files) : c.IsOrdinary t (h.run t calls).files := by
  induction calls generalizing h with
  | nil => exact hc
  | cons c' calls ih => exact ih hc.step

/-! ## Serials of files -/

/-- The serial of the file that a path leads to, as a number. -/
def FileTree.serialNumber? (files : FileTree) (p : Path) : Option Nat :=
  match (Snapshot.read files p).outcome with
  | .ok (some snapshot) => some snapshot.mark.number
  | _ => none

theorem FileTree.serialNumber?_of_read {files : FileTree} {p : Path} {snapshot : Snapshot}
    (h : (Snapshot.read files p).outcome = .ok (some snapshot)) :
    files.serialNumber? p = some snapshot.mark.number := by
  rw [serialNumber?, h]

/-- Whether a file is still there in other files, and has a greater serial if it is not the same. -/
def Advances (q : Path) (files files' : FileTree) : Prop :=
  ∀ bytes, files.read q = .ok bytes → ∃ bytes' n n', files'.read q = .ok bytes' ∧
    files.serialNumber? q = some n ∧ files'.serialNumber? q = some n' ∧ n ≤ n' ∧
      (bytes' ≠ bytes → n < n')

theorem Advances.trans {q : Path} {files files' files'' : FileTree} (h : Advances q files files')
    (h' : Advances q files' files'') : Advances q files files'' := by
  intro bytes hread
  obtain ⟨bytes', n, n', hread', hn, hn', hle, hlt⟩ := h bytes hread
  obtain ⟨bytes'', _, n'', hread'', hm', hn'', hle', hlt'⟩ := h' bytes' hread'
  cases hn'.symm.trans hm'
  refine ⟨bytes'', n, n'', hread'', hn, hn'', hle.trans hle', fun hne => ?_⟩
  by_cases hsame : bytes' = bytes
  · exact hle.trans_lt (hlt' (hsame ▸ hne))
  · exact (hlt hsame).trans_le hle'

namespace History

/-- How a file stands in a history whose calls were made on no later day than the given one: either
it was never written, or it has the serial of its last writing, and there were as many writings on
the day of that serial as the version says. -/
inductive Kept (q : Path) (since : Day) (h : History) : Prop where
  /-- The file is not there. -/
  | absent (hnone : ∀ bytes, h.files.read q ≠ .ok bytes)
      (hwrites : ∀ day, h.writes.count (day, q) = 0)
  /-- The file is there. -/
  | present {day : Day} {version : Nat} {body : Text} (hday : day.IsDate)
      (hsince : day.number ≤ since.number) (hversion : version ≤ Serial.maxVersion)
      (hread : (Snapshot.read h.files q).outcome = .ok (some ⟨q, body, ⟨day.stamp, version⟩⟩))
      (hcount : h.writes.count (day, q) = version + 1)
      (hlater : ∀ day', day.number < day'.number → h.writes.count (day', q) = 0)
      (hmost : ∀ day', h.writes.count (day', q) ≤ 100)

variable {t : Target} {h : History} {c : Call} {calls : List Call} {q : Path} {since : Day}
  {domain : Text}

/-- A call that leaves a file as it is keeps it in its standing. -/
theorem Kept.of_kept (hkept : Kept q since h) (hsince : since.number ≤ c.today.number)
    (hread : ∀ bytes, (h.step t c).files.read q = .ok bytes ↔ h.files.read q = .ok bytes)
    (hcount : ∀ day, (h.step t c).writes.count (day, q) = h.writes.count (day, q)) :
    Kept q c.today (h.step t c) ∧ Advances q h.files (h.step t c).files := by
  cases hkept with
  | absent hnone hwrites =>
    refine ⟨.absent (fun bytes hb => hnone bytes ((hread bytes).mp hb)) fun day => ?_, ?_⟩
    · rw [hcount, hwrites]
    · intro bytes hb
      exact absurd hb (hnone bytes)
  | present hday hsince' hversion hsnapshot hone hlater hmost =>
    have hsnapshot' := (Snapshot.read_eq_some_congr hread).mpr hsnapshot
    refine ⟨.present hday (hsince'.trans hsince) hversion hsnapshot' ?_ ?_ ?_, ?_⟩
    · rw [hcount, hone]
    · intro day' hlt
      rw [hcount, hlater day' hlt]
    · intro day'
      rw [hcount]
      exact hmost day'
    · intro bytes hb
      exact ⟨bytes, _, _, (hread bytes).mpr hb, FileTree.serialNumber?_of_read hsnapshot,
        FileTree.serialNumber?_of_read hsnapshot', le_rfl, fun hne => absurd rfl hne⟩

/-- A call that writes a file on a day on which it was written as often before as the version
says puts it in its standing. -/
theorem Kept.of_written {version : Nat} {body : Text} (hday : c.today.IsDate)
    (hversion : version ≤ Serial.maxVersion)
    (hread : (Snapshot.read (h.step t c).files q).outcome =
      .ok (some ⟨q, body, ⟨c.today.stamp, version⟩⟩))
    (hwritten : ((c.synchronize t h.files).written.map (·.path)).count q = 1)
    (htoday : h.writes.count (c.today, q) = version)
    (hlater : ∀ day', c.today.number < day'.number → h.writes.count (day', q) = 0)
    (hmost : ∀ day', h.writes.count (day', q) ≤ 100) : Kept q c.today (h.step t c) := by
  refine .present hday le_rfl hversion hread ?_ (fun day' hlt => ?_) fun day' => ?_
  · rw [count_writes_step, if_pos rfl, hwritten, htoday]
  · have hne : day' ≠ c.today := by
      rintro rfl
      exact Nat.lt_irrefl _ hlt
    rw [count_writes_step, if_neg hne, hlater day' hlt]
  · rw [count_writes_step]
    split
    · next heq =>
      rw [heq, htoday, hwritten]
      exact Nat.succ_le_succ hversion
    · exact hmost day'

/-- One call keeps a file in its standing, and advances it. -/
theorem Kept.step (hkept : Kept (t.pathOf domain) since h) (hname : t.NamesFile domain)
    (hc : c.IsOrdinary t h.files) (hsince : since.number ≤ c.today.number) :
    Kept (t.pathOf domain) c.today (h.step t c) ∧
      Advances (t.pathOf domain) h.files (h.step t c).files := by
  have houtlook : Target.Outlook h.files c.today (t.pathOf domain) (c.synchronize t h.files) :=
    Target.outlook_synchronize (t := c.target t) hc.day hc.serves_target hc.apart hname
  cases houtlook with
  | kept hread hwritten =>
    refine hkept.of_kept hsince hread fun day => ?_
    rw [count_writes_step, hwritten, ite_self, Nat.add_zero]
  | written hexisting hversion hread hwritten =>
    cases hkept with
    | absent hnone hwrites =>
      obtain rfl := Snapshot.eq_none_of_read hnone hexisting
      refine ⟨.of_written hc.day hversion hread hwritten (hwrites _) (fun day' _ => hwrites day')
        fun day' => ?_, fun bytes hb => absurd hb (hnone bytes)⟩
      rw [hwrites day']
      exact Nat.zero_le _
    | @present day version body hday hsince' hversion' hsnapshot hone hlater hmost =>
      obtain rfl := Except.ok.inj (hsnapshot.symm.trans hexisting)
      have hle := hsince'.trans hsince
      have hnumber := Serial.Mark.number_stamp hday version
      generalize hnext : Target.nextVersion _ c.today = next at hversion hread
      -- The version goes on counting if the day is the same, and starts again if it is later.
      have hgrows : h.writes.count (c.today, t.pathOf domain) = next ∧
          100 * day.number + version < 100 * c.today.number + next := by
        rw [Target.nextVersion_some] at hnext
        unfold Serial.maxVersion at hversion'
        by_cases heq : day = c.today
        · subst heq
          rw [if_pos rfl] at hnext
          have hnext : version + 1 = next := hnext
          exact ⟨hone.trans hnext, by omega⟩
        · rw [if_neg fun hstamp => heq (Day.stamp_inj hday hc.day hstamp)] at hnext
          have hlt : day.number < c.today.number :=
            Nat.lt_of_le_of_ne hle fun hnum => heq (Day.number_inj hday hc.day hnum)
          exact ⟨hnext ▸ hlater _ hlt, by omega⟩
      have hnumber' := Serial.Mark.number_stamp hc.day next
      refine ⟨.of_written hc.day hversion hread hwritten hgrows.1
        (fun day' hlt => hlater day' (hle.trans_lt hlt)) hmost, fun bytes hb => ?_⟩
      obtain ⟨bytes', _, _, hb', -⟩ := Snapshot.read_eq_some_iff.mp hread
      refine ⟨bytes', _, _, hb', FileTree.serialNumber?_of_read hsnapshot,
        FileTree.serialNumber?_of_read hread, ?_, fun _ => ?_⟩
      · rw [hnumber, hnumber']
        exact hgrows.2.le
      · rw [hnumber, hnumber']
        exact hgrows.2

theorem Kept.advances_self (hkept : Kept q since h) : Advances q h.files h.files := by
  intro bytes hb
  cases hkept with
  | absent hnone _ => exact absurd hb (hnone bytes)
  | present _ _ _ hsnapshot _ _ _ =>
    have hn := FileTree.serialNumber?_of_read hsnapshot
    exact ⟨bytes, _, _, hb, hn, hn, le_rfl, fun hne => absurd rfl hne⟩

/-- Calls on days that do not go back keep a file in its standing, and advance it. -/
theorem Kept.run (hkept : Kept (t.pathOf domain) since h) (hname : t.NamesFile domain)
    (hcalls : ∀ c ∈ calls, c.IsOrdinary t h.files)
    (hdays : (since :: calls.map (·.today)).Pairwise fun a b => a.number ≤ b.number) :
    (∃ last ∈ since :: calls.map (·.today), Kept (t.pathOf domain) last (h.run t calls)) ∧
      Advances (t.pathOf domain) h.files (h.run t calls).files := by
  induction calls generalizing h since with
  | nil => exact ⟨⟨since, List.mem_cons_self, hkept⟩, hkept.advances_self⟩
  | cons c calls ih =>
    obtain ⟨hsince, hdays⟩ := List.pairwise_cons.mp hdays
    obtain ⟨hkept', hadvances⟩ :=
      hkept.step hname (hcalls c List.mem_cons_self) (hsince _ List.mem_cons_self)
    obtain ⟨⟨last, hlast, hkept''⟩, hadvances'⟩ :=
      ih hkept' (fun c' hc' => (hcalls c' (List.mem_cons_of_mem _ hc')).step) hdays
    exact ⟨⟨last, List.mem_cons_of_mem _ hlast, hkept''⟩, hadvances.trans hadvances'⟩

theorem Kept.count_le (hkept : Kept q since h) (day : Day) : h.writes.count (day, q) ≤ 100 := by
  cases hkept with
  | absent _ hwrites => exact hwrites day ▸ Nat.zero_le _
  | present _ _ _ _ _ _ hmost => exact hmost day

/-- A call that would write a file for the 101st time on its day finds no plan. -/
theorem Kept.exhausted (hkept : Kept (t.pathOf domain) since h) (hday : c.today.IsDate)
    (hsince : since.number ≤ c.today.number)
    (hfull : h.writes.count (c.today, t.pathOf domain) = 100) {before rest : Catalogue} {z : Zone}
    {body : Text} (hzones : c.zones = before ++ (domain, z) :: rest)
    (hbody : z.render c.layout none = .ok body)
    (hdiffers : ∀ snapshot, (Snapshot.read h.files (t.pathOf domain)).outcome =
      .ok (some snapshot) → snapshot.body ≠ body) :
    ∃ why, (c.synchronize t h.files).outcome = .error (.plan why) ∧
      (c.synchronize t h.files).files = h.files ∧
      (why = .exhausted (t.pathOf domain) c.today.stamp ∨
        ∃ e ∈ before, ((c.target t).decide h.files c.today e.1 e.2).outcome = .error why) := by
  cases hkept with
  | absent _ hwrites => simp [hwrites] at hfull
  | @present day version body' hday' hsince' hversion hsnapshot hone hlater hmost =>
    have heq : day = c.today := by
      by_contra hne
      have hlt : day.number < c.today.number := Nat.lt_of_le_of_ne (hsince'.trans hsince)
        fun hnum => hne (Day.number_inj hday' hday hnum)
      simp [hlater _ hlt] at hfull
    subst heq
    have hnext : Target.nextVersion (some ⟨t.pathOf domain, body', ⟨c.today.stamp, version⟩⟩)
        c.today = 100 := (if_pos rfl).trans (hone.symm.trans hfull)
    have hdecide : ((c.target t).decide h.files c.today domain z).outcome =
        .error (.exhausted (t.pathOf domain) c.today.stamp) := by
      rw [Target.decide_of_differs (t := c.target t) hsnapshot hbody (hdiffers _ hsnapshot).symm,
        Target.stage_of_exhausted (hnext ▸ Nat.lt_succ_self 99)]
      rfl
    obtain ⟨why, hplan, hwhy⟩ := Target.plan_of_decide_error hdecide before rest
    rw [← hzones] at hplan
    refine ⟨why, ?_, ?_, hwhy⟩ <;>
      rw [Call.synchronize, Target.synchronize_of_plan_error hplan]

/-- The history of files before any call. -/
def start (files : FileTree) : History := ⟨files, []⟩

/-- Every call of a history finds the file in its standing, and is ordinary and not before the day
that the standing speaks of. -/
theorem kept_start {files : FileTree} {earlier later : List Call} (hname : t.NamesFile domain)
    (hnone : ∀ bytes, files.read (t.pathOf domain) ≠ .ok bytes)
    (hcalls : ∀ c ∈ earlier ++ later, c.IsOrdinary t files)
    (hdays : (earlier ++ later).Pairwise fun a b => ¬ b.today.Before a.today) :
    ∃ last, Kept (t.pathOf domain) last ((start files).run t earlier) ∧
      (∀ c ∈ later, c.IsOrdinary t ((start files).run t earlier).files) ∧
      (last :: later.map (·.today)).Pairwise fun a b => a.number ≤ b.number := by
  have hkept : Kept (t.pathOf domain) ⟨0, 0, 0⟩ (start files) := .absent hnone fun _ => rfl
  have hnumbers : (earlier ++ later).Pairwise fun a b => a.today.number ≤ b.today.number :=
    hdays.imp_of_mem fun ha hb hnot => Nat.not_lt.mp fun hlt =>
      hnot ((Day.number_lt_number_iff (hcalls _ hb).day (hcalls _ ha).day).mp hlt)
  obtain ⟨hearlier, hlater, hacross⟩ := List.pairwise_append.mp hnumbers
  have hstart : ((⟨0, 0, 0⟩ : Day) :: earlier.map (·.today)).Pairwise
      fun a b => a.number ≤ b.number :=
    List.pairwise_cons.mpr ⟨fun _ _ => Nat.zero_le _, List.pairwise_map.mpr hearlier⟩
  obtain ⟨⟨last, hlast, hkept'⟩, -⟩ :=
    hkept.run hname (fun c hc => hcalls c (List.mem_append_left _ hc)) hstart
  refine ⟨last, hkept', fun c hc => (hcalls c (List.mem_append_right _ hc)).run,
    List.pairwise_cons.mpr ⟨fun day hday => ?_, List.pairwise_map.mpr hlater⟩⟩
  obtain ⟨c, hc, rfl⟩ := List.mem_map.mp hday
  rcases List.mem_cons.mp hlast with rfl | hlast
  · exact Nat.zero_le _
  · obtain ⟨c', hc', rfl⟩ := List.mem_map.mp hlast
    exact hacross c' hc' c hc

/-- Serials are safe over whole histories. For the file of any domain, not there at first: after
every call of a history on days that do not go back it is absent or reads as a zone file, and up to
any later call it stays there and advances; it is written at most a hundred times on a day; and a
call whose zone would be its 101st writing on that day finds no plan, because of this file unless
because of a domain before it, and leaves all files as they are. -/
theorem serials_safe {files : FileTree} (hname : t.NamesFile domain)
    (hnone : ∀ bytes, files.read (t.pathOf domain) ≠ .ok bytes)
    (hcalls : ∀ c ∈ calls, c.IsOrdinary t files)
    (hdays : calls.Pairwise fun a b => ¬ b.today.Before a.today) :
    (∀ earlier later, calls = earlier ++ later →
      let h := (start files).run t earlier
      ((∀ bytes, h.files.read (t.pathOf domain) ≠ .ok bytes) ∨
        ∃ snapshot, (Snapshot.read h.files (t.pathOf domain)).outcome = .ok (some snapshot)) ∧
      Advances (t.pathOf domain) h.files ((start files).run t calls).files) ∧
    (∀ day, ((start files).run t calls).writes.count (day, t.pathOf domain) ≤ 100) ∧
    ∀ earlier c later, calls = earlier ++ c :: later →
      let h := (start files).run t earlier
      h.writes.count (c.today, t.pathOf domain) = 100 →
      ∀ before z rest body, c.zones = before ++ (domain, z) :: rest →
        z.render c.layout none = .ok body →
        (∀ snapshot, (Snapshot.read h.files (t.pathOf domain)).outcome = .ok (some snapshot) →
          snapshot.body ≠ body) →
        ∃ why, (c.synchronize t h.files).outcome = .error (.plan why) ∧
          (c.synchronize t h.files).files = h.files ∧
          (why = .exhausted (t.pathOf domain) c.today.stamp ∨
            ∃ e ∈ before, ((c.target t).decide h.files c.today e.1 e.2).outcome =
              .error why) := by
  refine ⟨?_, fun day => ?_, ?_⟩
  · rintro earlier later rfl h
    obtain ⟨last, hkept, hordinary, hlater⟩ := kept_start hname hnone hcalls hdays
    refine ⟨?_, ?_⟩
    · cases hkept with
      | absent hnone' _ => exact .inl hnone'
      | present _ _ _ hsnapshot _ _ _ => exact .inr ⟨_, hsnapshot⟩
    · rw [run_append]
      exact (hkept.run hname hordinary hlater).2
  · rw [← List.append_nil calls] at hcalls hdays
    obtain ⟨last, hkept, -⟩ := kept_start hname hnone hcalls hdays
    exact hkept.count_le day
  · rintro earlier c later rfl h hfull before z rest body hzones hbody hdiffers
    obtain ⟨last, hkept, hordinary, hlater⟩ := kept_start hname hnone hcalls hdays
    have hlast := (List.pairwise_cons.mp hlater).1 _ List.mem_cons_self
    exact hkept.exhausted (hordinary c List.mem_cons_self).day hlast hfull hzones hbody hdiffers

/-- A call for one zone with some records, for statements about fixed calls. -/
def sample (records : List Record) : Call :=
  ⟨.standard, true, ⟨2026, 10, 19⟩, [("e".toList, Zone.sample records)]⟩

theorem isOrdinary_sample (records : List Record) :
    (sample records).IsOrdinary (Target.sample true) (Target.sampleFiles []) where
  day := Day.isDate_sample
  serves :=
    { keys := List.nodup_singleton _
      names := by
        intro e he
        obtain rfl := List.mem_singleton.mp he
        exact (by decide : (Target.sample true).NamesFile "e".toList)
      opens := by
        intro e he
        obtain rfl := List.mem_singleton.mp he
        exact Zone.opensOnLines_sample records }
  apart := .inl (by decide +kernel)

/-- A call that gives the fixed zone a text or takes it away, without the check. -/
def toggle (isGiven : Bool) : Call :=
  { sample (if isGiven then [⟨.txt, ["x".toList], none, none⟩] else []) with isChecked := false }

/-- A day on which the zone changes a hundred times. -/
def busyDay : List Call := (List.replicate 50 [toggle false, toggle true]).flatten

theorem isOrdinary_toggle (isGiven : Bool) :
    (toggle isGiven).IsOrdinary (Target.sample true) (Target.sampleFiles []) :=
  have h := isOrdinary_sample (if isGiven then [⟨.txt, ["x".toList], none, none⟩] else [])
  ⟨h.day, h.serves, h.apart⟩

/-- Of all calls of a busy day the file was written, and with a text last. -/
theorem full_busyDay :
    let h := (start (Target.sampleFiles [])).run (Target.sample true) busyDay
    h.writes.count (⟨2026, 10, 19⟩, (Target.sample true).pathOf "e".toList) = 100 ∧
      ((Snapshot.read h.files ((Target.sample true).pathOf "e".toList)).outcome.toOption.bind
        (·.map (·.body)) : Option Text).all
          (some · ≠ ((Zone.sample []).render .standard none).toOption) = true := by
  decide +kernel

/-- A zone changes on one day; its second file has a greater serial than its first. On a day on which
it changes for the 101st time there is no plan, and the files stay as they are. -/
theorem serials_safe_sample :
    Advances ((Target.sample true).pathOf "e".toList)
      ((start (Target.sampleFiles [])).run (Target.sample true) [sample []]).files
      ((start (Target.sampleFiles [])).run (Target.sample true)
        [sample [], sample [⟨.txt, ["x".toList], none, none⟩]]).files ∧
    let h := (start (Target.sampleFiles [])).run (Target.sample true) busyDay
    h.writes.count (⟨2026, 10, 19⟩, (Target.sample true).pathOf "e".toList) = 100 ∧
      ((toggle false).synchronize (Target.sample true) h.files).outcome = .error (.plan
        (.exhausted ((Target.sample true).pathOf "e".toList) "20261019".toList)) ∧
      ((toggle false).synchronize (Target.sample true) h.files).files = h.files := by
  have hmissing : (Target.sampleFiles []).read ((Target.sample true).pathOf "e".toList) =
      .error .missing := by
    decide +kernel
  have hnone (bytes : List UInt8) :
      (Target.sampleFiles []).read ((Target.sample true).pathOf "e".toList) ≠ .ok bytes := by
    rw [hmissing]
    exact nofun
  constructor
  · refine ((serials_safe (by decide) hnone ?_ ?_).1 [sample []] [sample _] rfl).2
    · intro c hc
      rcases List.mem_cons.mp hc with rfl | hc
      · exact isOrdinary_sample _
      · obtain rfl := List.mem_singleton.mp hc
        exact isOrdinary_sample _
    · refine List.pairwise_pair.mpr ?_
      simp [sample, Day.Before]
  · intro h
    obtain ⟨hfull, hlast⟩ := full_busyDay
    have hcalls : ∀ c ∈ busyDay ++ [toggle false], ∃ isGiven, c = toggle isGiven := by
      simp [busyDay]
    obtain ⟨body, hbody⟩ : ∃ body, (Zone.sample []).render .standard none = .ok body :=
      ⟨_, Zone.render_eq_ok_iff.mpr ⟨_, _, rfl, rfl, rfl, rfl⟩⟩
    have hordinary : ∀ c ∈ busyDay ++ [toggle false],
        c.IsOrdinary (Target.sample true) (Target.sampleFiles []) := by
      intro c hc
      obtain ⟨isGiven, rfl⟩ := hcalls c hc
      exact isOrdinary_toggle isGiven
    have hdays : (busyDay ++ [toggle false]).Pairwise fun a b => ¬ b.today.Before a.today := by
      refine List.pairwise_of_forall_mem_list fun a ha b hb => ?_
      obtain ⟨_, rfl⟩ := hcalls a ha
      obtain ⟨_, rfl⟩ := hcalls b hb
      simp [toggle, sample, Day.Before]
    have hdiffers : ∀ snapshot, (Snapshot.read h.files
        ((Target.sample true).pathOf "e".toList)).outcome = .ok (some snapshot) →
          snapshot.body ≠ body := by
      intro snapshot hread
      change (((Snapshot.read h.files _).outcome.toOption.bind (·.map (·.body))).all _) = true
        at hlast
      rw [hread, hbody] at hlast
      simpa [Except.toOption] using hlast
    obtain ⟨why, houtcome, hfiles, hwhy⟩ := (serials_safe (by decide) hnone hordinary hdays).2.2
      busyDay (toggle false) [] rfl hfull [] _ [] body rfl hbody hdiffers
    obtain rfl := hwhy.resolve_right (by simp)
    exact ⟨hfull, houtcome, hfiles⟩

end History

end ZoneKeeper
