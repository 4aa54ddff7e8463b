import ZoneKeeper.Command.Run
import ZoneKeeper.Proofs.Command.Arguments
import ZoneKeeper.Proofs.Plan.Placement
import ZoneKeeper.Proofs.Plan.Writing

/-!
# What a dry run says of the real one

A run comes to a plan before it matters whether it is a dry one. If there is none, both runs end in
the same way and write nothing. If there is one, the dry run says what is staged, and the real run
writes it in the same order, up to the first file that cannot be written.

A template may draw lots, and then two runs need not make the same of it. So it is asked that they
do; without a template there is nothing to ask.
-/

namespace ZoneKeeper.Command

open Text

variable {tools dryTools : Tools} {w : World} {a : Arguments} {plan : Plan} {s : Staged}

/-! ## Runs that make the same of zones -/

/-- Whether the tools of two runs load zones alike and, by the settings of a world, make the same
texts of them. -/
structure Tools.Agree (w : World) (tools tools' : Tools) : Prop where
  loader : tools.loader = tools'.loader
  render : ∀ s, Settings.ofEnvironment w.environment = .ok s →
    s.render tools.engine w.files = s.render tools'.engine w.files

theorem Tools.Agree.refl (w : World) (tools : Tools) : Tools.Agree w tools tools :=
  ⟨rfl, fun _ _ => rfl⟩

/-- Without a folder for a template, zones have the layout of the library. -/
theorem Tools.Agree.of_noTemplate (hloader : dryTools.loader = tools.loader)
    (h : (w.environment.get? "TEMPLATES_DIR").getD [] = []) : Tools.Agree w dryTools tools where
  loader := hloader
  render s hs := by
    have hfolder : s.layoutFolder = none := by
      unfold Settings.ofEnvironment at hs
      split at hs
      · cases hs
      · cases hs
        cases hvalue : w.environment.get? "TEMPLATES_DIR" with
        | none => simp [hvalue]
        | some t => simpa [hvalue] using h
    funext z serial
    simp only [Settings.render, hfolder]

theorem runWith_congr (h : Tools.Agree w dryTools tools) (a : Arguments) :
    runWith dryTools w a = runWith tools w a := by
  cases hprepare : prepare w a with
  | error failure => simp only [runWith, hprepare]
  | ok settings =>
    obtain ⟨s, threshold⟩ := settings
    obtain ⟨s, hs, hlevel⟩ := bind_eq_ok_iff.mp hprepare
    obtain ⟨_, -, ⟨⟩⟩ := bind_eq_ok_iff.mp hlevel
    have hplan : makePlan dryTools w a s = makePlan tools w a s := by
      simp only [makePlan, h.loader, h.render s (mapError_eq_ok_iff.mp hs)]
    simp only [runWith, hprepare, hplan]

/-! ## Runs with and without a plan -/

/-- Whether a run comes to a plan. -/
def HasPlan (tools : Tools) (w : World) (a : Arguments) (plan : Plan) : Prop :=
  ∃ s threshold, prepare w a = .ok (s, threshold) ∧ (makePlan tools w a s).outcome = .ok plan

/-- Without a plan a run says why and leaves the files as they are, dry or not. -/
theorem hasPlan_or_fails (tools : Tools) (w : World) (a : Arguments) :
    (∃ plan, HasPlan tools w a plan) ∨ ∃ (failure : Failure) (errors : List Text),
      ∀ isDry, runWith tools w { a with isDry } = ⟨failure.exit, [], errors, w.files⟩ := by
  cases hprepare : prepare w a with
  | error failure =>
    refine .inr ⟨failure, [failure.line], fun isDry => ?_⟩
    change prepare w { a with isDry } = _ at hprepare
    simp only [runWith, hprepare]
  | ok settings =>
    obtain ⟨s, threshold⟩ := settings
    cases hplan : (makePlan tools w a s).outcome with
    | error failure =>
      refine .inr ⟨failure, journalLines w.time threshold (makePlan tools w a s).journal ++
        [failure.line], fun isDry => ?_⟩
      change prepare w { a with isDry } = _ at hprepare
      change (makePlan tools w { a with isDry } s).outcome = _ at hplan
      simp only [runWith, hprepare, hplan]
      rfl
    | ok plan => exact .inl ⟨plan, s, threshold, hprepare, hplan⟩

theorem Failure.exit_ne_zero (failure : Failure) : failure.exit ≠ 0 := by
  cases failure <;> simp [Failure.exit]

/-- A dry run with a plan names what is staged. -/
theorem runWith_dry (h : HasPlan tools w a plan) : ∃ errors, runWith tools w a.dry =
    ⟨0, plan.staged.map (zoneLine "Would write") ++ upToDate plan, errors, w.files⟩ := by
  obtain ⟨s, threshold, hprepare, hplan⟩ := h
  change prepare w a.dry = _ at hprepare
  change (makePlan tools w a.dry s).outcome = _ at hplan
  have hdry : a.dry.isDry = true := rfl
  refine ⟨journalLines w.time threshold (makePlan tools w a.dry s).journal, ?_⟩
  simp only [runWith, hprepare, hplan, hdry, if_true]

/-- What a run makes of the files and says, if it writes these zones of a plan. -/
structure Writes (w : World) (plan : Plan) (written : List Staged) (real : Outcome) : Prop where
  order : written <+: plan.staged
  complete : real.exit = 0 ↔ written = plan.staged
  output : real.output =
    written.map (zoneLine "Written") ++ if real.exit = 0 then upToDate plan else []
  here : real.files.here = w.files.here
  /-- Of several zones that were written to one file the last one is in it. -/
  holds : ∀ s ∈ written, ∃ l last, w.files.locate s.path = .ok l ∧
    lastAt? w.files l written = some last ∧
      real.files.read s.path = .ok (Utf8.encode last.text)
  others : ∀ l, (∀ s ∈ written, w.files.locate s.path ≠ .ok l) →
    real.files.get? l = w.files.get? l

/-- A real run with a plan carries it out. -/
theorem writes_runWith (hreal : a.isDry = false) (h : HasPlan tools w a plan) :
    Writes w plan (plan.apply w.files).written (runWith tools w a) := by
  obtain ⟨s, threshold, hprepare, hplan⟩ := h
  have hrun : (runWith tools w a).files = (plan.apply w.files).files ∧
      ((runWith tools w a).exit = 0 ↔ (plan.apply w.files).fault = none) ∧
      (runWith tools w a).output = (plan.apply w.files).written.map (zoneLine "Written") ++
        if (plan.apply w.files).fault = none then upToDate plan else [] := by
    simp only [runWith, hprepare, hplan, hreal]
    cases hfault : (plan.apply w.files).fault with
    | none => simp
    | some fault => simp [Failure.exit_ne_zero]
  obtain ⟨hfiles, hexit, houtput⟩ := hrun
  constructor
  case order => exact written_prefix_staged w.files plan.staged
  case complete => exact hexit.trans fault_writeAll_eq_none_iff
  case output => simp only [houtput, hexit]
  case here =>
    rw [hfiles]
    exact here_writeAll w.files plan.staged
  case holds =>
    intro s hs
    obtain ⟨l, hl⟩ := exists_locate_of_mem_written hs
    cases hlast : lastAt? w.files l (plan.apply w.files).written with
    | none => exact absurd hl (lastAt?_eq_none_iff.mp hlast s hs)
    | some last =>
      refine ⟨l, last, hl, hlast, ?_⟩
      rw [hfiles]
      refine FileTree.read_eq_ok_iff.mpr ⟨l, locate_writeAll.mpr hl, ?_⟩
      rw [Plan.apply] at hlast ⊢
      rw [get?_writeAll_eq, hlast]
  case others =>
    intro l hl
    rw [hfiles]
    exact get?_writeAll hl

/-! ## The line that nothing was to be written -/

theorem mem_upToDate_iff :
    "All zone files up to date.".toList ∈ upToDate plan ↔ plan.staged = [] := by
  rw [upToDate, Plan.hasChanges]
  cases plan.staged <;> simp

/-- No line on a zone is the line that says that there is none. -/
theorem not_mem_zoneLines {verb : String} (hverb : verb ∈ ["Would write", "Written"])
    (staged : List Staged) :
    "All zone files up to date.".toList ∉ staged.map (zoneLine verb) := by
  intro hmem
  obtain ⟨s, -, hs⟩ := List.mem_map.mp hmem
  have hhead := congrArg List.head? hs
  rcases List.mem_cons.mp hverb with rfl | hverb
  · simp [zoneLine] at hhead
  · obtain rfl := List.mem_singleton.mp hverb
    simp [zoneLine] at hhead

/-! ## Both runs -/

/-- A dry run changes no file and predicts the real run from the same state, if both make the same of
zones: if it fails, the real run fails in the same way and changes no file either; and if it names
zones to write, the real run writes these in order, and all of them exactly if it succeeds. -/
theorem run_predicted (hsame : Tools.Agree w dryTools tools) {line dryLine : List Text}
    (h : Request.ofTexts line = .ok (.run a)) (hreal : a.isDry = false)
    (hdry : Request.ofTexts dryLine = (Request.ofTexts line).map Request.dry) :
    let dry := run w dryLine dryTools
    let real := run w line tools
    dry.files = w.files ∧
    (dry.exit ≠ 0 → real = dry ∧ dry.output = []) ∧
    (dry.exit = 0 → ∃ plan written, HasPlan tools w a plan ∧
      dry.output = plan.staged.map (zoneLine "Would write") ++ upToDate plan ∧
      Writes w plan written real ∧
      ∀ o ∈ [dry, real],
        "All zone files up to date.".toList ∈ o.output ↔ o.exit = 0 ∧ plan.staged = []) := by
  intro dry real
  have hrun : real = runWith tools w a := by
    show run w line tools = _
    rw [run, h]
  have hrunDry : dry = runWith tools w a.dry := by
    show run w dryLine dryTools = _
    rw [run, hdry, h]
    exact runWith_congr hsame a.dry
  rw [hrun, hrunDry]
  rcases hasPlan_or_fails tools w a with ⟨plan, hplan⟩ | ⟨failure, errors, hfails⟩
  · obtain ⟨errors, hdry⟩ := runWith_dry hplan
    have hwrites := writes_runWith hreal hplan
    refine ⟨by rw [hdry], fun hne => absurd (by rw [hdry]) hne, fun _ =>
      ⟨plan, _, hplan, by rw [hdry], hwrites, ?_⟩⟩
    simp only [List.forall_mem_cons, List.not_mem_nil, false_implies, implies_true, and_true]
    constructor
    · rw [hdry, List.mem_append, or_iff_right (not_mem_zoneLines (by simp) _), mem_upToDate_iff]
      simp
    · rw [hwrites.output, List.mem_append, or_iff_right (not_mem_zoneLines (by simp) _)]
      split
      · next hzero => rw [mem_upToDate_iff, and_iff_right hzero]
      · next hne => simp [hne]
  · have hdryFails : runWith tools w a.dry = ⟨failure.exit, [], errors, w.files⟩ := hfails true
    have hrealFails : runWith tools w a = ⟨failure.exit, [], errors, w.files⟩ := hfails a.isDry
    rw [hdryFails, hrealFails]
    exact ⟨rfl, fun _ => ⟨rfl, rfl⟩, fun hzero => absurd hzero failure.exit_ne_zero⟩

/-- A declaration of two zones, a template for their files, a folder for these, and in the place of
the second file a folder that the plan does not look into. -/
def sampleWorld : World where
  environment := [("TEMPLATES_DIR".toList, "t".toList)]
  today := ⟨⟨2026, 10, 19⟩, ⟨2026, 10, 19⟩⟩
  files := ⟨[], [(["d.xml".toList], .file (Utf8.encode (Target.sampleDocument ["e", "f"]))),
    (["t".toList], .folder), (["t".toList, templateName], .file (Utf8.encode "; kept\r\n".toList)),
    (["zones".toList], .folder), (["zones".toList, "db.f".toList], .folder)]⟩
  time := "2026-10-19 00:00:00,000".toList

/-- Both zones are announced; the first is written as the template has it, and the second is not. -/
theorem run_predicted_sample :
    let line := ["-cd.xml".toList, "-tzones".toList]
    let dry := run sampleWorld ("--dry-run".toList :: line)
    let real := run sampleWorld line
    dry.exit = 0 ∧ real.exit = 2 ∧ ∃ plan written,
      HasPlan .standard sampleWorld ⟨"d.xml".toList, some "zones".toList, false, none⟩ plan ∧
      dry.output = ["Would write zone file 'zones/db.e'".toList,
        "Would write zone file 'zones/db.f'".toList] ∧
      real.output = ["Written zone file 'zones/db.e'".toList] ∧
      real.files.read (Path.ofText "zones/db.e".toList) = .ok (Utf8.encode "; kept\n".toList) ∧
      Writes sampleWorld plan written real := by
  intro line dry real
  have hline : Request.ofTexts line =
      .ok (.run ⟨"d.xml".toList, some "zones".toList, false, none⟩) := rfl
  obtain ⟨hdryExit, hdryOutput, hrealExit, hrealOutput, hrealFile⟩ :
      dry.exit = 0 ∧ dry.output = ["Would write zone file 'zones/db.e'".toList,
          "Would write zone file 'zones/db.f'".toList] ∧
        real.exit = 2 ∧ real.output = ["Written zone file 'zones/db.e'".toList] ∧
        real.files.read (Path.ofText "zones/db.e".toList) = .ok (Utf8.encode "; kept\n".toList) := by
    decide +kernel
  obtain ⟨-, -, hsuccess⟩ :=
    run_predicted (.refl sampleWorld .standard) hline rfl (ofTexts_cons_dryRun line)
  obtain ⟨plan, written, hplan, -, hwrites, -⟩ := hsuccess hdryExit
  exact ⟨hdryExit, hrealExit, plan, written, hplan, hdryOutput, hrealOutput, hrealFile, hwrites⟩

end ZoneKeeper.Command
