import Mathlib.Data.List.Perm.Basic
import ZoneKeeper.Proofs.Plan.Foreign

/-!
# A plan in its parts

The plan for a catalogue is the plans for its domains alone, put together in order, and it fails
with the first of them that fails. For one domain the order of the steps shows: what keeps a zone
from being rendered is found before the serials of a day are used up, neither matters where the file
stays as it is, and the check has the last word on what is staged and no word on anything else.
-/

namespace ZoneKeeper

open Text

/-- Plans put together, the first first. -/
def Plan.concat (parts : List Plan) : Plan where
  staged := parts.flatMap (·.staged)
  unchanged := parts.flatMap (·.unchanged)

namespace Target

variable {t : Target} {files : FileTree} {today : Day} {domain : Text} {z : Zone}
  {zones zones' : Catalogue} {p : Plan}

/-! ## The parts of a plan -/

/-- A plan is made of the plans for one domain each. -/
theorem outcome_plan_eq_concat (t : Target) (files : FileTree) (today : Day) (zones : Catalogue) :
    (t.plan files today zones).outcome =
      (zones.mapM fun e => (t.plan files today [e]).outcome).map Plan.concat := by
  induction zones with
  | nil => rfl
  | cons e zones ih =>
    obtain ⟨domain, z⟩ := e
    rw [outcome_plan_cons, List.mapM_cons, outcome_plan_singleton, ih]
    cases (t.decide files today domain z).outcome with
    | error why => rfl
    | ok decision =>
      cases zones.mapM fun e => (t.plan files today [e]).outcome with
      | error why => cases decision <;> rfl
      | ok parts => cases decision <;> rfl

theorem plan_eq_ok_iff_parts :
    (t.plan files today zones).outcome = .ok p ↔ ∃ parts,
      List.Forall₂ (fun e part => (t.plan files today [e]).outcome = .ok part) zones parts ∧
        Plan.concat parts = p := by
  rw [outcome_plan_eq_concat, map_eq_ok_iff]
  simp only [mapM_eq_ok_iff]

theorem exists_plan_iff :
    (∃ p, (t.plan files today zones).outcome = .ok p) ↔
      ∀ e ∈ zones, ∃ part, (t.plan files today [e]).outcome = .ok part := by
  constructor
  · rintro ⟨p, hp⟩ e he
    obtain ⟨parts, hparts, -⟩ := plan_eq_ok_iff_parts.mp hp
    have hall : (zones.mapM fun e => (t.plan files today [e]).outcome) = .ok parts :=
      mapM_eq_ok_iff.mpr hparts
    exact exists_ok_of_mem_mapM (f := fun e => (t.plan files today [e]).outcome) hall he
  · intro h
    obtain ⟨parts, hparts⟩ := exists_mapM_eq_ok h
    exact ⟨_, plan_eq_ok_iff_parts.mpr ⟨parts, mapM_eq_ok_iff.mp hparts, rfl⟩⟩

/-- A plan fails with the fault of the first domain for which there is no plan. -/
theorem plan_eq_error_iff_part {why : PlanFault} :
    (t.plan files today zones).outcome = .error why ↔
      ∃ (before after : Catalogue) (e : Text × Zone), zones = before ++ e :: after ∧
        (∀ e' ∈ before, ∃ part, (t.plan files today [e']).outcome = .ok part) ∧
        (t.plan files today [e]).outcome = .error why := by
  rw [plan_eq_error_iff]
  constructor
  · rintro ⟨before, after, domain, z, p, hzones, hp, hd⟩
    have hbefore := exists_plan_iff.mp ⟨p, plan_eq_ok_iff.mpr hp⟩
    exact ⟨before, after, (domain, z), hzones, hbefore, plan_singleton_eq_error_iff.mpr hd⟩
  · rintro ⟨before, after, ⟨domain, z⟩, hzones, hbefore, he⟩
    obtain ⟨p, hp⟩ := exists_plan_iff.mpr hbefore
    exact ⟨before, after, domain, z, p, hzones, plan_eq_ok_iff.mp hp,
      plan_singleton_eq_error_iff.mp he⟩

/-- Declared in another order, the domains have the same plan in another order. -/
theorem exists_plan_of_perm (hperm : zones'.Perm zones)
    (hp : (t.plan files today zones).outcome = .ok p) :
    ∃ p', (t.plan files today zones').outcome = .ok p' ∧ p'.staged.Perm p.staged ∧
      p'.unchanged.Perm p.unchanged := by
  obtain ⟨parts, hparts, rfl⟩ := plan_eq_ok_iff_parts.mp hp
  obtain ⟨parts', hparts', hsame⟩ := List.perm_comp_forall₂ hperm hparts
  exact ⟨_, plan_eq_ok_iff_parts.mpr ⟨parts', hparts', rfl⟩, hsame.flatMap_right _,
    hsame.flatMap_right _⟩

/-- The domains that are staged and those that are unchanged are the domains of the catalogue. -/
theorem Planned.perm_keys (h : Planned t files today zones p) :
    (p.staged.map (·.domain) ++ p.unchanged).Perm (zones.map Prod.fst) := by
  induction h with
  | nil => exact .nil
  | unchanged _ _ ih => exact List.perm_middle.trans (ih.cons _)
  | staged hd _ ih =>
    rw [List.map_cons, (decide_staged hd).1]
    exact ih.cons _

/-! ## The plan for one domain -/

/-- What keeps a zone from being rendered is found whatever the serial of its file. -/
theorem decide_of_render_error {existing : Option Snapshot} {why : RenderFault}
    (hread : (Snapshot.read files (t.pathOf domain)).outcome = .ok existing)
    (h : z.render t.layout none = .error why) :
    (t.decide files today domain z).outcome = .error (.render why) := by
  rw [outcome_decide, hread]
  cases existing with
  | some snapshot => rw [h]; rfl
  | none =>
    -- Over no file the first version is next, so the serial is there before the zone is rendered.
    have hserial : nextSerial (t.pathOf domain) none today = .ok (today.stamp ++ twoDigits 0) := rfl
    have hstage : (t.stage today domain z none).outcome = .error (.render why) := by
      rw [outcome_stage, hserial, ok_bind, Zone.render_eq_error h]
      rfl
    exact map_eq_error_iff.mpr hstage

theorem plan_singleton_eq_staged_iff {s : Staged} :
    (t.plan files today [(domain, z)]).outcome = .ok ⟨[s], []⟩ ↔
      (t.decide files today domain z).outcome = .ok (.staged s) := by
  rw [outcome_plan_singleton]
  cases (t.decide files today domain z).outcome with
  | error why => simp [Except.map]
  | ok decision => cases decision <;> simp [Except.map]

/-! ## With the check and without -/

/-- The target with the check or without it. -/
def checking (t : Target) (isChecked : Bool) : Target := { t with isChecked }

@[simp] theorem checking_pathOf (t : Target) (isChecked : Bool) (domain : Text) :
    (t.checking isChecked).pathOf domain = t.pathOf domain := rfl

@[simp] theorem checking_layout (t : Target) (isChecked : Bool) :
    (t.checking isChecked).layout = t.layout := rfl

@[simp] theorem checking_isChecked (t : Target) (isChecked : Bool) :
    (t.checking isChecked).isChecked = isChecked := rfl

@[simp] theorem checking_loader (t : Target) (isChecked : Bool) :
    (t.checking isChecked).loader = t.loader := rfl

/-- The check comes after everything else that staging does. -/
theorem outcome_stage_checking (t : Target) (today : Day) (domain : Text) (z : Zone)
    (existing : Option Snapshot) :
    ((t.checking true).stage today domain z existing).outcome =
      ((t.checking false).stage today domain z existing).outcome >>= fun s =>
        ((t.loader domain s.text).mapError (.unloadable domain)).map fun _ => s := by
  simp only [outcome_stage, checking_pathOf, checking_layout, checking_isChecked, checking_loader]
  cases nextSerial (t.pathOf domain) existing today with
  | error why => rfl
  | ok serial =>
    rw [ok_bind, ok_bind]
    cases z.render t.layout (some serial) with
    | error why => rfl
    | ok text =>
      show (t.loader domain text).mapError _ >>= _ =
        ((t.loader domain text).mapError _).map _
      cases t.loader domain text <;> rfl

/-- What becomes of a decision in the check. -/
def afterCheck (t : Target) (domain : Text) : Decision → Except PlanFault Decision
  | .unchanged => .ok .unchanged
  | .staged s => ((t.loader domain s.text).mapError (.unloadable domain)).map fun _ => .staged s

/-- With the check what is decided for a zone is what is decided without, unless what is staged does
not load. -/
theorem outcome_decide_checking (t : Target) (files : FileTree) (today : Day) (domain : Text)
    (z : Zone) :
    ((t.checking true).decide files today domain z).outcome =
      ((t.checking false).decide files today domain z).outcome >>= t.afterCheck domain := by
  have hstage (existing : Option Snapshot) :
      ((t.checking true).stage today domain z existing).outcome.map Decision.staged =
        ((t.checking false).stage today domain z existing).outcome.map Decision.staged >>=
          t.afterCheck domain := by
    rw [outcome_stage_checking]
    cases ((t.checking false).stage today domain z existing).outcome with
    | error why => rfl
    | ok s =>
      show (((t.loader domain s.text).mapError _).map _).map _ =
        ((t.loader domain s.text).mapError _).map _
      cases t.loader domain s.text <;> rfl
  simp only [outcome_decide, checking_pathOf, checking_layout]
  cases (Snapshot.read files (t.pathOf domain)).outcome with
  | error why => rfl
  | ok existing =>
    cases existing with
    | none => exact hstage none
    | some snapshot =>
      cases z.render t.layout none with
      | error why => rfl
      | ok body =>
        show (if body = snapshot.body then _ else _) = (if body = snapshot.body then _ else _) >>= _
        split
        · rfl
        · exact hstage (some snapshot)

/-! ## The whole and its parts -/

/-- What a plan for the domains of a catalogue has to do with the plans for each of them alone. -/
structure PlansByDomain (t : Target) (files : FileTree) (today : Day) (zones : Catalogue) :
    Prop where
  succeeds : (∃ p, (t.plan files today zones).outcome = .ok p) ↔
    ∀ e ∈ zones, ∃ part, (t.plan files today [e]).outcome = .ok part
  /-- The fault is that of the first domain in order for which there is no plan. -/
  fails : ∀ why, (t.plan files today zones).outcome = .error why ↔
    ∃ (before after : Catalogue) (e : Text × Zone), zones = before ++ e :: after ∧
      (∀ e' ∈ before, ∃ part, (t.plan files today [e']).outcome = .ok part) ∧
      (t.plan files today [e]).outcome = .error why
  parts : ∀ p, (t.plan files today zones).outcome = .ok p → ∃ parts : List Plan,
    List.Forall₂ (fun e part => (t.plan files today [e]).outcome = .ok part) zones parts ∧
      p.staged = parts.flatMap (·.staged) ∧ p.unchanged = parts.flatMap (·.unchanged)
  /-- Every domain is staged or unchanged, and that once. -/
  once : ∀ p, (t.plan files today zones).outcome = .ok p → (zones.map Prod.fst).Nodup →
    ∀ domain, domain ∈ zones.map Prod.fst ↔
      (p.staged.map (·.domain)).count domain + p.unchanged.count domain = 1
  reordered : ∀ p (zones' : Catalogue), (t.plan files today zones).outcome = .ok p →
    zones'.Perm zones → ∃ p', (t.plan files today zones').outcome = .ok p' ∧
      p'.staged.Perm p.staged ∧ p'.unchanged.Perm p.unchanged

/-- What goes before what in the plan for one domain. -/
structure PlansInOrder (t : Target) (files : FileTree) (today : Day) (domain : Text) (z : Zone) :
    Prop where
  /-- A zone without a nameserver is the fault, whatever serial its file carries. -/
  nameserver : ∀ existing, (Snapshot.read files (t.pathOf domain)).outcome = .ok existing →
    z.recordsOf .ns = [] →
      (t.plan files today [(domain, z)]).outcome = .error (.render (.noNameserver z.name))
  /-- A file that says the same stays as it is, whatever serial it carries. -/
  same : ∀ s, (Snapshot.read files (t.pathOf domain)).outcome = .ok (some s) →
    z.render t.layout none = .ok s.body →
      (t.plan files today [(domain, z)]).outcome = .ok ⟨[], [domain]⟩
  /-- The check lets pass what loads and refuses what does not. -/
  staged : ∀ s, ((t.checking false).plan files today [(domain, z)]).outcome = .ok ⟨[s], []⟩ →
    (∀ count, t.loader domain s.text = .ok count →
      ((t.checking true).plan files today [(domain, z)]).outcome = .ok ⟨[s], []⟩) ∧
    ∀ why, t.loader domain s.text = .error why →
      ((t.checking true).plan files today [(domain, z)]).outcome = .error (.unloadable domain why)
  /-- The check has no part in anything else. -/
  otherwise : (∀ s, ((t.checking false).plan files today [(domain, z)]).outcome ≠ .ok ⟨[s], []⟩) →
    ((t.checking true).plan files today [(domain, z)]).outcome =
      ((t.checking false).plan files today [(domain, z)]).outcome

theorem plansByDomain (t : Target) (files : FileTree) (today : Day) (zones : Catalogue) :
    t.PlansByDomain files today zones := by
  constructor
  case succeeds => exact exists_plan_iff
  case fails => exact fun why => plan_eq_error_iff_part
  case parts =>
    intro p hp
    obtain ⟨parts, hparts, rfl⟩ := plan_eq_ok_iff_parts.mp hp
    exact ⟨parts, hparts, rfl, rfl⟩
  case once =>
    intro p hp hkeys domain
    have hperm := (plan_eq_ok_iff.mp hp).perm_keys
    rw [← List.count_append, hperm.count_eq, hkeys.count]
    split <;> simp_all
  case reordered => exact fun p zones' hp hperm => exists_plan_of_perm hperm hp

theorem plansInOrder (t : Target) (files : FileTree) (today : Day) (domain : Text) (z : Zone) :
    t.PlansInOrder files today domain z := by
  constructor
  case nameserver =>
    intro existing hread hnone
    rw [outcome_plan_singleton, decide_of_render_error hread (Zone.render_of_noNameserver hnone)]
    rfl
  case same =>
    intro s hread hbody
    rw [plan_singleton_eq_unchanged_iff, decide_eq_unchanged_iff]
    exact ⟨s, hread, hbody⟩
  case staged =>
    intro s hs
    rw [plan_singleton_eq_staged_iff] at hs
    rw [outcome_plan_singleton, outcome_decide_checking, hs, ok_bind, afterCheck]
    refine ⟨fun count hcount => ?_, fun why hwhy => ?_⟩
    · rw [hcount]
      rfl
    · rw [hwhy]
      rfl
  case otherwise =>
    intro h
    rw [outcome_plan_singleton, outcome_plan_singleton, outcome_decide_checking]
    cases hd : ((t.checking false).decide files today domain z).outcome with
    | error why => rfl
    | ok decision =>
      cases decision with
      | unchanged => rfl
      | staged s => exact absurd (plan_singleton_eq_staged_iff.mpr hd) (h s)

/-- A plan is the plans for its domains alone put together, and it fails with the first of them that
fails; in each of them a missing nameserver goes before serials that are used up, a file that says
the same before both, and the check after everything. -/
theorem plan_partition (t : Target) (files : FileTree) (today : Day) (zones : Catalogue) :
    t.PlansByDomain files today zones ∧
      ∀ domain z, t.PlansInOrder files today domain z :=
  ⟨t.plansByDomain files today zones, t.plansInOrder files today⟩

/-- Three domains: the file of the first says the same and carries the last serial of the day, the
second has no file, and the third has no nameserver. There is a plan for the first two and none for
all three. -/
theorem plan_partition_sample :
    let lines (serial : List String) := Zone.unlines ((["$TTL 1d", "@ IN SOA n h.e. ("] ++ serial ++
      ["\t\t\t\t\t\t\t3h\t\t\t; Refresh", "\t\t\t\t\t\t\t1h\t\t\t; Retry",
      "\t\t\t\t\t\t\t1w\t\t\t; Expire", "\t\t\t\t\t\t\t1h )\t\t; Negative Cache TTL", "",
      "@\t\t\t\t\t\t\tNS\t\t\tn"]).map String.toList)
    let file := lines ["\t\t\t\t\t\t\t2026101999\t; Serial"]
    let files := sampleFiles [("db.e".toList, file), ("db.g".toList, file)]
    let s : Staged := ⟨"f".toList, Path.ofText "zones/db.f".toList, "2026101900".toList,
      lines ["\t\t\t\t\t\t\t2026101900\t; Serial"]⟩
    let bare : Zone := { Zone.sample [] with records := [] }
    let first := [("e".toList, Zone.sample []), ("f".toList, Zone.sample [])]
    ((sample true).plan files ⟨2026, 10, 19⟩ first).outcome = .ok ⟨[s], ["e".toList]⟩ ∧
      ((sample true).plan files ⟨2026, 10, 19⟩ (first ++ [("g".toList, bare)])).outcome =
        .error (.render (.noNameserver "e".toList)) := by
  intro lines file files s bare first
  have hread (name : Text) (h : name = "e".toList ∨ name = "g".toList) :
      (Snapshot.read files ((sample true).pathOf name)).outcome =
        .ok (some ⟨(sample true).pathOf name, lines [], ⟨"20261019".toList, 99⟩⟩) := by
    rcases h with rfl | rfl <;> decide +kernel
  have hsame := (plan_partition (sample true) files ⟨2026, 10, 19⟩ first).2 "e".toList
    (Zone.sample []) |>.same _ (hread _ (.inl rfl)) (by decide +kernel)
  have hloads := (plan_partition (sample true) files ⟨2026, 10, 19⟩ first).2 "f".toList
    (Zone.sample []) |>.staged s (by decide +kernel) |>.1 2 (by decide +kernel)
  have hbare := (plan_partition (sample true) files ⟨2026, 10, 19⟩ first).2 "g".toList bare
    |>.nameserver _ (hread _ (.inr rfl)) rfl
  have hparts : ∀ e ∈ first,
      ∃ part, ((sample true).plan files ⟨2026, 10, 19⟩ [e]).outcome = .ok part := by
    intro e he
    rcases List.mem_cons.mp he with rfl | he
    · exact ⟨_, hsame⟩
    · obtain rfl := List.mem_singleton.mp he
      exact ⟨_, hloads⟩
  constructor
  · obtain ⟨p, hp⟩ := (plan_partition (sample true) files _ _).1.succeeds.mpr hparts
    obtain ⟨parts, hall, hstaged, hunchanged⟩ := (plan_partition _ _ _ _).1.parts p hp
    obtain ⟨part, rest, he, hrest, rfl⟩ := List.forall₂_cons_left_iff.mp hall
    obtain ⟨part', rest', hf, hnil, rfl⟩ := List.forall₂_cons_left_iff.mp hrest
    obtain rfl := List.forall₂_nil_left_iff.mp hnil
    obtain rfl := Except.ok.inj (hsame.symm.trans he)
    obtain rfl := Except.ok.inj (hloads.symm.trans hf)
    rw [hp]
    exact congrArg Except.ok (congrArg₂ Plan.mk hstaged hunchanged)
  · exact ((plan_partition (sample true) files _ _).1.fails _).mpr
      ⟨first, [], _, rfl, hparts, hbare⟩

/-- A start of authority at another name than that of the zone keeps a text from loading, but the
fault is none of those for which a text is refused. -/
theorem plan_checking_misplaced :
    let z := Zone.sample [⟨.ns, ["n\nx SOA n h 1 1 1 1 1".toList], none, none⟩]
    let outcome (isChecked : Bool) :=
      ((sample isChecked).plan (sampleFiles []) ⟨2026, 10, 19⟩ [("e".toList, z)]).outcome
    (∃ s, outcome false = .ok ⟨[s], []⟩ ∧
      MasterFile.check "e".toList s.text = .error .misplacedAuthority) ∧
    ∀ reason, outcome true ≠ .error (.unloadable "e".toList (.rejected reason)) := by
  intro z outcome
  constructor
  · refine ⟨⟨"e".toList, Path.ofText "zones/db.e".toList, "2026101900".toList,
      Zone.unlines (["$TTL 1d", "@ IN SOA n h.e. (", "\t\t\t\t\t\t\t2026101900\t; Serial",
        "\t\t\t\t\t\t\t3h\t\t\t; Refresh", "\t\t\t\t\t\t\t1h\t\t\t; Retry",
        "\t\t\t\t\t\t\t1w\t\t\t; Expire", "\t\t\t\t\t\t\t1h )\t\t; Negative Cache TTL", "",
        "@\t\t\t\t\t\t\tNS\t\t\tn", "@\t\t\t\t\t\t\tNS\t\t\tn", "x SOA n h 1 1 1 1 1"].map
          String.toList)⟩, ?_, ?_⟩
    · decide +kernel
    · decide +kernel
  · have htrue : outcome true = .error (.unloadable "e".toList .misplacedAuthority) := by
      decide +kernel
    rw [htrue]
    exact nofun

end Target

end ZoneKeeper
