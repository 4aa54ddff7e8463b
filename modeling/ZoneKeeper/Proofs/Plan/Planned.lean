import Mathlib.Data.List.Nodup
import ZoneKeeper.Proofs.Plan.Decision
import ZoneKeeper.Proofs.Plan.Paths
import ZoneKeeper.Proofs.Serial.Order
import ZoneKeeper.Proofs.Zone.SerialLine

/-!
# The zones of a plan

Every domain of a catalogue is unchanged or staged in its plan. The zones that are staged are of
different domains, so their files are apart, and the file of each is going to be its zone with one
serial line, which carries the day and the next version.
-/

namespace ZoneKeeper.Target

open Text

variable {t : Target} {files : FileTree} {today : Day} {domain : Text} {z : Zone}
  {zones : Catalogue} {p : Plan} {s : Staged}

/-! ## The domains of a plan -/

theorem Planned.mem_keys_of_mem_unchanged (h : Planned t files today zones p)
    (hmem : domain ∈ p.unchanged) : domain ∈ zones.map Prod.fst := by
  induction h with
  | nil => cases hmem
  | unchanged _ _ ih =>
    rcases List.mem_cons.mp hmem with rfl | hmem
    · exact List.mem_cons_self
    · exact List.mem_cons_of_mem _ (ih hmem)
  | staged _ _ ih => exact List.mem_cons_of_mem _ (ih hmem)

/-- Of domains that are all different those are unchanged for which that is decided. -/
theorem Planned.mem_unchanged_iff (h : Planned t files today zones p)
    (hkeys : (zones.map Prod.fst).Nodup) (hmem : (domain, z) ∈ zones) :
    domain ∈ p.unchanged ↔ (t.decide files today domain z).outcome = .ok .unchanged := by
  induction h with
  | nil => cases hmem
  | unchanged hd _ ih =>
    rw [List.map_cons, List.nodup_cons] at hkeys
    rcases List.mem_cons.mp hmem with heq | hrest
    · cases heq
      simp [hd]
    · have hdomain := List.mem_map_of_mem (f := Prod.fst) hrest
      have hne := ne_of_mem_of_not_mem hdomain hkeys.1
      rw [List.mem_cons, or_iff_right hne]
      exact ih hkeys.2 hrest
  | staged hd hp ih =>
    rw [List.map_cons, List.nodup_cons] at hkeys
    rcases List.mem_cons.mp hmem with heq | hrest
    · cases heq
      have hnot : domain ∉ _ := fun hc => hkeys.1 (hp.mem_keys_of_mem_unchanged hc)
      simp [hd, hnot]
    · exact ih hkeys.2 hrest

/-- What is decided for a domain is in the plan. -/
theorem Planned.decided (h : Planned t files today zones p) (hmem : (domain, z) ∈ zones) :
    (t.decide files today domain z).outcome = .ok .unchanged ∨
      ∃ s ∈ p.staged, (t.decide files today domain z).outcome = .ok (.staged s) := by
  induction h with
  | nil => cases hmem
  | unchanged hd _ ih =>
    rcases List.mem_cons.mp hmem with heq | hrest
    · cases heq
      exact .inl hd
    · exact ih hrest
  | staged hd _ ih =>
    rcases List.mem_cons.mp hmem with heq | hrest
    · cases heq
      exact .inr ⟨_, List.mem_cons_self, hd⟩
    · exact (ih hrest).imp_right fun ⟨s, hs, hd⟩ => ⟨s, List.mem_cons_of_mem _ hs, hd⟩

theorem Planned.exists_of_mem_staged (h : Planned t files today zones p) (hs : s ∈ p.staged) :
    ∃ z, (s.domain, z) ∈ zones ∧ (t.decide files today s.domain z).outcome = .ok (.staged s) := by
  induction h with
  | nil => cases hs
  | unchanged _ _ ih =>
    obtain ⟨z, hz, hd⟩ := ih hs
    exact ⟨z, List.mem_cons_of_mem _ hz, hd⟩
  | @staged domain z zones p s' hd _ ih =>
    rcases List.mem_cons.mp hs with rfl | hs
    · obtain rfl := (decide_staged hd).1
      exact ⟨z, List.mem_cons_self, hd⟩
    · obtain ⟨z, hz, hd⟩ := ih hs
      exact ⟨z, List.mem_cons_of_mem _ hz, hd⟩

/-- What is staged for a domain is what is decided for the zone that it is declared with. -/
theorem Planned.decide_of_mem_staged (h : Planned t files today zones p)
    (hkeys : (zones.map Prod.fst).Nodup) (hs : s ∈ p.staged) (hmem : (s.domain, z) ∈ zones) :
    (t.decide files today s.domain z).outcome = .ok (.staged s) := by
  obtain ⟨z', hz', hd⟩ := h.exists_of_mem_staged hs
  obtain ⟨-, rfl⟩ := Prod.mk.inj (List.inj_on_of_nodup_map hkeys hmem hz' rfl)
  exact hd

theorem Planned.domains_sublist (h : Planned t files today zones p) :
    (p.staged.map (·.domain)).Sublist (zones.map Prod.fst) := by
  induction h with
  | nil => exact List.nil_sublist _
  | unchanged _ _ ih => exact ih.cons _
  | @staged domain z zones p s hd _ ih =>
    obtain rfl := (decide_staged hd).1
    exact ih.cons_cons _

/-- If every domain is unchanged, the plan says so of all of them and stages nothing. -/
theorem planned_of_unchanged
    (h : ∀ e ∈ zones, (t.decide files today e.1 e.2).outcome = .ok .unchanged) :
    Planned t files today zones ⟨[], zones.map Prod.fst⟩ := by
  induction zones with
  | nil => exact .nil
  | cons e zones ih =>
    exact .unchanged (h e List.mem_cons_self) (ih fun e he => h e (List.mem_cons_of_mem _ he))

/-! ## The files of a plan -/

/-- A catalogue whose domains are all different and make file names, and whose zones open on
lines. -/
structure Serves (t : Target) (zones : Catalogue) : Prop where
  keys : (zones.map Prod.fst).Nodup
  names : ∀ e ∈ zones, t.NamesFile e.1
  opens : ∀ e ∈ zones, e.2.OpensOnLines

/-- Whether no two domains of a catalogue share a file: the target has a folder, or all paths are
different. -/
def KeepsApart (t : Target) (files : FileTree) (zones : Catalogue) : Prop :=
  files.isFolder t.folder = .ok true ∨ (zones.map fun e => t.pathOf e.1).Nodup

theorem Serves.apart (h : t.Serves zones) (hapart : t.KeepsApart files zones) {e e' : Text × Zone}
    (he : e ∈ zones) (he' : e' ∈ zones) (hne : e.1 ≠ e'.1) :
    files.Apart (t.pathOf e.1) (t.pathOf e'.1) := by
  refine apart_pathOf (h.names e he) (h.names e' he') hne ?_
  refine hapart.imp_right fun hpaths hsame => hne ?_
  exact congrArg Prod.fst (List.inj_on_of_nodup_map hpaths he he' hsame)

/-- The files of the staged zones are apart from each other. -/
theorem Planned.pairwise_apart (h : Planned t files today zones p) (hserves : t.Serves zones)
    (hapart : t.KeepsApart files zones) :
    p.staged.Pairwise fun a b => files.Apart a.path b.path := by
  have hdomains : (p.staged.map (·.domain)).Nodup := hserves.keys.sublist h.domains_sublist
  refine (List.pairwise_map.mp hdomains).imp_of_mem fun ha hb hne => ?_
  obtain ⟨z, hz, hd⟩ := h.exists_of_mem_staged ha
  obtain ⟨z', hz', hd'⟩ := h.exists_of_mem_staged hb
  have hab := hserves.apart hapart hz hz' hne
  rwa [(decide_staged hd).2, (decide_staged hd').2]

/-! ## What is staged -/

/-- The file that is staged for a domain is its zone with one serial line, which carries the day and
the next version of the file that is there. -/
theorem decide_staged_spec (hday : today.IsDate) (hopen : z.OpensOnLines)
    (h : (t.decide files today domain z).outcome = .ok (.staged s)) :
    ∃ existing body, (Snapshot.read files (t.pathOf domain)).outcome = .ok existing ∧
      nextVersion existing today ≤ Serial.maxVersion ∧
      s.serial = today.stamp ++ twoDigits (nextVersion existing today) ∧
      z.render t.layout none = .ok body ∧
      Serial.cut? s.text = some ⟨body, ⟨today.stamp, nextVersion existing today⟩⟩ := by
  obtain ⟨existing, hread, -, hstage⟩ := decide_eq_staged_iff.mp h
  obtain ⟨hserial, htext, -⟩ := stage_eq_ok_iff.mp hstage
  rw [nextSerial_eq] at hserial
  split at hserial
  · next hversion =>
    have hserial := (Except.ok.inj hserial).symm
    rw [hserial] at htext
    obtain ⟨body, hbody⟩ := Zone.exists_render htext none
    have hcut := Zone.cut?_render_version hday (Nat.lt_succ_of_le hversion) hopen hbody htext
    exact ⟨existing, body, hread, hversion, hserial, hbody, hcut⟩
  · cases hserial

end ZoneKeeper.Target
