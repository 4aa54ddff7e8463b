import ZoneKeeper.Proofs.Plan.Detection
import ZoneKeeper.Proofs.Zone.Published

/-!
# No update is lost

A zone file says everything that a zone publishes, so a file that was made from a zone is taken for
unchanged only by zones that publish the same.
-/

namespace ZoneKeeper.Target

open Text

variable {z z' : Zone}

/-- A zone whose file is unchanged publishes what the zone does that the file was made from. -/
theorem published_eq_of_decide_eq_unchanged {t : Target} {files : FileTree} {today : Day}
    {domain serial text : Text} {layout : Layout} {bytes : List UInt8} (hz : z.IsPublishable)
    (hz' : z'.IsPublishable) (hserial : '\n' ∉ serial)
    (hread : files.read (t.pathOf domain) = .ok bytes) (hdecode : Utf8.decode bytes = .ok text)
    (htext : z'.render layout (some serial) = .ok text)
    (h : (t.decide files today domain z).outcome = .ok .unchanged) :
    z.published = z'.published := by
  obtain ⟨body', hbody'⟩ := Zone.exists_render htext none
  obtain ⟨snapshot, hsnapshot, hbody⟩ := decide_eq_unchanged_iff.mp h
  obtain ⟨bytes', text', cut, hread', hdecode', hcut, rfl⟩ := Snapshot.read_eq_some_iff.mp hsnapshot
  obtain rfl := Except.ok.inj (hread.symm.trans hread')
  obtain rfl := Except.ok.inj (hdecode.symm.trans hdecode')
  rcases Zone.cut?_render hz'.isLineFree hserial hbody' htext with hnone | ⟨mark, hsome⟩
  · rw [hnone] at hcut
    cases hcut
  · obtain rfl := Option.some.inj (hsome.symm.trans hcut)
    exact Zone.published_eq_of_render_eq hz hz' (.inl rfl) hbody hbody'

/-- No update is lost. Two zones with the same zone file agree in all that a zone file says: the
times, the mailbox, the primary nameserver and the records in the order in which they are written.
So a plan never lists a domain as unchanged whose file was made from a zone that publishes something
else. -/
theorem plan_loses_no_update (hz : z.IsPublishable) (hz' : z'.IsPublishable) :
    (∀ layout layout' serial serial' text,
      serial = serial' ∨ (∀ s ∈ serial, '\n' ∉ s) ∧ (∀ s ∈ serial', '\n' ∉ s) →
      z.render layout serial = .ok text → z'.render layout' serial' = .ok text →
        z.published = z'.published) ∧
    ∀ (t : Target) files today (zones : Catalogue) plan domain bytes layout serial text,
      (zones.map Prod.fst).Nodup → (domain, z) ∈ zones →
      (t.plan files today zones).outcome = .ok plan →
      files.read (t.pathOf domain) = .ok bytes → Utf8.decode bytes = .ok text →
      '\n' ∉ serial → z'.render layout (some serial) = .ok text →
      z.published ≠ z'.published → domain ∉ plan.unchanged := by
  refine ⟨fun layout layout' serial serial' text hserial h h' =>
    Zone.published_eq_of_render_eq hz hz' hserial h h', ?_⟩
  intro t files today zones plan domain bytes layout serial text hkeys hmem hplan hread hdecode
    hserial htext hne hunchanged
  have hdecided := ((plan_eq_ok_iff.mp hplan).mem_unchanged_iff hkeys hmem).mp hunchanged
  exact hne (published_eq_of_decide_eq_unchanged hz hz' hserial hread hdecode htext hdecided)

/-- A zone with a text record and one with a mail exchange first have the same file if they have both,
and the file of a zone with neither is written again. -/
theorem plan_loses_no_update_sample :
    let text : Record := ⟨.txt, ["\"x\"".toList], some "t".toList, some "1d".toList⟩
    let exchange : Record := ⟨.mx, ["10".toList, "m".toList], none, none⟩
    let file := Zone.unlines (["$TTL 1d", "@ IN SOA n h.e. (", "\t\t\t\t\t\t\t2026101907\t; Serial",
      "\t\t\t\t\t\t\t3h\t\t\t; Refresh", "\t\t\t\t\t\t\t1h\t\t\t; Retry",
      "\t\t\t\t\t\t\t1w\t\t\t; Expire", "\t\t\t\t\t\t\t1h )\t\t; Negative Cache TTL", "",
      "@\t\t\t\t\t\t\tNS\t\t\tn"].map String.toList)
    (Zone.sample [text, exchange]).published = (Zone.sample [exchange, text]).published ∧
    ∃ plan, ((sample false).plan (sampleFiles [("db.e".toList, file)]) ⟨2026, 10, 19⟩
        [("e".toList, Zone.sample [text, exchange])]).outcome = .ok plan ∧
      "e".toList ∉ plan.unchanged := by
  intro text exchange file
  have htext : text.IsPublishable :=
    ⟨fun owner howner => Option.some.inj howner ▸ ⟨by decide, by decide⟩,
      fun ttl httl => Option.some.inj httl ▸ by decide, by decide, ['x'], by decide⟩
  have hexchange : exchange.IsPublishable := ⟨nofun, nofun, by decide, by decide, by decide⟩
  have hz : (Zone.sample [text, exchange]).IsPublishable :=
    Zone.isPublishable_sample (by simp [htext, hexchange])
  have hz' : (Zone.sample [exchange, text]).IsPublishable :=
    Zone.isPublishable_sample (by simp [htext, hexchange])
  constructor
  · have hsame : (Zone.sample [text, exchange]).render .standard none =
        (Zone.sample [exchange, text]).render .standard none := by decide +kernel
    obtain ⟨body, hbody⟩ : ∃ body, (Zone.sample [text, exchange]).render .standard none = .ok body :=
      exists_eq_ok_of_isOk (by decide +kernel)
    exact (plan_loses_no_update hz hz').1 .standard .standard none none body (.inl rfl) hbody
      (hsame ▸ hbody)
  · obtain ⟨plan, hplan⟩ : ∃ plan, ((sample false).plan (sampleFiles [("db.e".toList, file)])
        ⟨2026, 10, 19⟩ [("e".toList, Zone.sample [text, exchange])]).outcome = .ok plan :=
      exists_eq_ok_of_isOk (by decide +kernel)
    refine ⟨plan, hplan, ?_⟩
    have hmade : (Zone.sample []).render .standard (some "2026101907".toList) = .ok file := by
      decide +kernel
    exact (plan_loses_no_update hz (Zone.isPublishable_sample (by simp))).2 (sample false) _ _ _
      plan "e".toList _ .standard _ file (by simp) (by simp) hplan (by decide +kernel)
      (Utf8.decode_encode file) (by decide) hmade (by decide +kernel)

end ZoneKeeper.Target
