import ZoneKeeper.Proofs.Spf.Reading

/-!
# One policy for all ways to write it

Criteria may be written with blanks around the items, before the qualifier and around the whole.
Whatever blanks there are, the policy that is published depends on the items and the qualifier alone,
and shows both.
-/

namespace ZoneKeeper.Spf

open Text

/-! ## Writing criteria -/

/-- What can stand between commas: a text without blanks, commas and brackets. -/
structure IsItem (item : Text) : Prop where
  ne_nil : item ≠ []
  visible : ∀ c ∈ item, isBlank c = false
  comma : ',' ∉ item
  opening : '[' ∉ item
  closing : ']' ∉ item

/-- A character in brackets, if there is one. -/
def bracketed : Option Char → Text
  | none => []
  | some c => ['[', c, ']']

/-- Whether criteria are written from items and perhaps a character in brackets, with blanks around
each item, before the brackets and around the whole. -/
structure Writes (its : List Text) (suffix : Option Char) (criteria : Text) : Prop where
  items : ∀ item ∈ its, IsItem item
  text : ∃ padded gap, List.Forall₂ Pads its padded ∧ IsBlanks gap ∧
    Pads (join [','] padded ++ gap ++ bracketed suffix) criteria

/-- Whether an item looks like an address and is none. -/
def IsSpurious (item : Text) : Prop := IsDottedGroups item ∧ isAddress item = false

instance (item : Text) : Decidable (IsSpurious item) :=
  inferInstanceAs (Decidable (IsDottedGroups item ∧ isAddress item = false))

/-! ## Reading what is written -/

variable {its : List Text} {suffix : Option Char} {criteria item : Text}

theorem trim_eq_of_pads {padded : List Text} (hits : ∀ item ∈ its, IsItem item)
    (h : List.Forall₂ Pads its padded) : padded.map trim = its := by
  induction h with
  | nil => rfl
  | @cons item p its padded hp _ ih =>
    obtain ⟨hitem, hits⟩ := List.forall_mem_cons.mp hits
    have htrim : trim p = item :=
      hp.trim_eq.trans (isTrimmed_of_forall_not_isBlank hitem.visible)
    rw [List.map_cons, htrim, ih hits]

theorem not_mem_of_pads {padded : List Text} {c : Char} (hc : isBlank c = false)
    (hits : ∀ item ∈ its, c ∉ item) (h : List.Forall₂ Pads its padded) : ∀ p ∈ padded, c ∉ p := by
  intro p hp
  obtain ⟨item, hitem, hpads⟩ := exists_of_mem_right h hp
  exact hpads.not_mem hc (hits item hitem)

/-- The items between commas, the blanks around them left out, are the items that were written. -/
theorem items_of_pads {padded : List Text} (hits : ∀ item ∈ its, IsItem item)
    (h : List.Forall₂ Pads its padded) : (items (trim (join [','] padded))).map trim = its := by
  cases h with
  | nil => rfl
  | @cons item p its padded hp hrest =>
    have hall := List.Forall₂.cons hp hrest
    have hcommas : ∀ q ∈ p :: padded, ',' ∉ q :=
      not_mem_of_pads (by decide) (fun item hitem => (hits item hitem).comma) hall
    have hpieces : (split ',' (trim (join [','] (p :: padded)))).map trim = item :: its := by
      rw [map_trim_split_trim (by decide), split_join_of_not_mem (List.cons_ne_nil p padded) hcommas,
        trim_eq_of_pads hits hall]
    have hne : trim (join [','] (p :: padded)) ≠ [] := by
      intro hnil
      rw [hnil] at hpieces
      obtain ⟨hitem, -⟩ := List.cons.inj hpieces
      exact (hits item List.mem_cons_self).ne_nil hitem.symm
    rw [items, if_neg hne, hpieces]

theorem trim_append_bracketed (t : Text) (c : Char) :
    trim (t ++ ['[', c, ']']) = trimLeft t ++ ['[', c, ']'] := by
  have hopening : isBlank '[' = false := by decide
  have hclosing : isBlank ']' = false := by decide
  exact trim_append_visible hopening hclosing t [c]

/-- A character in brackets after items is found, unless it is a line feed. -/
theorem suffix?_of_writes {c : Char} (h : Writes its (some c) criteria) (hc : c ≠ '\n') :
    suffix? criteria = some c ∧ itemsOf criteria = its := by
  obtain ⟨padded, gap, hpadded, hgap, hcriteria⟩ := h.text
  have htrim : trim criteria = trimLeft (join [','] padded ++ gap) ++ ['[', c, ']'] := by
    rw [hcriteria.trim_eq, bracketed, trim_append_bracketed]
  have hbody : body criteria = trim (join [','] padded) := by
    rw [body_of_suffix hc htrim, trim_trimLeft, trim_append_of_isBlanks hgap]
  refine ⟨suffix?_eq_some_iff.mpr ⟨hc, _, htrim⟩, ?_⟩
  rw [itemsOf, hbody, items_of_pads h.items hpadded]

/-- Items alone are found, too. -/
theorem suffix?_of_writes_none (h : Writes its none criteria) :
    suffix? criteria = none ∧ itemsOf criteria = its := by
  obtain ⟨padded, gap, hpadded, hgap, hcriteria⟩ := h.text
  have htrim : trim criteria = trim (join [','] padded) := by
    rw [hcriteria.trim_eq, bracketed, List.append_nil, trim_append_of_isBlanks hgap]
  have hopening : '[' ∉ trim criteria := by
    intro hmem
    rw [htrim] at hmem
    have hitems : ∀ p ∈ padded, '[' ∉ p :=
      not_mem_of_pads (by decide) (fun item hitem => (h.items item hitem).opening) hpadded
    exact not_mem_join (by decide) hitems (mem_of_mem_trim hmem)
  have hsuffix : suffix? criteria = none := by
    cases hsuffix : suffix? criteria with
    | none => rfl
    | some c =>
      obtain ⟨-, t, ht⟩ := suffix?_eq_some_iff.mp hsuffix
      rw [ht] at hopening
      simp at hopening
  refine ⟨hsuffix, ?_⟩
  rw [itemsOf, body, hsuffix, htrim]
  exact items_of_pads h.items hpadded

/-- A line feed in brackets is no qualifier. -/
theorem suffix?_of_writes_newline (h : Writes its (some '\n') criteria) :
    suffix? criteria = none := by
  obtain ⟨padded, gap, -, -, hcriteria⟩ := h.text
  have htrim : trim criteria = trimLeft (join [','] padded ++ gap) ++ ['[', '\n', ']'] := by
    rw [hcriteria.trim_eq, bracketed, trim_append_bracketed]
  cases hsuffix : suffix? criteria with
  | none => rfl
  | some c =>
    obtain ⟨hc, t, ht⟩ := suffix?_eq_some_iff.mp hsuffix
    rw [htrim] at ht
    obtain ⟨-, hends⟩ := List.append_inj' ht rfl
    obtain ⟨rfl, -⟩ : '\n' = c ∧ _ := List.cons.inj (List.cons.inj hends).2
    exact absurd rfl hc

/-! ## Reading a policy -/

/-- The item that a term publishes: what comes after its first colon. -/
def publishedItem (t : Text) : Text := ((cut? ':' t).map Prod.snd).getD []

/-- The qualifier that the closing term shows. -/
def shownQualifier (t : Text) : Char := if t = "all".toList then '+' else t.headD '+'

/-- The items and the qualifier that the terms of a policy show. -/
def recovered (policyTerms : List Text) : List Text × Char :=
  (policyTerms.tail.dropLast.map publishedItem, shownQualifier (policyTerms.getLastD []))

theorem publishedItem_term (item : Text) : publishedItem (term item) = item := by
  rw [term]
  split <;> rfl

theorem shownQualifier_closing (q : Char) : shownQualifier (closing q) = q := by
  rw [closing]
  split
  · next h => rw [h]; rfl
  · next h =>
    have hne : q :: "all".toList ≠ "all".toList := by simp
    rw [shownQualifier, if_neg hne]
    rfl

theorem recovered_terms (its : List Text) (q : Char) : recovered (terms its q) = (its, q) := by
  have hlast : (terms its q).getLastD [] = closing q := by
    rw [terms, List.getLastD_eq_getLast?, List.getLast?_concat]
    rfl
  have hmiddle : (terms its q).tail.dropLast = its.map term := by simp [terms]
  have hitems : publishedItem ∘ term = id := funext publishedItem_term
  rw [recovered, hlast, hmiddle, shownQualifier_closing, List.map_map, hitems, List.map_id]

/-! ## Publishing what is written -/

theorem itemFaults_of_isSpurious (h : IsSpurious item) : itemFaults item = [.badAddress item] := by
  have hdotted : isDottedNumeric item = true := isDottedNumeric_iff.mpr h.1
  rw [itemFaults, hdotted, h.2]
  rfl

theorem itemFaults_of_not_isSpurious (h : ¬ IsSpurious item) : itemFaults item = [] := by
  refine if_neg fun hfault => h ?_
  obtain ⟨hdotted, haddress⟩ := Bool.and_eq_true_iff.mp hfault
  exact ⟨isDottedNumeric_iff.mp hdotted, by simpa using haddress⟩

theorem publish_of_writes (h : Writes its suffix criteria)
    (hq : suffix.getD defaultQualifier ∈ qualifiers) :
    publish criteria = verdict (its.flatMap itemFaults)
      (join [' '] (terms its (suffix.getD defaultQualifier))) := by
  have hread : suffix? criteria = suffix ∧ itemsOf criteria = its := by
    cases suffix with
    | none => exact suffix?_of_writes_none h
    | some c =>
      refine suffix?_of_writes h ?_
      rintro rfl
      exact absurd hq (by decide)
  obtain ⟨hsuffix, hitems⟩ := hread
  have hnone : suffixFaults criteria = [] := by
    rw [suffixFaults_eq_nil_iff, hsuffix]
    rintro c rfl
    exact hq
  rw [publish_eq, faults, hnone, hitems, qualifierOf, hsuffix, List.nil_append]

/-- A policy shows the items and the qualifier of the criteria that it was published for. -/
theorem recovered_of_publish {policy : Text} (h : Writes its suffix criteria)
    (hq : suffix.getD defaultQualifier ∈ qualifiers) (hpolicy : publish criteria = .ok policy) :
    recovered (split ' ' policy) = (its, suffix.getD defaultQualifier) := by
  rw [publish_of_writes h hq, verdict_eq_ok_iff] at hpolicy
  obtain ⟨-, rfl⟩ := hpolicy
  have hspace : ∀ item ∈ its, ' ' ∉ item := by
    intro item hitem hmem
    have hvisible := (h.items item hitem).visible ' ' hmem
    exact absurd hvisible (by decide)
  rw [split_join_terms hspace hq, recovered_terms]

/-- Criteria that are written from items and perhaps a character in brackets, with whatever blanks.
If the character is a qualifier or there is none, they are refused for the first item that looks like
an address and is none, and are otherwise published term by term; the words of that text show the
items and the qualifier, so that no other items and no other qualifier are published as the same. Any
other character is refused before the items are looked at, except that a line feed counts as part of
the last item. -/
theorem publish_written (h : Writes its suffix criteria) :
    (suffix.getD defaultQualifier ∈ qualifiers →
      (∀ before item after, its = before ++ item :: after →
        (∀ earlier ∈ before, ¬ IsSpurious earlier) → IsSpurious item →
          publish criteria = .error (.badAddress item)) ∧
      ((∀ item ∈ its, ¬ IsSpurious item) →
        ∃ policy, publish criteria = .ok policy ∧
          policy = join [' '] (terms its (suffix.getD defaultQualifier)) ∧
          recovered (split ' ' policy) = (its, suffix.getD defaultQualifier)) ∧
      ∀ its' suffix' criteria' policy, Writes its' suffix' criteria' →
        suffix'.getD defaultQualifier ∈ qualifiers → publish criteria = .ok policy →
          publish criteria' = .ok policy →
            its' = its ∧ suffix'.getD defaultQualifier = suffix.getD defaultQualifier) ∧
    ∀ c, suffix = some c → c ∉ qualifiers →
      if c = '\n' then ∀ d, publish criteria ≠ .error (.unknownQualifier d)
      else publish criteria = .error (.unknownQualifier c) := by
  refine ⟨fun hq => ⟨?_, ?_, ?_⟩, ?_⟩
  · intro before item after hits hbefore hitem
    have hclean : before.flatMap itemFaults = [] := by
      rw [List.flatMap_eq_nil_iff]
      exact fun earlier hmem => itemFaults_of_not_isSpurious (hbefore earlier hmem)
    rw [publish_of_writes h hq, hits, List.flatMap_append, hclean, List.flatMap_cons,
      itemFaults_of_isSpurious hitem]
    rfl
  · intro hclean
    have hnone : its.flatMap itemFaults = [] := by
      rw [List.flatMap_eq_nil_iff]
      exact fun item hitem => itemFaults_of_not_isSpurious (hclean item hitem)
    have hpublish := publish_of_writes h hq
    rw [hnone, verdict_nil] at hpublish
    exact ⟨_, hpublish, rfl, recovered_of_publish h hq hpublish⟩
  · intro its' suffix' criteria' policy h' hq' hpolicy hpolicy'
    have hshown := recovered_of_publish h hq hpolicy
    have hshown' := recovered_of_publish h' hq' hpolicy'
    exact Prod.mk.inj (hshown'.symm.trans hshown)
  · rintro c rfl hc
    by_cases hnewline : c = '\n'
    · rw [if_pos hnewline]
      subst hnewline
      exact publish_ne_unknownQualifier (suffix?_of_writes_newline h)
    · rw [if_neg hnewline]
      exact publish_of_not_mem (suffix?_of_writes h hnewline).1 hc

theorem publish_written_sample :
    let its := ["10.0.0.1".toList, "mail.example.net".toList]
    let criteria := " 10.0.0.1\t,  mail.example.net\u3000[~] ".toList
    Writes its (some '~') criteria ∧ '~' ∈ qualifiers ∧ (∀ item ∈ its, ¬ IsSpurious item) ∧
      ∃ policy, publish criteria = .ok policy ∧
        policy = join [' '] (terms its '~') ∧ recovered (split ' ' policy) = (its, '~') := by
  intro its criteria
  have hpadded : List.Forall₂ Pads its ["10.0.0.1\t".toList, "  mail.example.net".toList] :=
    .cons ⟨[], ['\t'], by unfold IsBlanks; decide, by unfold IsBlanks; decide, rfl⟩
      (.cons ⟨[' ', ' '], [], by unfold IsBlanks; decide, by unfold IsBlanks; decide, rfl⟩ .nil)
  have hwrites : Writes its (some '~') criteria := by
    refine ⟨?_, _, ['\u3000'], hpadded, by unfold IsBlanks; decide, [' '], [' '],
      by unfold IsBlanks; decide, by unfold IsBlanks; decide, rfl⟩
    rw [List.forall_mem_cons, List.forall_mem_singleton]
    exact ⟨⟨by decide, by decide, by decide, by decide, by decide⟩,
      ⟨by decide, by decide, by decide, by decide, by decide⟩⟩
  have hclean : ∀ item ∈ its, ¬ IsSpurious item := by decide
  exact ⟨hwrites, by decide, hclean, ((publish_written hwrites).1 (by decide)).2.1 hclean⟩

end ZoneKeeper.Spf
