import ZoneKeeper.Proofs.Spf.Reading

/-!
# The form of a policy

A policy that a mail receiver understands is a row of words: the version, one word for each address
or target, and the closing term. What is published has this form if every item is a word. Nothing
else is asked of a target, so an item with nothing in it, or with blanks in it, is published as it is
and spoils the form.
-/

namespace ZoneKeeper.Spf

open Text

/-- A word that admits an address or a target. -/
inductive IsTerm : Text → Prop where
  /-- The address itself. -/
  | address {a : Text} (haddress : isAddress a = true) : IsTerm ("ip4:".toList ++ a)
  /-- A target, whose name has something in it and no blanks. -/
  | target {name : Text} (hne : name ≠ []) (hvisible : ∀ c ∈ name, isBlank c = false) :
      IsTerm ("include:".toList ++ name)

/-- The words that close a policy. -/
def closings : List Text := ["all".toList, "?all".toList, "~all".toList, "-all".toList]

/-- Whether the words of a policy are the version, a number of terms and a closing word. -/
def IsWellFormed (policy : Text) (number : Nat) : Prop :=
  ∃ middle last, split ' ' policy = "v=spf1".toList :: middle ++ [last] ∧
    (∀ t ∈ middle, IsTerm t) ∧ last ∈ closings ∧ middle.length = number

variable {its : List Text} {item criteria policy : Text} {q : Char}

/-! ## Words -/

theorem isTerm_term_iff : IsTerm (term item) ↔ item ≠ [] ∧ ∀ c ∈ item, isBlank c = false := by
  by_cases haddress : isAddress item = true
  · have hterm : IsTerm (term item) := by
      rw [term, if_pos haddress]
      exact .address haddress
    have hvisible : ∀ c ∈ item, isBlank c = false := fun _ hc => isBlank_of_isAddress haddress hc
    exact iff_of_true hterm ⟨ne_nil_of_isAddress haddress, hvisible⟩
  · rw [term, if_neg haddress]
    constructor
    · intro h
      generalize ht : "include:".toList ++ item = t at h
      cases h with
      | address => simp at ht
      | target hne hvisible =>
        obtain rfl := List.append_cancel_left ht
        exact ⟨hne, hvisible⟩
    · rintro ⟨hne, hvisible⟩
      exact .target hne hvisible

theorem closing_mem_closings (hq : q ∈ qualifiers) : closing q ∈ closings := by
  have hall : ∀ q ∈ qualifiers, closing q ∈ closings := by decide
  exact hall q hq

/-- The words of a policy are those of its terms, whatever the items are. -/
theorem split_policy (its : List Text) (hq : q ∈ qualifiers) :
    split ' ' (join [' '] (terms its q)) =
      "v=spf1".toList :: its.flatMap (fun item => split ' ' (term item)) ++ [closing q] := by
  have hversion : split ' ' "v=spf1".toList = ["v=spf1".toList] := by decide
  have hne : terms its q ≠ [] := List.cons_ne_nil _ _
  rw [split_join hne, terms, List.flatMap_append, List.flatMap_cons, hversion,
    List.flatMap_map, List.flatMap_singleton, split_of_not_mem (space_not_mem_closing hq)]
  rfl

/-- A policy has the form exactly if its items are words. -/
theorem isWellFormed_policy_iff (its : List Text) (hq : q ∈ qualifiers) :
    IsWellFormed (join [' '] (terms its q)) its.length ↔
      ∀ item ∈ its, item ≠ [] ∧ ∀ c ∈ item, isBlank c = false := by
  constructor
  · rintro ⟨middle, last, hwords, hmiddle, -, hlength⟩
    -- An item with a space in it would give more words than there are terms.
    have hcount : (split ' ' (join [' '] (terms its q))).length ≤ (terms its q).length := by
      rw [hwords]
      simp [terms, hlength]
    have hspace : ∀ item ∈ its, ' ' ∉ item := by
      intro item hitem
      have hmem : term item ∈ terms its q := by
        rw [terms]
        exact List.mem_append_left _ (List.mem_cons_of_mem _ (List.mem_map_of_mem hitem))
      exact space_not_mem_term_iff.mp (not_mem_of_length_split_join hcount _ hmem)
    -- So the words are the terms, and those in the middle are the terms of the items.
    rw [split_join_terms hspace hq, terms] at hwords
    obtain ⟨hinit, -⟩ := List.append_inj' hwords rfl
    obtain ⟨-, rfl⟩ := List.cons.inj hinit
    intro item hitem
    exact isTerm_term_iff.mp (hmiddle _ (List.mem_map_of_mem hitem))
  · intro hits
    have hspace : ∀ item ∈ its, ' ' ∉ item := by
      intro item hitem hmem
      have hvisible := (hits item hitem).2 ' ' hmem
      exact absurd hvisible (by decide)
    refine ⟨its.map term, closing q, split_join_terms hspace hq, ?_, closing_mem_closings hq,
      List.length_map _⟩
    rw [List.forall_mem_map]
    exact fun item hitem => isTerm_term_iff.mpr (hits item hitem)

/-! ## What is published -/

theorem eq_of_publish_eq_ok (h : publish criteria = .ok policy) :
    qualifierOf criteria ∈ qualifiers ∧ (∀ item ∈ itemsOf criteria, itemFaults item = []) ∧
      policy = join [' '] (terms (itemsOf criteria) (qualifierOf criteria)) := by
  rw [publish_eq, verdict_eq_ok_iff, faults, List.append_eq_nil_iff, List.flatMap_eq_nil_iff] at h
  obtain ⟨⟨hsuffix, hitems⟩, rfl⟩ := h
  refine ⟨?_, hitems, rfl⟩
  rw [qualifierOf]
  cases hc : suffix? criteria with
  | none => decide
  | some c => exact suffixFaults_eq_nil_iff.mp hsuffix c hc

/-- Whatever criteria are accepted, what is published are the words of one term for each item,
between the version and a closing word; an item that looks like an address is one. The form is right
exactly if every item has something in it and no blanks. -/
theorem publish_form (h : publish criteria = .ok policy) :
    split ' ' policy =
        "v=spf1".toList :: (itemsOf criteria).flatMap (fun item => split ' ' (term item)) ++
          [closing (qualifierOf criteria)] ∧
      closing (qualifierOf criteria) ∈ closings ∧
      (∀ item ∈ itemsOf criteria, isDottedNumeric item = true → isAddress item = true) ∧
      (IsWellFormed policy (itemsOf criteria).length ↔
        ∀ item ∈ itemsOf criteria, item ≠ [] ∧ ∀ c ∈ item, isBlank c = false) := by
  obtain ⟨hq, hitems, rfl⟩ := eq_of_publish_eq_ok h
  refine ⟨split_policy _ hq, closing_mem_closings hq, ?_, isWellFormed_policy_iff _ hq⟩
  intro item hitem hdotted
  have hnone := hitems item hitem
  rw [itemFaults, hdotted] at hnone
  cases haddress : isAddress item with
  | true => rfl
  | false =>
    rw [haddress] at hnone
    cases hnone

theorem publish_form_sample :
    let criteria := " 10.0.0.1 , _spf.example.net [~] ".toList
    let policy := "v=spf1 ip4:10.0.0.1 include:_spf.example.net ~all".toList
    publish criteria = .ok policy ∧ IsWellFormed policy 2 := by
  intro criteria policy
  have hpublish : publish criteria = .ok policy := by decide
  have hitems : itemsOf criteria = ["10.0.0.1".toList, "_spf.example.net".toList] := by decide
  have hform := (publish_form hpublish).2.2.2
  rw [hitems] at hform
  refine ⟨hpublish, hform.mpr ?_⟩
  decide

/-- An item with nothing in it, and one with a blank in it, are published as they are. -/
theorem publish_malformed :
    (publish "a,,b".toList = .ok "v=spf1 include:a include: include:b ?all".toList ∧
      (itemsOf "a,,b".toList).length = 3 ∧
      ¬ IsWellFormed "v=spf1 include:a include: include:b ?all".toList 3) ∧
    publish "a b".toList = .ok "v=spf1 include:a b ?all".toList ∧
      (itemsOf "a b".toList).length = 1 ∧
      ¬ IsWellFormed "v=spf1 include:a b ?all".toList 1 := by
  have hdefault : '?' ∈ qualifiers := by decide
  have hempty := isWellFormed_policy_iff ["a".toList, [], "b".toList] hdefault
  have hblank := isWellFormed_policy_iff ["a b".toList] hdefault
  refine ⟨⟨by decide, by decide, fun h => ?_⟩, by decide, by decide, fun h => ?_⟩
  · exact absurd (hempty.mp h) (by decide)
  · exact absurd (hblank.mp h) (by decide)

end ZoneKeeper.Spf
