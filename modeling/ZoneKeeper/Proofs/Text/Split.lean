import ZoneKeeper.Text.Basic

/-!
# Pieces between separators

What splitting a text at a character gives: the text itself where there is none, and the pieces one
after another where they are put together with the character between them.
-/

namespace ZoneKeeper.Text

theorem split_of_not_mem {c : Char} {t : Text} (h : c ∉ t) : split c t = [t] := by
  induction t with
  | nil => rfl
  | cons a t ih =>
    rw [List.mem_cons, not_or] at h
    rw [split, if_neg (Ne.symm h.1), ih h.2]

theorem split_cons_of_ne {a c : Char} {t p : Text} {ps : List Text} (hne : a ≠ c)
    (h : split c t = p :: ps) : split c (a :: t) = (a :: p) :: ps := by
  rw [split, if_neg hne, h]

/-- A separator splits a text into the pieces before it and those after it. -/
theorem split_append_separator (c : Char) (s t : Text) :
    split c (s ++ c :: t) = split c s ++ split c t := by
  induction s with
  | nil => simp [split]
  | cons a s ih =>
    by_cases hne : a = c
    · rw [List.cons_append, split, if_pos hne, split, if_pos hne, ih, List.cons_append]
    · obtain ⟨p, ps, hps⟩ := List.exists_cons_of_ne_nil (split_ne_nil c s)
      rw [hps, List.cons_append] at ih
      rw [List.cons_append, split_cons_of_ne hne ih, split_cons_of_ne hne hps, List.cons_append]

/-- A piece before a separator is the first one. -/
theorem split_append_cons {c : Char} {s : Text} (h : c ∉ s) (t : Text) :
    split c (s ++ c :: t) = s :: split c t := by
  rw [split_append_separator, split_of_not_mem h, List.singleton_append]

/-- What is put after a text belongs to its last piece. -/
theorem split_append_of_not_mem {c : Char} {s t last : Text} {ps : List Text}
    (h : split c s = ps ++ [last]) (ht : c ∉ t) : split c (s ++ t) = ps ++ [last ++ t] := by
  induction s generalizing ps last with
  | nil =>
    obtain ⟨rfl, hlast⟩ : ps = [] ∧ [] = last := by
      cases ps with
      | nil => exact ⟨rfl, List.head_eq_of_cons_eq h⟩
      | cons p ps => simp [split] at h
    rw [← hlast, List.nil_append, List.nil_append, split_of_not_mem ht]
  | cons a s ih =>
    by_cases hne : a = c
    · rw [split, if_pos hne] at h
      cases ps with
      | nil => simp [split_ne_nil] at h
      | cons p ps =>
        obtain ⟨rfl, hrest⟩ := List.cons.inj h
        rw [List.cons_append, split, if_pos hne, ih hrest, List.cons_append]
    · obtain ⟨p, qs, hqs⟩ := List.exists_cons_of_ne_nil (split_ne_nil c s)
      rw [split_cons_of_ne hne hqs] at h
      cases ps with
      | nil =>
        obtain ⟨rfl, rfl⟩ := List.cons.inj h
        exact split_cons_of_ne hne (ih (hqs.trans (List.nil_append [p]).symm))
      | cons q ps =>
        obtain ⟨rfl, rfl⟩ := List.cons.inj h
        exact split_cons_of_ne hne (ih (hqs.trans (List.cons_append).symm))

/-- No piece holds the separator. -/
theorem not_mem_of_mem_split {c : Char} {t p : Text} (h : p ∈ split c t) : c ∉ p := by
  induction t generalizing p with
  | nil =>
    obtain rfl := List.mem_singleton.mp h
    exact List.not_mem_nil
  | cons a t ih =>
    by_cases hne : a = c
    · rw [split, if_pos hne] at h
      rcases List.mem_cons.mp h with rfl | h
      · exact List.not_mem_nil
      · exact ih h
    · obtain ⟨q, qs, hqs⟩ := List.exists_cons_of_ne_nil (split_ne_nil c t)
      rw [split_cons_of_ne hne hqs] at h
      rcases List.mem_cons.mp h with rfl | h
      · rw [List.mem_cons, not_or]
        exact ⟨Ne.symm hne, ih (hqs ▸ List.mem_cons_self)⟩
      · exact ih (hqs ▸ List.mem_cons_of_mem _ h)

/-- The characters of a text are those of its pieces and the separators. -/
theorem eq_or_exists_mem_split {c a : Char} {t : Text} (h : a ∈ t) :
    a = c ∨ ∃ p ∈ split c t, a ∈ p := by
  induction t with
  | nil => cases h
  | cons b t ih =>
    obtain ⟨p, ps, hps⟩ := List.exists_cons_of_ne_nil (split_ne_nil c t)
    by_cases hb : b = c
    · rw [split, if_pos hb]
      rcases List.mem_cons.mp h with rfl | h
      · exact .inl hb
      · exact (ih h).imp_right fun ⟨p, hp, ha⟩ => ⟨p, List.mem_cons_of_mem _ hp, ha⟩
    · rw [split_cons_of_ne hb hps]
      rcases List.mem_cons.mp h with rfl | h
      · exact .inr ⟨a :: p, List.mem_cons_self, List.mem_cons_self⟩
      · rcases ih h with hc | ⟨q, hq, ha⟩
        · exact .inl hc
        · rw [hps] at hq
          rcases List.mem_cons.mp hq with rfl | hq
          · exact .inr ⟨b :: q, List.mem_cons_self, List.mem_cons_of_mem _ ha⟩
          · exact .inr ⟨q, List.mem_cons_of_mem _ hq, ha⟩

/-! ## Texts that are put together -/

theorem join_cons_cons (c : Char) (p q : Text) (ps : List Text) :
    join [c] (p :: q :: ps) = p ++ c :: join [c] (q :: ps) := by
  rw [join, List.append_assoc, List.singleton_append]
  exact List.cons_ne_nil q ps

theorem join_append (c : Char) {ps qs : List Text} (hps : ps ≠ []) (hqs : qs ≠ []) :
    join [c] (ps ++ qs) = join [c] ps ++ c :: join [c] qs := by
  induction ps with
  | nil => exact absurd rfl hps
  | cons p ps ih =>
    cases ps with
    | nil =>
      obtain ⟨q, qs, rfl⟩ := List.exists_cons_of_ne_nil hqs
      exact join_cons_cons c p q qs
    | cons p' ps =>
      have hrest := ih (List.cons_ne_nil p' ps)
      rw [List.cons_append] at hrest
      rw [List.cons_append, List.cons_append, join_cons_cons, hrest, join_cons_cons,
        List.append_assoc, List.cons_append]

theorem not_mem_join {a c : Char} (hne : a ≠ c) {ps : List Text} (h : ∀ p ∈ ps, a ∉ p) :
    a ∉ join [c] ps := by
  induction ps with
  | nil => exact List.not_mem_nil
  | cons p ps ih =>
    obtain ⟨hp, hps⟩ := List.forall_mem_cons.mp h
    cases ps with
    | nil => exact hp
    | cons q ps =>
      rw [join_cons_cons, List.mem_append, List.mem_cons, not_or, not_or]
      exact ⟨hp, hne, ih hps⟩

/-- Texts with a separator between every two fall into the pieces of each. -/
theorem split_join {c : Char} {ps : List Text} (hne : ps ≠ []) :
    split c (join [c] ps) = ps.flatMap (split c) := by
  induction ps with
  | nil => exact absurd rfl hne
  | cons p ps ih =>
    cases ps with
    | nil => simp [join]
    | cons q ps =>
      rw [join_cons_cons, split_append_separator, ih (List.cons_ne_nil q ps)]
      exact (List.flatMap_cons ..).symm

theorem split_join_of_not_mem {c : Char} {ps : List Text} (hne : ps ≠ []) (h : ∀ p ∈ ps, c ∉ p) :
    split c (join [c] ps) = ps := by
  rw [split_join hne]
  clear hne
  induction ps with
  | nil => rfl
  | cons p ps ih =>
    obtain ⟨hp, hps⟩ := List.forall_mem_cons.mp h
    rw [List.flatMap_cons, split_of_not_mem hp, ih hps, List.singleton_append]

theorem length_split (c : Char) (t : Text) : (split c t).length = t.count c + 1 := by
  induction t with
  | nil => rfl
  | cons a t ih =>
    by_cases hne : a = c
    · rw [split, if_pos hne, List.length_cons, ih, hne, List.count_cons_self]
    · obtain ⟨p, ps, hps⟩ := List.exists_cons_of_ne_nil (split_ne_nil c t)
      rw [split_cons_of_ne hne hps, List.count_cons_of_ne hne, ← ih, hps]
      rfl

theorem length_le_length_split_join (c : Char) (ps : List Text) :
    ps.length ≤ (split c (join [c] ps)).length := by
  induction ps with
  | nil => exact Nat.zero_le _
  | cons p ps ih =>
    cases ps with
    | nil => simp [length_split]
    | cons q ps =>
      rw [join_cons_cons, split_append_separator, List.length_append, List.length_cons, length_split]
      omega

/-- Texts that fall into no more pieces than they are hold no separator. -/
theorem not_mem_of_length_split_join {c : Char} {ps : List Text}
    (h : (split c (join [c] ps)).length ≤ ps.length) : ∀ p ∈ ps, c ∉ p := by
  induction ps with
  | nil => simp
  | cons p ps ih =>
    cases ps with
    | nil =>
      rw [join, length_split, List.length_singleton] at h
      have hcount : p.count c = 0 := by omega
      simpa using List.count_eq_zero.mp hcount
    | cons q ps =>
      have hrest := length_le_length_split_join c (q :: ps)
      rw [join_cons_cons, split_append_separator, List.length_append, length_split,
        List.length_cons] at h
      have hcount : p.count c = 0 := by omega
      exact List.forall_mem_cons.mpr ⟨List.count_eq_zero.mp hcount, ih (by omega)⟩

end ZoneKeeper.Text
