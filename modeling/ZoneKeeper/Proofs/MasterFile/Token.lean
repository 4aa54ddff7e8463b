import ZoneKeeper.Proofs.MasterFile.Format
import ZoneKeeper.Proofs.Outcome

/-!
# Reading tokens

The tokens of a row are read back one after another, whatever stands between them, and then the line
ends. A word and a quoted string are read whole.
-/

namespace ZoneKeeper.MasterFile

variable {w t rest blanks chunk comment : Text} {depth : Nat} {token : Token}
  {tokens : List Token}

/-! ## Words and strings -/

theorem IsWordText.scanWord (h : IsWordText w) (hrest : EndsWord rest) :
    scanWord (w ++ rest) = .ok (w, rest) := by
  induction h with
  | nil =>
    cases rest with
    | nil => rfl
    | cons c rest =>
      have hc : endsWord c = true := hrest c rfl
      have hne : c ≠ '\\' := by
        rintro rfl
        exact absurd hc (by decide)
      rw [List.nil_append, scanWord.eq_4 _ _ (by simp [hne]) (by simp [hne]), if_pos hc]
  | plain hends hescape _ ih =>
    rw [List.cons_append, scanWord.eq_4 _ _ (by simp [hescape]) (by simp [hescape]),
      if_neg (by simp [hends]), ih]
    rfl
  | escape hline _ ih =>
    rw [List.cons_append, List.cons_append, scanWord.eq_3, if_neg hline, ih]
    rfl

theorem isWordText_of_scanWord {s : Text} (h : scanWord s = .ok (w, rest)) : IsWordText w := by
  induction s using scanWord.induct generalizing w with
  | case1 =>
    obtain rfl : [] = w := (Prod.mk.inj (Except.ok.inj h)).1
    exact .nil
  | case2 => cases h
  | case3 s =>
    rw [scanWord.eq_3, if_pos rfl] at h
    cases h
  | case4 c s hc ih =>
    rw [scanWord.eq_3, if_neg hc] at h
    obtain ⟨⟨u, _⟩, hu, heq⟩ := map_eq_ok_iff.mp h
    obtain ⟨rfl, rfl⟩ := Prod.mk.inj heq
    exact .escape hc (ih hu)
  | case5 c s hne hne' hc =>
    rw [scanWord.eq_4 _ _ hne hne', if_pos hc] at h
    obtain rfl : [] = w := (Prod.mk.inj (Except.ok.inj h)).1
    exact .nil
  | case6 c s hne hne' hc ih =>
    have hescape : c ≠ '\\' := by
      rintro rfl
      cases s with
      | nil => exact hne rfl rfl
      | cons d s => exact hne' d s rfl rfl
    rw [scanWord.eq_4 _ _ hne hne', if_neg hc] at h
    obtain ⟨⟨u, _⟩, hu, heq⟩ := map_eq_ok_iff.mp h
    obtain ⟨rfl, rfl⟩ := Prod.mk.inj heq
    exact .plain (Bool.eq_false_iff.mpr hc) hescape (ih hu)

instance (w : Text) : Decidable (IsWordText w) :=
  decidable_of_iff (scanWord w = .ok (w, []))
    ⟨isWordText_of_scanWord, fun h => by simpa using h.scanWord (by simp [EndsWord] : EndsWord [])⟩

instance (w : Text) : Decidable (IsOneWord w) := inferInstanceAs (Decidable (w ≠ [] ∧ IsWordText w))

example : IsOneWord "a\\ b".toList ∧ ¬ IsOneWord "a b".toList := by decide

theorem IsEscaped.scanQuoted (h : IsEscaped t) (rest : Text) :
    scanQuoted (t ++ '"' :: rest) = .ok (t, rest) := by
  induction h with
  | nil => rfl
  | plain hquote hescape hline _ ih =>
    rw [List.cons_append, scanQuoted.eq_4 _ _ (by simp [hescape]) (by simp [hescape]),
      if_neg hquote, if_neg hline, ih]
    rfl
  | escape c _ ih =>
    rw [List.cons_append, List.cons_append, scanQuoted.eq_3, ih]
    rfl

/-- A quoted string goes up to the first quote that is not escaped. -/
theorem scanQuoted_eq_ok_iff {s : Text} :
    scanQuoted s = .ok (t, rest) ↔ s = t ++ '"' :: rest ∧ IsEscaped t := by
  refine ⟨fun h => ?_, fun ⟨hs, h⟩ => hs ▸ h.scanQuoted rest⟩
  induction s using scanQuoted.induct generalizing t with
  | case1 => cases h
  | case2 => cases h
  | case3 c s ih =>
    rw [scanQuoted.eq_3] at h
    obtain ⟨⟨u, _⟩, hs, heq⟩ := map_eq_ok_iff.mp h
    obtain ⟨rfl, rfl⟩ := Prod.mk.inj heq
    obtain ⟨rfl, hu⟩ := ih hs
    exact ⟨rfl, .escape c hu⟩
  | case4 s hne hne' =>
    rw [scanQuoted.eq_4 _ _ hne hne', if_pos rfl] at h
    cases h
    exact ⟨rfl, .nil⟩
  | case5 s hne hne' hquote =>
    rw [scanQuoted.eq_4 _ _ hne hne', if_neg hquote, if_pos rfl] at h
    cases h
  | case6 c s hne hne' hquote hline ih =>
    have hescape : c ≠ '\\' := by
      rintro rfl
      cases s with
      | nil => exact hne rfl rfl
      | cons d s => exact hne' d s rfl rfl
    rw [scanQuoted.eq_4 _ _ hne hne', if_neg hquote, if_neg hline] at h
    obtain ⟨⟨u, _⟩, hs, heq⟩ := map_eq_ok_iff.mp h
    obtain ⟨rfl, rfl⟩ := Prod.mk.inj heq
    obtain ⟨rfl, hu⟩ := ih hs
    exact ⟨rfl, .plain hquote hescape hline hu⟩

instance (t : Text) : Decidable (IsEscaped t) :=
  decidable_of_iff (scanQuoted (t ++ ['"']) = .ok (t, []))
    (scanQuoted_eq_ok_iff.trans (and_iff_right rfl))

/-! ## Single tokens -/

theorem Spells.scanToken (h : Spells chunk token) (hrest : EndsWord rest) (comments : Bool) :
    scanToken comments depth (chunk ++ rest) = .ok (token, ⟨rest, depth⟩) := by
  cases h with
  | word h =>
    obtain ⟨c, w, rfl, hc⟩ := h.exists_cons
    have hspecial {special : Char} (hs : endsWord special = true) : c = special → False := by
      rintro rfl
      rw [hs] at hc
      cases hc
    have hword := h.2.scanWord hrest
    rw [List.cons_append] at hword ⊢
    rw [scanToken.eq_7 _ _ _ _ (hspecial (by decide)) (hspecial (by decide))
      (hspecial (by decide)) (hspecial (by decide)) (hspecial (by decide)), hword]
    rfl
  | @quoted t h =>
    rw [List.cons_append, List.append_assoc, List.singleton_append, scanToken.eq_4, h.scanQuoted]
    rfl

theorem Spells.next (h : Spells chunk token) (hrest : EndsWord rest) :
    Cursor.next ⟨chunk ++ rest, depth⟩ = .ok (token, ⟨rest, depth⟩) := by
  obtain ⟨c, u, rfl, hc⟩ := h.exists_cons
  rw [Cursor.next]
  show MasterFile.scanToken false depth ((c :: u ++ rest).dropWhile (isSeparator depth)) = _
  rw [List.cons_append, List.dropWhile_cons_of_neg (by simp [hc depth]), ← List.cons_append]
  exact h.scanToken hrest false

theorem Spells.first (h : Spells chunk token) (hrest : EndsWord rest) (comments : Bool) :
    Cursor.first ⟨chunk ++ rest, depth⟩ comments = .ok (token, ⟨rest, depth⟩) := by
  obtain ⟨c, u, rfl, hc⟩ := h.exists_cons
  rw [Cursor.first, if_neg (by simp [hc depth])]
  exact h.scanToken hrest comments

theorem next_line (rest : Text) : Cursor.next ⟨'\n' :: rest, 0⟩ = .ok (.line, ⟨rest, 0⟩) := by
  rw [Cursor.next]
  show MasterFile.scanToken false 0 (('\n' :: rest).dropWhile (isSeparator 0)) = _
  rw [List.dropWhile_cons_of_neg (by decide), scanToken.eq_5]

theorem first_line (rest : Text) :
    Cursor.first ⟨'\n' :: rest, 0⟩ true = .ok (.line, ⟨rest, 0⟩) := by
  rw [Cursor.first, if_neg (by simp [isSeparator])]
  exact scanToken.eq_5 true 0 rest

/-- Behind a quote a string is read. -/
theorem next_quote_eq_ok_iff {s : Text} (hblanks : ∀ c ∈ blanks, isSeparator depth c = true) :
    Cursor.next ⟨blanks ++ '"' :: s, depth⟩ = .ok (.quoted t, ⟨rest, depth⟩) ↔
      scanQuoted s = .ok (t, rest) := by
  rw [Cursor.next]
  show MasterFile.scanToken false depth ((blanks ++ '"' :: s).dropWhile (isSeparator depth)) = _ ↔ _
  rw [List.dropWhile_append_of_pos hblanks, List.dropWhile_cons_of_neg (by simp [isSeparator]),
    scanToken.eq_4, map_eq_ok_iff]
  constructor
  · rintro ⟨⟨_, _⟩, hs, ⟨⟩⟩
    exact hs
  · intro hs
    exact ⟨_, hs, rfl⟩

/-! ## Between tokens -/

theorem next_separator {c : Char} (h : isSeparator depth c = true) (rest : Text) :
    Cursor.next ⟨c :: rest, depth⟩ = Cursor.next ⟨rest, depth⟩ := by
  rw [Cursor.next, Cursor.next]
  show scanToken false depth ((c :: rest).dropWhile (isSeparator depth)) = _
  rw [List.dropWhile_cons_of_pos h]

theorem next_opening (rest : Text) :
    Cursor.next ⟨'(' :: rest, depth⟩ = Cursor.next ⟨rest, depth + 1⟩ := by
  rw [Cursor.next]
  show scanToken false depth (('(' :: rest).dropWhile (isSeparator depth)) = _
  rw [List.dropWhile_cons_of_neg (by simp [isSeparator]), scanToken.eq_2]
  rfl

theorem next_closing (rest : Text) :
    Cursor.next ⟨')' :: rest, depth + 1⟩ = Cursor.next ⟨rest, depth⟩ := by
  rw [Cursor.next]
  show scanToken false (depth + 1) ((')' :: rest).dropWhile (isSeparator (depth + 1))) = _
  rw [List.dropWhile_cons_of_neg (by simp [isSeparator]), scanToken.eq_3,
    if_neg (Nat.succ_ne_zero depth)]
  rfl

theorem dropWhile_comment (h : '\n' ∉ comment) (rest : Text) :
    (comment ++ '\n' :: rest).dropWhile (· ≠ '\n') = '\n' :: rest := by
  rw [List.dropWhile_append_of_pos fun c hc => ?_, List.dropWhile_cons_of_neg (by simp)]
  rw [decide_eq_true_eq]
  rintro rfl
  exact h hc

/-- Between parentheses a comment is read over with its line end; elsewhere it ends its line. -/
theorem next_comment (h : '\n' ∉ comment) (rest : Text) :
    Cursor.next ⟨';' :: (comment ++ '\n' :: rest), depth⟩ =
      if 0 < depth then Cursor.next ⟨rest, depth⟩ else .ok (.line, ⟨rest, depth⟩) := by
  rw [Cursor.next]
  show scanToken false depth ((';' :: (comment ++ '\n' :: rest)).dropWhile (isSeparator depth)) = _
  rw [List.dropWhile_cons_of_neg (by simp [isSeparator]), scanToken.eq_6, dropWhile_comment h]
  rfl

/-! ## Rows -/

/-- Which tokens are read from a cursor to the end of a row, and where reading goes on behind it. -/
inductive Yields : Cursor → List Token → Cursor → Prop where
  /-- The line ends. -/
  | finish {c c' : Cursor} (h : c.next = .ok (.line, c')) : Yields c [] c'
  /-- A token, and then the others; some of the text is read for it. -/
  | cons {c c₁ c' : Cursor} {token : Token} {tokens : List Token}
      (h : c.next = .ok (token, c₁)) (hends : token.endsLine = false)
      (hlt : c₁.rest.length < c.rest.length) (hrest : Yields c₁ tokens c') :
      Yields c (token :: tokens) c'

/-- What is read over before a token does not matter. -/
theorem Yields.of_next_eq {c c₁ c' : Cursor} (h : Yields c₁ tokens c') (hnext : c.next = c₁.next)
    (hle : c₁.rest.length ≤ c.rest.length) : Yields c tokens c' := by
  cases h with
  | finish h => exact .finish (hnext.trans h)
  | cons h hends hlt hrest => exact .cons (hnext.trans h) hends (Nat.lt_of_lt_of_le hlt hle) hrest

/-- The tokens of a row are read to its end. -/
theorem Row.yields (h : Row depth t tokens) (rest : Text) :
    Yields ⟨t ++ rest, depth⟩ tokens ⟨rest, 0⟩ := by
  induction h with
  | finish => exact .finish (next_line rest)
  | comment hcomment =>
    rw [List.cons_append, List.append_assoc]
    exact .finish (next_comment hcomment rest)
  | token hchunk hends hrow ih =>
    rw [List.append_assoc]
    refine .cons (hchunk.next (hends.append hrow.ne_nil rest)) hchunk.endsLine_eq_false ?_ ih
    obtain ⟨c, u, rfl, -⟩ := hchunk.exists_cons
    simp only [List.cons_append, List.length_append, List.length_cons]
    omega
  | blank hc _ ih =>
    refine ih.of_next_eq (next_separator ?_ _) (Nat.le_succ _)
    rcases hc with rfl | rfl <;> simp [isSeparator]
  | opening _ ih => exact ih.of_next_eq (next_opening _) (Nat.le_succ _)
  | closing _ ih => exact ih.of_next_eq (next_closing _) (Nat.le_succ _)
  | line _ ih => exact ih.of_next_eq (next_separator (by simp [isSeparator]) _) (Nat.le_succ _)
  | commentLine hcomment _ ih =>
    rw [List.cons_append, List.append_assoc, List.cons_append]
    refine ih.of_next_eq ((next_comment hcomment _).trans (if_pos (Nat.succ_pos _))) ?_
    simp only [List.length_append, List.length_cons]
    omega

end ZoneKeeper.MasterFile
