import Mathlib.Data.List.Forall2
import ZoneKeeper.Proofs.Serial.Line
import ZoneKeeper.Proofs.Text.Split

/-!
# Serial lines among the lines of a text

Line feeds cut a text into pieces, and all of them but the first and the last stand between two line
feeds. The serial lines among these are what cutting takes out: each cut takes the first of them
together with its line feed, and the others are left for the cuts after it.
-/

namespace ZoneKeeper

open Text

namespace Serial

/-- Whether a line is a serial line. -/
def IsSerialLine (line : Text) : Prop := ∃ l : Line, l.toText = line

/-- A serial line is one that reading takes in to its end. -/
theorem isSerialLine_iff {line : Text} :
    IsSerialLine line ↔ (lineAt? (line ++ ['\n'])).map Prod.snd = some [] := by
  simp only [Option.map_eq_some_iff, Prod.exists, exists_eq_right, lineAt?_eq_some_iff]
  constructor
  · rintro ⟨l, rfl⟩
    exact ⟨l.mark, l, rfl, rfl⟩
  · rintro ⟨mark, l, -, hline⟩
    exact ⟨l, (List.append_cancel_right hline).symm⟩

instance (line : Text) : Decidable (IsSerialLine line) := decidable_of_iff' _ isSerialLine_iff

/-- The lines of a text that stand between two line feeds: all of its pieces but the first and the
last. -/
def innerLines (t : Text) : List Text := (split '\n' t).tail.dropLast

/-- The serial lines of a text, in order. -/
def serialLines (t : Text) : List Text := (innerLines t).filter (IsSerialLine ·)

example : serialLines "\t2026101901\t; Serial\n\t2026101902\t; Serial\n\t2026101903\t; Serial".toList =
    ["\t2026101902\t; Serial".toList] := by decide

/-! ## Inner lines of texts that are put together -/

variable {t before after line : Text}

theorem innerLines_append_newline (before after : Text) :
    innerLines (before ++ '\n' :: after) = (split '\n' before).tail ++ (split '\n' after).dropLast := by
  rw [innerLines, split_append_separator, List.tail_append_of_ne_nil (split_ne_nil _ _),
    List.dropLast_append_of_ne_nil (split_ne_nil _ _)]

theorem innerLines_concat_newline (before : Text) :
    innerLines (before ++ ['\n']) = (split '\n' before).tail := by
  rw [innerLines_append_newline, split_nil]
  exact List.append_nil _

theorem innerLines_line (hline : '\n' ∉ line) (before after : Text) :
    innerLines (before ++ '\n' :: (line ++ '\n' :: after)) =
      (split '\n' before).tail ++ line :: (split '\n' after).dropLast := by
  rw [innerLines_append_newline, split_append_cons hline,
    List.dropLast_cons_of_ne_nil (split_ne_nil _ _)]

/-- An inner line has a line feed before it and one behind it. -/
theorem exists_of_mem_innerLines (h : line ∈ innerLines t) :
    ∃ before after, t = before ++ '\n' :: (line ++ '\n' :: after) := by
  obtain ⟨first, pieces, hpieces⟩ := List.exists_cons_of_ne_nil (split_ne_nil '\n' t)
  rw [innerLines, hpieces, List.tail_cons] at h
  obtain ⟨inner, last, rfl⟩ : ∃ inner last, pieces = inner ++ [last] := by
    rcases List.eq_nil_or_concat pieces with rfl | ⟨inner, last, rfl⟩
    · cases h
    · exact ⟨inner, last, List.concat_eq_append⟩
  rw [List.dropLast_concat] at h
  obtain ⟨before, after, rfl⟩ := List.append_of_mem h
  refine ⟨join ['\n'] (first :: before), join ['\n'] (after ++ [last]), ?_⟩
  have hafter : after ++ [last] ≠ [] := by simp
  calc t = join ['\n'] (split '\n' t) := (join_split '\n' t).symm
    _ = join ['\n'] ((first :: before) ++ (line :: (after ++ [last]))) := by
      rw [hpieces]
      simp
    _ = join ['\n'] (first :: before) ++ '\n' :: join ['\n'] ([line] ++ (after ++ [last])) :=
      join_append '\n' (List.cons_ne_nil _ _) (List.cons_ne_nil _ _)
    _ = _ := by
      rw [join_append '\n' (List.cons_ne_nil _ _) hafter]
      rfl

/-- A serial line between two line feeds is a serial line among the inner lines. -/
theorem hasLine_iff : HasLine t ↔ ∃ line ∈ innerLines t, IsSerialLine line := by
  constructor
  · rintro ⟨before, after, l, rfl⟩
    refine ⟨l.toText, ?_, l, rfl⟩
    rw [innerLines_line l.newline_not_mem]
    exact List.mem_append_right _ List.mem_cons_self
  · rintro ⟨_, hmem, l, rfl⟩
    obtain ⟨before, after, ht⟩ := exists_of_mem_innerLines hmem
    exact ⟨before, after, l, ht⟩

theorem cut?_eq_none_iff_innerLines :
    cut? t = none ↔ ∀ line ∈ innerLines t, ¬ IsSerialLine line := by
  rw [cut?_eq_none_iff, hasLine_iff]
  exact ⟨fun h line hmem hline => h ⟨line, hmem, hline⟩, fun h ⟨line, hmem, hline⟩ => h line hmem hline⟩

theorem serialLines_eq_nil_iff : serialLines t = [] ↔ cut? t = none := by
  rw [cut?_eq_none_iff_innerLines, serialLines, List.filter_eq_nil_iff]
  simp

/-! ## Cutting -/

/-- Cutting takes the first serial line out of a text: no line before it is a serial line, apart
from the first piece of the text, which is none whatever it says. -/
theorem cut?_eq_some_iff_innerLines {cut : Cut} :
    cut? t = some cut ↔ ∃ (before after : Text) (l : Line),
      t = before ++ '\n' :: (l.toText ++ '\n' :: after) ∧
        (∀ line ∈ (split '\n' before).tail, ¬ IsSerialLine line) ∧
        cut = ⟨before ++ '\n' :: after, l.mark⟩ := by
  rw [cut?_eq_some_iff]
  simp only [cut?_eq_none_iff_innerLines, innerLines_concat_newline]

/-- Cutting takes the first of the serial lines, and the body has the others. -/
theorem serialLines_of_cut? {cut : Cut} (h : cut? t = some cut) :
    ∃ l : Line, l.mark = cut.mark ∧ serialLines t = l.toText :: serialLines cut.body := by
  obtain ⟨before, after, l, rfl, hbefore, rfl⟩ := cut?_eq_some_iff_innerLines.mp h
  refine ⟨l, rfl, ?_⟩
  have hnone : (split '\n' before).tail.filter (IsSerialLine ·) = [] :=
    List.filter_eq_nil_iff.mpr fun line hline => by simpa using hbefore line hline
  have hl : IsSerialLine l.toText := ⟨l, rfl⟩
  rw [serialLines, serialLines, innerLines_line l.newline_not_mem, innerLines_append_newline,
    List.filter_append, List.filter_append, hnone, List.filter_cons_of_pos (by simpa using hl)]
  rfl

/-! ## Cutting again and again -/

theorem length_body_lt {cut : Cut} (h : cut? t = some cut) : cut.body.length < t.length := by
  obtain ⟨before, after, l, rfl, -, rfl⟩ := cut?_eq_some_iff.mp h
  simp only [List.length_append, List.length_cons]
  omega

/-- The cuts of a text one after another, each of the body that the one before leaves, as long as
there is something to cut. -/
def cuts (t : Text) : List Cut :=
  match _h : cut? t with
  | none => []
  | some cut => cut :: cuts cut.body
termination_by t.length
decreasing_by exact length_body_lt _h

theorem cuts_of_none (h : cut? t = none) : cuts t = [] := by
  rw [cuts]
  split
  · rfl
  · next hcut =>
    rw [h] at hcut
    cases hcut

theorem cuts_of_some {cut : Cut} (h : cut? t = some cut) : cuts t = cut :: cuts cut.body := by
  rw [cuts]
  split
  · next hcut =>
    rw [h] at hcut
    cases hcut
  · next hcut =>
    rw [h] at hcut
    cases hcut
    rfl

/-- The cuts one after another are those of the serial lines in order. -/
theorem forall₂_cuts (t : Text) :
    List.Forall₂ (fun cut line => ∃ l : Line, l.toText = line ∧ l.mark = cut.mark) (cuts t)
      (serialLines t) := by
  induction hn : t.length using Nat.strong_induction_on generalizing t with
  | _ n ih =>
    cases hcut : cut? t with
    | none =>
      rw [cuts_of_none hcut, serialLines_eq_nil_iff.mpr hcut]
      exact .nil
    | some cut =>
      obtain ⟨l, hmark, hlines⟩ := serialLines_of_cut? hcut
      rw [cuts_of_some hcut, hlines]
      exact .cons ⟨l, rfl, hmark⟩ (ih _ (hn ▸ length_body_lt hcut) cut.body rfl)

/-- Cutting by lines: a text is not cut exactly if none of its lines between two line feeds is a
serial line; otherwise the first of these goes with its line feed, all other characters stay where
they are, and its digits are the serial. The next cut takes the next of the lines of the text, so
there are as many cuts in turn as serial lines. -/
theorem cut_by_lines (t : Text) :
    (cut? t = none ↔ ∀ line ∈ innerLines t, ¬ IsSerialLine line) ∧
      (∀ cut, cut? t = some cut ↔ ∃ (before after : Text) (l : Line) (version : Nat),
        t = before ++ '\n' :: (l.toText ++ '\n' :: after) ∧
          (∀ line ∈ (split '\n' before).tail, ¬ IsSerialLine line) ∧
          numeral? l.version = some version ∧ version ≤ 99 ∧
          cut = ⟨before ++ '\n' :: after, ⟨l.stamp, version⟩⟩) ∧
      (∀ cut, cut? t = some cut → serialLines cut.body = (serialLines t).tail) ∧
      List.Forall₂ (fun cut line => ∃ l : Line, l.toText = line ∧ l.mark = cut.mark) (cuts t)
        (serialLines t) ∧
      (cuts t).length = (serialLines t).length := by
  refine ⟨cut?_eq_none_iff_innerLines, fun cut => ?_, fun cut hcut => ?_, forall₂_cuts t,
    (forall₂_cuts t).length_eq⟩
  · rw [cut?_eq_some_iff_innerLines]
    constructor
    · rintro ⟨before, after, l, ht, hbefore, rfl⟩
      obtain ⟨version, hversion, hle, hmark⟩ := l.exists_version
      exact ⟨before, after, l, version, ht, hbefore, hversion, hle, by rw [hmark]⟩
    · rintro ⟨before, after, l, version, ht, hbefore, hversion, -, rfl⟩
      exact ⟨before, after, l, ht, hbefore, by rw [Line.mark, hversion]; rfl⟩
  · obtain ⟨l, -, hlines⟩ := serialLines_of_cut? hcut
    rw [hlines, List.tail_cons]

end Serial

end ZoneKeeper
