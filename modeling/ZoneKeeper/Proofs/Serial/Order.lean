import ZoneKeeper.Proofs.Text.Numeral
import ZoneKeeper.Serial.Basic
import ZoneKeeper.Serial.Line

/-!
# The order of serials

A serial of ten digits is compared as a number. The number grows with the day, whatever the version
is, and within a day with the version; so the order of the days and of the versions of a day is the
order of the serials.
-/

namespace ZoneKeeper

open Text

/-! ## Days -/

namespace Day

/-- A day of the calendar in a year of four digits. -/
structure IsDate (d : Day) : Prop where
  year_ge : 1000 ≤ d.year
  year_le : d.year ≤ 9999
  month_le : d.month ≤ 12
  day_le : d.day ≤ 31

theorem isDate_sample : IsDate ⟨2026, 10, 19⟩ := ⟨by decide, by decide, by decide, by decide⟩

/-- Whether a day comes before another one. -/
def Before (a b : Day) : Prop :=
  a.year < b.year ∨ a.year = b.year ∧ (a.month < b.month ∨ a.month = b.month ∧ a.day < b.day)

/-- The number that a day writes. -/
def number (d : Day) : Nat := 10000 * d.year + 100 * d.month + d.day

variable {a b d : Day}

/-- Later days write greater numbers. -/
theorem number_lt_number_iff (ha : a.IsDate) (hb : b.IsDate) :
    a.number < b.number ↔ a.Before b := by
  obtain ⟨-, -, ha, ha'⟩ := ha
  obtain ⟨-, -, hb, hb'⟩ := hb
  unfold number Before
  omega

theorem number_inj (ha : a.IsDate) (hb : b.IsDate) (h : a.number = b.number) : a = b := by
  obtain ⟨-, -, ha, ha'⟩ := ha
  obtain ⟨-, -, hb, hb'⟩ := hb
  cases a
  cases b
  simp only [number, mk.injEq] at *
  omega

/-- A stamp is eight ASCII digits and writes the number of its day. -/
theorem stamp_spec (h : d.IsDate) :
    d.stamp.length = 8 ∧ (∀ c ∈ d.stamp, isAsciiDigit c = true) ∧
      numeral? d.stamp = some d.number := by
  obtain ⟨hyear, hyear', hmonth, hday⟩ := h
  obtain ⟨hm, hm', hm''⟩ := twoDigits_spec (n := d.month) (by omega)
  obtain ⟨hd, hd', hd''⟩ := twoDigits_spec (n := d.day) (by omega)
  have hy : (decimal d.year).length = 4 := length_decimal (k := 3) (by omega) (by omega)
  unfold stamp
  refine ⟨by simp [hy, hm, hd], fun c hc => ?_, ?_⟩
  · rcases List.mem_append.mp hc with hc | hc
    · rcases List.mem_append.mp hc with hc | hc
      · exact isAsciiDigit_of_mem_decimal hc
      · exact hm' c hc
    · exact hd' c hc
  · simp only [numeral?_append, numeral?_decimal, hm, hm'', hd, hd'', Option.bind_some,
      Option.map_some, number]
    congr 1
    omega

theorem stamp_inj (ha : a.IsDate) (hb : b.IsDate) (h : a.stamp = b.stamp) : a = b := by
  have hnumber := (stamp_spec ha).2.2
  rw [h, (stamp_spec hb).2.2] at hnumber
  exact number_inj ha hb (Option.some.inj hnumber).symm

end Day

namespace Serial

/-- A serial as a number. -/
def Mark.number (m : Mark) : Nat := 100 * (numeral? m.stamp).getD 0 + m.version

/-- The serial of a day and a version is ten ASCII digits and writes the number of its mark. -/
theorem serial_spec {day : Day} (h : day.IsDate) {version : Nat} (hversion : version < 100) :
    (day.stamp ++ twoDigits version).length = 10 ∧
      (∀ c ∈ day.stamp ++ twoDigits version, isAsciiDigit c = true) ∧
      numeral? (day.stamp ++ twoDigits version) = some (Mark.number ⟨day.stamp, version⟩) := by
  obtain ⟨hstamp, hstamp', hstamp''⟩ := Day.stamp_spec h
  obtain ⟨hv, hv', hv''⟩ := twoDigits_spec hversion
  refine ⟨by simp [hstamp, hv], fun c hc => ?_, ?_⟩
  · rcases List.mem_append.mp hc with hc | hc
    · exact hstamp' c hc
    · exact hv' c hc
  · simp [numeral?_append, hstamp'', hv, hv'', Mark.number, Nat.mul_comm]

theorem Mark.number_stamp {day : Day} (h : day.IsDate) (version : Nat) :
    Mark.number ⟨day.stamp, version⟩ = 100 * day.number + version := by
  simp [Mark.number, (Day.stamp_spec h).2.2]

end Serial

end ZoneKeeper
