import Mathlib.Tactic.Ring
import ZoneKeeper.Text.Digit

/-!
# Digits and numerals

What digits write: every numeral of `n` digits writes a number below `10 ^ n`, a numeral in two
parts is read part by part, and the digits that a number is written with are read back as the
number.
-/

namespace ZoneKeeper.Text

/-- Whether all characters of a text have a property is decided from its characters, not by going
through all characters that there are. -/
instance (priority := high) (t : Text) (p : Char → Prop) [DecidablePred p] :
    Decidable (∀ c ∈ t, p c) :=
  List.decidableBAll p t

/-- What is true of all characters below a code point can be checked one after another. -/
theorem forall_toNat_lt {p : Char → Prop} {n : Nat} (h : ∀ k < n, p (Char.ofNat k)) {c : Char}
    (hc : c.toNat < n) : p c := by
  have hp := h c.toNat hc
  rwa [Char.ofNat_toNat] at hp

/-! ## Digits -/

theorem isAsciiDigit_iff {c : Char} : isAsciiDigit c = true ↔ 48 ≤ c.toNat ∧ c.toNat ≤ 57 := by
  simp only [isAsciiDigit, Bool.and_eq_true, decide_eq_true_eq, Char.le_def, UInt32.le_iff_toNat_le]
  rfl

/-- An ASCII digit is worth its distance from `0`. -/
theorem digitValue?_of_isAsciiDigit {c : Char} (h : isAsciiDigit c = true) :
    digitValue? c = some (c.toNat - 48) := by
  obtain ⟨h1, h2⟩ := isAsciiDigit_iff.mp h
  have hz : digitZeros.find? (fun z => z ≤ c.toNat && c.toNat < z + 10) = some 48 := by
    unfold digitZeros
    rw [List.find?_cons_of_pos]
    simp
    omega
  simp [digitValue?, hz]

theorem isDigit_of_isAsciiDigit {c : Char} (h : isAsciiDigit c = true) : isDigit c = true := by
  simp [isDigit, digitValue?_of_isAsciiDigit h]

theorem digitValue?_lt {c : Char} {n : Nat} (h : digitValue? c = some n) : n < 10 := by
  obtain ⟨z, hz, rfl⟩ := Option.map_eq_some_iff.mp h
  have hin := List.find?_some hz
  simp only [Bool.and_eq_true, decide_eq_true_eq] at hin
  omega

/-! ## Numerals -/

/-- The number that digits write after digits that wrote `n`. -/
def numeralFrom? (n : Nat) (t : Text) : Option Nat :=
  t.foldlM (fun n c => (digitValue? c).map (10 * n + ·)) n

theorem numeralFrom?_cons (n : Nat) (c : Char) (t : Text) :
    numeralFrom? n (c :: t) = (digitValue? c).bind fun d => numeralFrom? (10 * n + d) t := by
  cases h : digitValue? c <;> simp [numeralFrom?, List.foldlM_cons, h]

/-- The digits before count as many times as the digits after have places. -/
theorem numeralFrom?_eq (n : Nat) (t : Text) :
    numeralFrom? n t = (numeral? t).map (n * 10 ^ t.length + ·) := by
  show _ = (numeralFrom? 0 t).map _
  induction t generalizing n with
  | nil => simp [numeralFrom?]
  | cons c t ih =>
    rw [numeralFrom?_cons, numeralFrom?_cons]
    cases hc : digitValue? c with
    | none => rfl
    | some d =>
      simp only [Option.bind_some]
      rw [ih, ih (10 * 0 + d), Option.map_map]
      congr 1
      funext k
      simp only [Function.comp, List.length_cons]
      ring

theorem numeral?_append (s t : Text) :
    numeral? (s ++ t) = (numeral? s).bind fun n => (numeral? t).map (n * 10 ^ t.length + ·) := by
  have h : numeral? (s ++ t) = (numeral? s).bind fun n => numeralFrom? n t := List.foldlM_append ..
  simp [h, numeralFrom?_eq]

theorem numeral?_cons (c : Char) (t : Text) :
    numeral? (c :: t) = (digitValue? c).bind fun d => (numeral? t).map (d * 10 ^ t.length + ·) := by
  show numeralFrom? 0 (c :: t) = _
  rw [numeralFrom?_cons]
  cases digitValue? c with
  | none => rfl
  | some d => simp [numeralFrom?_eq]

/-- Digits write a number with at most as many places as there are digits. -/
theorem exists_numeral? {t : Text} (h : ∀ c ∈ t, isDigit c = true) :
    ∃ n, numeral? t = some n ∧ n < 10 ^ t.length := by
  induction t with
  | nil => exact ⟨0, rfl, by simp⟩
  | cons c t ih =>
    obtain ⟨n, hn, hlt⟩ := ih fun c hc => h c (List.mem_cons_of_mem _ hc)
    obtain ⟨d, hd⟩ := Option.isSome_iff_exists.mp (h c List.mem_cons_self)
    have hd10 := digitValue?_lt hd
    refine ⟨d * 10 ^ t.length + n, by simp [numeral?_cons, hd, hn], ?_⟩
    calc d * 10 ^ t.length + n < (d + 1) * 10 ^ t.length := by rw [Nat.add_mul]; omega
      _ ≤ 10 * 10 ^ t.length := Nat.mul_le_mul_right _ (by omega)
      _ = 10 ^ (c :: t).length := by rw [List.length_cons, Nat.pow_succ, Nat.mul_comm]

/-! ## Numbers in digits -/

theorem isAsciiDigit_of_mem_decimal {n : Nat} {c : Char} (h : c ∈ decimal n) :
    isAsciiDigit c = true := by
  have hd := Nat.isDigit_of_mem_toDigits (by decide) (by decide) h
  exact isAsciiDigit_iff.mpr (Char.isDigit_iff_toNat.mp hd)

theorem numeral?_eq_ofDigitChars {t : Text} (h : ∀ c ∈ t, isAsciiDigit c = true) :
    numeral? t = some (Nat.ofDigitChars 10 t 0) := by
  induction t with
  | nil => rfl
  | cons c t ih =>
    have hfrom := @Nat.ofDigitChars_eq_ofDigitChars_zero t (10 * 0 + (c.toNat - '0'.toNat))
    rw [numeral?_cons, digitValue?_of_isAsciiDigit (h c List.mem_cons_self),
      ih fun c hc => h c (List.mem_cons_of_mem _ hc), Nat.ofDigitChars_cons, hfrom]
    simp [Nat.mul_comm]

/-- Among as many ASCII digits, a number is written in one way only. -/
theorem numeral?_inj {s t : Text} (hlen : s.length = t.length)
    (hs : ∀ c ∈ s, isAsciiDigit c = true) (ht : ∀ c ∈ t, isAsciiDigit c = true)
    (h : numeral? s = numeral? t) : s = t := by
  induction s generalizing t with
  | nil => exact (List.length_eq_zero_iff.mp hlen.symm).symm
  | cons c s ih =>
    obtain ⟨d, t, rfl⟩ := List.exists_cons_of_length_eq_add_one hlen.symm
    obtain ⟨hc, hs⟩ := List.forall_mem_cons.mp hs
    obtain ⟨hd, ht⟩ := List.forall_mem_cons.mp ht
    have hrest : s.length = t.length := Nat.succ.inj hlen
    obtain ⟨m, hm, hmlt⟩ := exists_numeral? fun c hc => isDigit_of_isAsciiDigit (hs c hc)
    obtain ⟨n, hn, hnlt⟩ := exists_numeral? fun c hc => isDigit_of_isAsciiDigit (ht c hc)
    simp only [numeral?_cons, digitValue?_of_isAsciiDigit hc, digitValue?_of_isAsciiDigit hd, hm, hn,
      hrest, Option.bind_some, Option.map_some, Option.some.injEq] at h
    rw [hrest] at hmlt
    have hpos : 0 < 10 ^ t.length := Nat.pow_pos (by decide)
    -- The places behind the first digit make less than one of it.
    have hfirst : c.toNat - 48 = d.toNat - 48 := by
      have hdiv := congrArg (· / 10 ^ t.length) h
      simpa [Nat.add_comm, Nat.add_mul_div_right, hpos, Nat.div_eq_of_lt, hmlt, hnlt] using hdiv
    have hvalue : m = n := by
      rw [hfirst] at h
      exact Nat.add_left_cancel h
    obtain ⟨hcge, -⟩ := isAsciiDigit_iff.mp hc
    obtain ⟨hdge, -⟩ := isAsciiDigit_iff.mp hd
    have hchar : c = d := Char.toNat_inj.mp (by omega)
    rw [hchar, ih hrest hs ht (by rw [hm, hn, hvalue])]

/-- A number in digits is read back. -/
@[simp] theorem numeral?_decimal (n : Nat) : numeral? (decimal n) = some n := by
  rw [numeral?_eq_ofDigitChars fun c => isAsciiDigit_of_mem_decimal]
  simp [decimal]

/-- A number has as many digits as places. -/
theorem length_decimal {n k : Nat} (h : 10 ^ k ≤ n) (h' : n < 10 ^ (k + 1)) :
    (decimal n).length = k + 1 := by
  have hle := (Nat.length_toDigits_le_iff (b := 10) (by decide) (Nat.succ_pos k)).mpr h'
  cases k with
  | zero =>
    have hpos := Nat.length_toDigits_pos (b := 10) (n := n)
    unfold decimal
    omega
  | succ k =>
    have hnot := (Nat.length_toDigits_le_iff (b := 10) (n := n) (by decide)
      (Nat.succ_pos k)).not.mpr (by omega)
    unfold decimal
    omega

/-- Two digits are ASCII digits and read back. -/
theorem twoDigits_spec {n : Nat} (h : n < 100) :
    (twoDigits n).length = 2 ∧ (∀ c ∈ twoDigits n, isAsciiDigit c = true) ∧
      numeral? (twoDigits n) = some n := by
  unfold twoDigits
  split
  · next h10 =>
    have hlen : (decimal n).length = 1 := by
      rw [decimal, Nat.toDigits_of_lt_base h10]
      rfl
    have hzero : digitValue? '0' = some 0 := by decide
    refine ⟨by simp [hlen], ?_, by simp [numeral?_cons, hlen, hzero]⟩
    intro c hc
    rcases List.mem_cons.mp hc with rfl | hc
    · rfl
    · exact isAsciiDigit_of_mem_decimal hc
  · next h10 =>
    exact ⟨length_decimal (k := 1) (by omega) (by omega), fun c => isAsciiDigit_of_mem_decimal,
      numeral?_decimal n⟩

end ZoneKeeper.Text
