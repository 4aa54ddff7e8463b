import ZoneKeeper.Text.Utf8

/-!
# Encoding and decoding

Every text is decoded back from its bytes. The decoder is followed byte by byte through the one to
four bytes of a character; the induction over the text then carries the characters already read.
-/

namespace ZoneKeeper.Text.Utf8

theorem toNat_lt_or (c : Char) : c.toNat < 0xD800 ∨ 0xDFFF < c.toNat ∧ c.toNat < 0x110000 :=
  c.valid

theorem toNat_ofNat_of_lt {n : Nat} (h : n < 256) : (UInt8.ofNat n).toNat = n := by
  rw [UInt8.toNat_ofNat']
  omega

section Steps

variable (done : Text) (n : Nat) (rest : List UInt8)

theorem decodeFrom_ascii {b : Nat} (h : b < 0x80) :
    decodeFrom done n none (UInt8.ofNat b :: rest) =
      decodeFrom (Char.ofNat b :: done) (n + 1) none rest := by
  have hb : (UInt8.ofNat b).toNat = b := toNat_ofNat_of_lt (by omega)
  refine (if_pos (by rw [hb]; exact h)).trans ?_
  rw [hb]

theorem decodeFrom_lead {b : Nat} {p : Pending} (hb : b < 256) (h : 0x80 ≤ b)
    (hp : Pending.ofLead? b = some p) :
    decodeFrom done n none (UInt8.ofNat b :: rest) = decodeFrom done (n + 1) (some p) rest := by
  have hb := toNat_ofNat_of_lt hb
  refine (if_neg (by rw [hb]; omega)).trans ?_
  rw [hb, hp]

theorem decodeFrom_last {p : Pending} (k : Nat) (hmore : p.more = 0)
    (hleast : p.least ≤ 0x80 + k % 64) (hgreatest : 0x80 + k % 64 ≤ p.greatest) :
    decodeFrom done n (some p) (UInt8.ofNat (0x80 + k % 64) :: rest) =
      decodeFrom (Char.ofNat (64 * p.code + k % 64) :: done) (n + 1) none rest := by
  have hb : (UInt8.ofNat (0x80 + k % 64)).toNat = 0x80 + k % 64 := toNat_ofNat_of_lt (by omega)
  refine (if_pos (by rw [hb]; simp [hleast, hgreatest])).trans ?_
  simp only [hb, hmore, Nat.add_sub_cancel_left]

theorem decodeFrom_more {p : Pending} {m : Nat} (k : Nat) (hmore : p.more = m + 1)
    (hleast : p.least ≤ 0x80 + k % 64) (hgreatest : 0x80 + k % 64 ≤ p.greatest) :
    decodeFrom done n (some p) (UInt8.ofNat (0x80 + k % 64) :: rest) =
      decodeFrom done (n + 1)
        (some ⟨p.first, p.width + 1, m, 0x80, 0xBF, 64 * p.code + k % 64⟩) rest := by
  have hb : (UInt8.ofNat (0x80 + k % 64)).toNat = 0x80 + k % 64 := toNat_ofNat_of_lt (by omega)
  refine (if_pos (by rw [hb]; simp [hleast, hgreatest])).trans ?_
  simp only [hb, hmore, Nat.add_sub_cancel_left]

end Steps

/-- Decoding the bytes of one character gives the character, whatever follows. -/
theorem decodeFrom_encodeChar (c : Char) (done : Text) (n : Nat) (rest : List UInt8) :
    decodeFrom done n none (encodeChar c ++ rest) =
      decodeFrom (c :: done) (n + (encodeChar c).length) none rest := by
  have hc : Char.ofNat c.toNat = c := Char.ofNat_toNat c
  have hv := toNat_lt_or c
  unfold encodeChar
  generalize c.toNat = k at hc hv
  by_cases h1 : k < 0x80
  · simp only [h1, if_true, List.cons_append, List.nil_append]
    rw [decodeFrom_ascii done n _ h1, hc]
    rfl
  by_cases h2 : k < 0x800
  · have hlead : Pending.ofLead? (0xC0 + k / 64) =
        some ⟨0xC0 + k / 64, 1, 0, 0x80, 0xBF, k / 64⟩ := by
      unfold Pending.ofLead?
      rw [if_neg (by simp; omega), if_pos (by omega)]
      simp
    have hcode : 64 * (k / 64) + k % 64 = k := by omega
    simp only [h1, h2, if_false, if_true, List.cons_append, List.nil_append]
    rw [decodeFrom_lead done n _ (by omega) (by omega) hlead,
      decodeFrom_last done _ _ k rfl (by simp only []; omega) (by simp only []; omega), hcode, hc]
    rfl
  by_cases h3 : k < 0x10000
  · have hlead : Pending.ofLead? (0xE0 + k / 4096) =
        some ⟨0xE0 + k / 4096, 1, 1, if 0xE0 + k / 4096 = 0xE0 then 0xA0 else 0x80,
          if 0xE0 + k / 4096 = 0xED then 0x9F else 0xBF, k / 4096⟩ := by
      unfold Pending.ofLead?
      rw [if_neg (by simp; omega), if_neg (by omega), if_pos (by omega)]
      simp
    have hcode : 64 * (64 * (k / 4096) + k / 64 % 64) + k % 64 = k := by omega
    simp only [h1, h2, h3, if_false, if_true, List.cons_append, List.nil_append]
    rw [decodeFrom_lead done n _ (by omega) (by omega) hlead,
      decodeFrom_more done _ _ (m := 0) (k / 64) rfl
        (by simp only []; split <;> omega) (by simp only []; split <;> omega),
      decodeFrom_last done _ _ k rfl (by simp only []; omega) (by simp only []; omega), hcode, hc]
    rfl
  · have hlead : Pending.ofLead? (0xF0 + k / 262144) =
        some ⟨0xF0 + k / 262144, 1, 2, if 0xF0 + k / 262144 = 0xF0 then 0x90 else 0x80,
          if 0xF0 + k / 262144 = 0xF4 then 0x8F else 0xBF, k / 262144⟩ := by
      unfold Pending.ofLead?
      rw [if_neg (by simp; omega), if_neg (by omega), if_neg (by omega)]
      simp
    have hcode : 64 * (64 * (64 * (k / 262144) + k / 4096 % 64) + k / 64 % 64) + k % 64 = k := by
      omega
    simp only [h1, h2, h3, if_false, List.cons_append, List.nil_append]
    rw [decodeFrom_lead done n _ (by omega) (by omega) hlead,
      decodeFrom_more done _ _ (m := 1) (k / 4096) rfl
        (by simp only []; split <;> omega) (by simp only []; split <;> omega),
      decodeFrom_more done _ _ (m := 0) (k / 64) rfl
        (by simp only []; omega) (by simp only []; omega),
      decodeFrom_last done _ _ k rfl (by simp only []; omega) (by simp only []; omega), hcode, hc]
    rfl

/-- Decoding goes on where an encoded text ends. -/
theorem decodeFrom_encode (t done : Text) (n : Nat) (rest : List UInt8) :
    decodeFrom done n none (encode t ++ rest) =
      decodeFrom (t.reverse ++ done) (n + (encode t).length) none rest := by
  induction t generalizing done n with
  | nil => rfl
  | cons c t ih =>
    have he : encode (c :: t) = encodeChar c ++ encode t := List.flatMap_cons
    rw [he, List.append_assoc, decodeFrom_encodeChar, ih]
    simp [Nat.add_assoc]

/-- Decoding gives back every encoded text. -/
@[simp] theorem decode_encode (t : Text) : decode (encode t) = .ok t := by
  have h := decodeFrom_encode t [] 0 []
  simp only [List.append_nil] at h
  rw [decode, h]
  exact congrArg Except.ok t.reverse_reverse

end ZoneKeeper.Text.Utf8
