import ZoneKeeper.Text.Basic

/-!
# Hexadecimal digits

Numbers written in small hexadecimal digits of a fixed width, as escapes and byte values need them.
-/

namespace ZoneKeeper.Text

/-- The small hexadecimal digit worth `n`, for `n` below sixteen. -/
def hexDigit (n : Nat) : Char :=
  if n < 10 then Char.ofNat (0x30 + n) else Char.ofNat (0x57 + n)

/-- The last `width` hexadecimal digits of a number, most significant first. -/
def hex : (width n : Nat) → Text
  | 0, _ => []
  | width + 1, n => hex width (n / 16) ++ [hexDigit (n % 16)]

@[simp] theorem length_hex (width n : Nat) : (hex width n).length = width := by
  induction width generalizing n with
  | zero => rfl
  | succ w ih => simp [hex, ih]

example : hex 2 0x0C = "0c".toList ∧ hex 4 0xFFFE = "fffe".toList := by decide

end ZoneKeeper.Text
