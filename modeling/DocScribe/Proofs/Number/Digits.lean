import DocScribe.Number.Digits
import Mathlib.Algebra.Group.Nat.Defs

/-!
# Numbers as digits

The digits of a number read back as the number, in decimal (`digitsValue?_decimal`) and in
hexadecimal (`digitsValue?_hex`), with leading zeros or without. So two numbers with the same digits
are one, and a byte that is no digit stands in none of these texts (`not_mem_of_extendValue?`).
-/

namespace DocScribe.Number

theorem digitValue?_digitByte {d : Nat} (h : d < 16) : digitValue? (digitByte d) = some d := by
  revert d
  decide

theorem extendValue?_append (base value : Nat) (front back : Text) :
    extendValue? base value (front ++ back) =
      (extendValue? base value front).bind fun value => extendValue? base value back := by
  induction front generalizing value with
  | nil => rfl
  | cons b front ih =>
    rw [List.cons_append, extendValue?, extendValue?]
    cases digitValue? b with
    | none => rfl
    | some d =>
      dsimp only
      split
      · exact ih _
      · rfl

theorem extendValue?_digitByte {base d : Nat} (hbase : base ≤ 16) (h : d < base) (value : Nat) :
    extendValue? base value [digitByte d] = some (value * base + d) := by
  rw [extendValue?, digitValue?_digitByte (Nat.lt_of_lt_of_le h hbase)]
  dsimp only
  rw [if_pos h, extendValue?]

/-- Digits that are written from the last one to the first read back as the number. -/
theorem extendValue?_digits {base : Nat} (hone : 1 < base) (hbase : base ≤ 16)
    {write : Nat → Text} (hwrite : ∀ n, write n =
      if n < base then [digitByte n] else write (n / base) ++ [digitByte (n % base)]) (n : Nat) :
    extendValue? base 0 (write n) = some n := by
  induction n using Nat.strongRecOn with
  | ind n ih =>
    rw [hwrite]
    split
    · next h => rw [extendValue?_digitByte hbase h, Nat.zero_mul, Nat.zero_add]
    · next h =>
      have hsmaller : n / base < n := Nat.div_lt_self (by omega) hone
      rw [extendValue?_append, ih _ hsmaller, Option.bind_some,
        extendValue?_digitByte hbase (Nat.mod_lt n (by omega)), Nat.div_add_mod']

theorem extendValue?_decimal (n : Nat) : extendValue? 10 0 (decimal n) = some n :=
  extendValue?_digits (by decide) (by decide) decimal.eq_def n

theorem extendValue?_hexDigits (n : Nat) : extendValue? 16 0 (hexDigits n) = some n :=
  extendValue?_digits (by decide) (by decide) hexDigits.eq_def n

/-- Leading zeros do not change a number. -/
theorem extendValue?_padLeft {base : Nat} (hbase : 0 < base) (width : Nat) (s : Text) :
    extendValue? base 0 (padLeft 0x30 width s) = extendValue? base 0 s := by
  rw [padLeft]
  generalize width - s.length = zeros
  induction zeros with
  | zero => rfl
  | succ zeros ih =>
    rw [List.replicate_succ, List.cons_append, extendValue?,
      show digitValue? 0x30 = some 0 from rfl]
    dsimp only
    rw [if_pos hbase, Nat.zero_mul, ih]

theorem extendValue?_padded (width n : Nat) : extendValue? 10 0 (padded width n) = some n := by
  rw [padded, extendValue?_padLeft (by decide), extendValue?_decimal]

theorem extendValue?_hex (width n : Nat) : extendValue? 16 0 (hex width n) = some n := by
  rw [hex, extendValue?_padLeft (by decide), extendValue?_hexDigits]

theorem decimal_ne_nil (n : Nat) : decimal n ≠ [] := by
  rw [decimal]
  split <;> simp

theorem hex_ne_nil (width n : Nat) : hex width n ≠ [] := by
  rw [hex, padLeft, hexDigits]
  split <;> simp

theorem digitsValue?_decimal (n : Nat) : digitsValue? 10 (decimal n) = some n := by
  rw [digitsValue?, if_neg (by simpa using decimal_ne_nil n), extendValue?_decimal]

theorem digitsValue?_hex (width n : Nat) : digitsValue? 16 (hex width n) = some n := by
  rw [digitsValue?, if_neg (by simpa using hex_ne_nil width n), extendValue?_hex]

theorem decimal_injective {n m : Nat} (h : decimal n = decimal m) : n = m := by
  have hvalue := digitsValue?_decimal n
  rw [h, digitsValue?_decimal] at hvalue
  exact (Option.some.inj hvalue).symm

theorem length_hexDigits_le {width n : Nat} (hwidth : 0 < width) (h : n < 16 ^ width) :
    (hexDigits n).length ≤ width := by
  fun_induction hexDigits n generalizing width with
  | case1 n hn => exact hwidth
  | case2 n hn ih =>
    obtain ⟨width, rfl⟩ := Nat.exists_eq_add_one_of_ne_zero (Nat.ne_of_gt hwidth)
    have hrest : 0 < width := by
      rcases Nat.eq_zero_or_pos width with rfl | hpos
      · exact absurd h hn
      · exact hpos
    have hlength := ih hrest (Nat.div_lt_of_lt_mul (by rwa [Nat.pow_succ, Nat.mul_comm] at h))
    simpa using hlength

/-- A number that fits takes just the width. -/
theorem length_hex {width n : Nat} (hwidth : 0 < width) (h : n < 16 ^ width) :
    (hex width n).length = width := by
  have hlength := length_hexDigits_le hwidth h
  rw [hex, padLeft, List.length_append, List.length_replicate, Nat.sub_add_cancel hlength]

/-- What is read as a number holds digits only. -/
theorem not_mem_of_extendValue? {b : UInt8} (hb : digitValue? b = none) {base value n : Nat}
    {s : Text} (h : extendValue? base value s = some n) : b ∉ s := by
  induction s generalizing value with
  | nil => exact List.not_mem_nil
  | cons c s ih =>
    rw [extendValue?] at h
    cases hc : digitValue? c with
    | none =>
      rw [hc] at h
      cases h
    | some d =>
      rw [hc] at h
      dsimp only at h
      split at h
      · rw [List.mem_cons, not_or]
        refine ⟨?_, ih h⟩
        rintro rfl
        rw [hb] at hc
        cases hc
      · cases h

theorem not_mem_decimal {b : UInt8} (hb : digitValue? b = none) (n : Nat) : b ∉ decimal n :=
  not_mem_of_extendValue? hb (extendValue?_decimal n)

theorem not_mem_padded {b : UInt8} (hb : digitValue? b = none) (width n : Nat) :
    b ∉ padded width n :=
  not_mem_of_extendValue? hb (extendValue?_padded width n)

theorem not_mem_hex {b : UInt8} (hb : digitValue? b = none) (width n : Nat) : b ∉ hex width n :=
  not_mem_of_extendValue? hb (extendValue?_hex width n)

end DocScribe.Number
