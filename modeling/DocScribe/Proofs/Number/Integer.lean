import DocScribe.Number.Integer
import DocScribe.Proofs.Number.Rendering

/-!
# 64-bit integers as text

An integer is read from its digits iff it fits into 64 bits (`readDecimal_signed`,
`bounds_of_readDecimal`), and `wrap` keeps just these integers (`wrap_eq_self_iff`).
-/

namespace DocScribe.Number

/-- The integer fits into 64 bits. -/
def Fits64 (n : Int) : Prop :=
  minInt ≤ n ∧ n ≤ maxInt

instance (n : Int) : Decidable (Fits64 n) :=
  inferInstanceAs (Decidable (_ ∧ _))

theorem withSign_eq_ok_iff {negative : Bool} {value : Nat} {n : Int} :
    withSign negative value = .ok n ↔
      n = (if negative then -(value : Int) else value) ∧ Fits64 n := by
  rw [withSign]
  generalize (if negative then -(value : Int) else value) = m
  constructor
  · intro h
    split at h
    · next hfits =>
      rw [← Except.ok.inj h]
      exact ⟨rfl, by simpa [Fits64] using hfits⟩
    · cases h
  · rintro ⟨rfl, hfits⟩
    exact if_pos (by simpa [Fits64] using hfits)

theorem takeSign_signed (n : Int) : takeSign (signed n) = (decide (n < 0), decimal n.natAbs) := by
  rw [Binary64.signed_eq]
  refine Binary64.takeSign_signText _ (fun b hb => ?_) (decimal_ne_nil _)
  exact isDigits_decimal _ b (List.mem_of_head? hb)

/-- An integer that fits is read as it was written. -/
theorem readDecimal_signed {n : Int} (hfits : Fits64 n) : readDecimal (signed n) = .ok n := by
  rw [readDecimal, takeSign_signed]
  dsimp only
  rw [digitsValue?_decimal]
  refine withSign_eq_ok_iff.2 ⟨?_, hfits⟩
  split
  · next hnegative =>
    have := of_decide_eq_true hnegative
    omega
  · next hnegative =>
    have : ¬ n < 0 := by simpa using hnegative
    omega

theorem bounds_of_readDecimal {s : Text} {n : Int} (h : readDecimal s = .ok n) : Fits64 n := by
  rw [readDecimal] at h
  dsimp only at h
  split at h
  · exact (withSign_eq_ok_iff.1 h).2
  · cases h

theorem not_mem_signed {b : UInt8} (hb : digitValue? b = none) (hminus : b ≠ 0x2d) (n : Int) :
    b ∉ signed n := by
  cases n with
  | ofNat k => exact not_mem_decimal hb k
  | negSucc k =>
    rw [signed, List.mem_cons, not_or]
    exact ⟨hminus, not_mem_decimal hb _⟩

theorem wrap_eq_self_iff {n : Int} : wrap n = n ↔ Fits64 n := by
  rw [wrap, Fits64, minInt, maxInt, show Nat.pow 2 64 = 18446744073709551616 from rfl]
  constructor
  · intro h
    have hlow := @Int.le_bmod n 18446744073709551616 (by decide)
    have hhigh := @Int.bmod_lt n 18446744073709551616 (by decide)
    omega
  · rintro ⟨hlow, hhigh⟩
    exact Int.bmod_eq_of_le (by omega) (by omega)

end DocScribe.Number
