import DocScribe.Proofs.Number.Rendering

/-!
# Numbers of the format

Every number that is rounded or read has a significand and an exponent that the format allows
(`inFormat_ofRatio`, `inFormat_read`). A whole number from `2^53` on is not rounded to one below, so
an integer that is read as one below `2^53` is that one (`eq_of_read_signed`). Finite numbers of the
format that are equal as numbers are the same but for the sign of zero (`same_iff_eq`).
-/

namespace DocScribe.Number.Binary64

/-- A finite number has a significand and an exponent that the format allows. -/
def InFormat (x : Binary64) : Prop :=
  match x with
  | .finite .. => x.IsFinite
  | _ => True

theorem IsFinite.inFormat {x : Binary64} (h : x.IsFinite) : x.InFormat := by
  cases x with
  | finite => exact h
  | nan => trivial
  | infinite => trivial

/-! Rounding keeps the order. -/

theorem le_roundDiv {num den k : Nat} (hden : 0 < den) (h : k * den ≤ num) :
    k ≤ roundDiv num den := by
  have hquotient : k ≤ num / den := (Nat.le_div_iff_mul_le hden).2 h
  rw [roundDiv]
  split <;> omega

theorem roundDiv_le {num den k : Nat} (hden : 0 < den) (h : num ≤ k * den) :
    roundDiv num den ≤ k := by
  have hquotient : num / den ≤ k := Nat.div_le_of_le_mul (by rwa [mul_comm])
  have hnum : den * (num / den) + num % den = num := Nat.div_add_mod num den
  rw [roundDiv]
  split
  · next hup =>
    -- A quotient that is rounded up has a remainder, so it is below `k`.
    have hrest : num % den ≠ 0 := by
      intro hzero
      simp only [hzero, Bool.or_eq_true, Bool.and_eq_true, beq_iff_eq, decide_eq_true_eq] at hup
      omega
    have hne : num / den ≠ k := by
      rintro rfl
      rw [mul_comm] at h
      omega
    omega
  · exact hquotient

section Significand

variable {num den k : Nat} (hden : 0 < den) {q : Int}
include hden

theorem le_significand (h : (k : ℚ) ≤ num / den / 2 ^ q) : k ≤ significand num den q := by
  have hden' : (0 : ℚ) < den := by exact_mod_cast hden
  rw [le_div_iff₀ (by positivity), le_div_iff₀ hden'] at h
  cases q with
  | ofNat j =>
    refine le_roundDiv (Nat.mul_pos hden (Nat.pow_pos (by decide))) ?_
    rw [Int.ofNat_eq_natCast, zpow_natCast, mul_assoc, mul_comm (2 ^ j : ℚ)] at h
    exact_mod_cast h
  | negSucc j =>
    refine le_roundDiv hden ?_
    rw [zpow_negSucc, mul_right_comm, ← div_eq_mul_inv, div_le_iff₀ (by positivity)] at h
    exact_mod_cast h

theorem significand_le (h : (num : ℚ) / den / 2 ^ q ≤ k) : significand num den q ≤ k := by
  have hden' : (0 : ℚ) < den := by exact_mod_cast hden
  rw [div_le_iff₀ (by positivity), div_le_iff₀ hden'] at h
  cases q with
  | ofNat j =>
    refine roundDiv_le (Nat.mul_pos hden (Nat.pow_pos (by decide))) ?_
    rw [Int.ofNat_eq_natCast, zpow_natCast, mul_assoc, mul_comm (2 ^ j : ℚ)] at h
    exact_mod_cast h
  | negSucc j =>
    refine roundDiv_le hden ?_
    rw [zpow_negSucc, mul_right_comm, ← div_eq_mul_inv, le_div_iff₀ (by positivity)] at h
    exact_mod_cast h

end Significand

/-- The significand of a quotient before a carry: at most `2^53`, and at least `2^52` unless the
exponent is the smallest one. -/
theorem significand_bounds {num den : Nat} (hnum : 0 < num) (hden : 0 < den) :
    significand num den (max (exponentOf num den - 52) minExponent) ≤ 2 ^ 53 ∧
      (2 ^ 52 ≤ significand num den (max (exponentOf num den - 52) minExponent) ∨
        max (exponentOf num den - 52) minExponent = minExponent) := by
  obtain ⟨hlow, hhigh⟩ := exponentOf_spec hnum hden
  generalize exponentOf num den = e at hlow hhigh
  generalize hq : max (e - 52) minExponent = q
  constructor
  · refine significand_le hden ?_
    have hle : (2 : ℚ) ^ (e + 1) ≤ 2 ^ (q + (53 : Nat)) :=
      (zpow_le_zpow_iff_right₀ one_lt_two).2 (by omega)
    rw [two_zpow_add] at hle
    rw [div_le_iff₀ (by positivity)]
    push_cast
    exact hhigh.le.trans hle
  · by_cases hleast : q = minExponent
    · exact .inr hleast
    · have he : (2 : ℚ) ^ (q + (52 : Nat)) = 2 ^ e := by
        congr 1
        omega
      rw [two_zpow_add] at he
      refine .inl (le_significand hden ?_)
      rw [le_div_iff₀ (by positivity)]
      push_cast
      exact he.le.trans hlow

/-- A quotient that is rounded to a finite number: the number is one of the format, and its exponent
is no smaller than that of the quotient. -/
theorem isFinite_of_ofRatio {num den : Nat} (hnum : 0 < num) (hden : 0 < den)
    {negative negative' : Bool} {m : Nat} {q : Int}
    (h : ofRatio negative num den = .finite negative' m q) :
    IsFinite (.finite negative' m q) ∧ exponentOf num den - 52 ≤ q := by
  obtain ⟨hmost, hnormal⟩ := significand_bounds hnum hden
  rw [ofRatio_eq hnum.ne'] at h
  dsimp only at h
  generalize hq : max (exponentOf num den - 52) minExponent = q' at h hmost hnormal
  generalize significand num den q' = m' at h hmost hnormal
  by_cases hcarry : m' = 2 ^ 53
  · rw [if_pos (show (m' == Nat.pow 2 53) = true from beq_iff_eq.2 hcarry)] at h
    split_ifs at h with hrange
    obtain ⟨-, hm, hexponent⟩ := Binary64.finite.inj h
    have hm : m = 2 ^ 52 := hm.symm
    refine ⟨.inl ⟨?_, ?_, by omega, by omega, .inl hm.ge⟩, by omega⟩
    · rw [hm]
      positivity
    · rw [hm]
      exact Nat.pow_lt_pow_right (by decide) (by decide)
  · rw [if_neg (show ¬ (m' == Nat.pow 2 53) = true from mt beq_iff_eq.1 hcarry)] at h
    split_ifs at h with hrange
    obtain ⟨-, hm, hexponent⟩ := Binary64.finite.inj h
    obtain rfl : m' = m := hm
    obtain rfl : q' = q := hexponent
    refine ⟨?_, by omega⟩
    rcases Nat.eq_zero_or_pos m' with hzero | hpos
    · exact .inr ⟨hzero, hnormal.resolve_left (by omega)⟩
    · exact .inl ⟨hpos, by omega, by omega, by omega, hnormal⟩

theorem inFormat_ofRatio (negative : Bool) (num : Nat) {den : Nat} (hden : 0 < den) :
    (ofRatio negative num den).InFormat := by
  rcases Nat.eq_zero_or_pos num with rfl | hnum
  · exact show IsFinite (.finite negative 0 minExponent) from .inr ⟨rfl, rfl⟩
  · cases hratio : ofRatio negative num den with
    | nan => trivial
    | infinite => trivial
    | finite negative' m q => exact (isFinite_of_ofRatio hnum hden hratio).1

theorem inFormat_ofDecimal (negative : Bool) (m : Nat) (e : Int) :
    (ofDecimal negative m e).InFormat := by
  cases e with
  | ofNat k => exact inFormat_ofRatio _ _ Nat.one_pos
  | negSucc k => exact inFormat_ofRatio _ _ (Nat.pow_pos (by decide))

theorem inFormat_ofBinary (negative : Bool) (m : Nat) (e : Int) :
    (ofBinary negative m e).InFormat := by
  cases e with
  | ofNat k => exact inFormat_ofRatio _ _ Nat.one_pos
  | negSucc k => exact inFormat_ofRatio _ _ (Nat.pow_pos (by decide))

theorem eq_of_inRange {x y : Binary64} (h : inRange x = .ok y) : x = y := by
  cases x with
  | infinite => cases h
  | nan => exact Except.ok.inj h
  | finite => exact Except.ok.inj h

theorem inFormat_readNumber {s : Text} {x : Binary64} (h : readNumber s = .ok x) : x.InFormat := by
  rw [readNumber] at h
  dsimp only at h
  split at h
  · split_ifs at h
    · rw [← eq_of_inRange h]
      exact inFormat_ofBinary _ _ _
    · rw [← eq_of_inRange h]
      exact inFormat_ofDecimal _ _ _
  · cases h

/-- Whatever is read is a number of the format. -/
theorem inFormat_read {s : Text} {x : Binary64} (h : read s = .ok x) : x.InFormat := by
  rw [read] at h
  dsimp only at h
  split_ifs at h
  · rw [← Except.ok.inj h]
    trivial
  · rw [← Except.ok.inj h]
    trivial
  · exact inFormat_readNumber h

/-! Integers. -/

theorem read_signed (n : Int) :
    read (signed n) = inRange (ofRatio (decide (n < 0)) n.natAbs 1) := by
  have hread := read_text (wellFormed_signedNumeral n)
  rw [text_signedNumeral, signedNumeral, List.append_nil, digitsNat_decimal] at hread
  rw [hread]
  exact congrArg inRange (by simp [Numeral.exponentValue, ofDecimal])

theorem natAbs_truncate (negative : Bool) (m k : Nat) :
    (finite negative m (.ofNat k)).truncate = minInt ∨
      (finite negative m (.ofNat k)).truncate.natAbs = m * 2 ^ k := by
  simp only [truncate, Nat.pow_eq]
  generalize m * 2 ^ k = n
  split_ifs
  · exact .inr (by omega)
  · exact .inl rfl
  · exact .inr (by omega)
  · exact .inl rfl

/-- An integer from `2^53` on is not read as a number whose integer part is below. -/
theorem le_natAbs_truncate {n : Int} (hn : 2 ^ 53 ≤ n.natAbs) {x : Binary64}
    (h : read (signed n) = .ok x) : 2 ^ 53 ≤ x.truncate.natAbs := by
  have hmin : 2 ^ 53 ≤ minInt.natAbs := by decide
  have hpos : 0 < n.natAbs := lt_of_lt_of_le (by positivity) hn
  rw [read_signed] at h
  have hratio := eq_of_inRange h
  cases x with
  | nan => exact hmin
  | infinite => exact hmin
  | finite negative m q =>
    obtain ⟨hfinite, hexponent⟩ := isFinite_of_ofRatio hpos Nat.one_pos hratio
    have hlarge : (2 : ℚ) ^ (53 : Int) < 2 ^ (exponentOf n.natAbs 1 + 1) := by
      refine lt_of_le_of_lt ?_ (exponentOf_spec hpos Nat.one_pos).2
      rw [Nat.cast_one, div_one]
      exact_mod_cast hn
    have hone : 1 ≤ q := by
      have := lt_of_two_zpow_lt hlarge
      omega
    have hleast : q ≠ minExponent := by
      rw [minExponent]
      omega
    have hm : 2 ^ 52 ≤ m := by
      rcases hfinite with legal | ⟨-, hq⟩
      · exact legal.normal.resolve_right hleast
      · exact absurd hq hleast
    obtain ⟨k, rfl⟩ := Int.eq_ofNat_of_zero_le (show 0 ≤ q by omega)
    rcases natAbs_truncate negative m k with htruncate | htruncate
    · exact htruncate ▸ hmin
    · calc 2 ^ 53 = 2 ^ 52 * 2 ^ 1 := rfl
        _ ≤ m * 2 ^ k := Nat.mul_le_mul hm (Nat.pow_le_pow_right (by decide) (by omega))
        _ = _ := htruncate.symm

theorem isNonzero_of_truncate {x : Binary64} (h : x.truncate ≠ 0) : x.isNonzero = true := by
  cases x with
  | nan => rfl
  | infinite => rfl
  | finite negative m q =>
    rw [isNonzero, bne_iff_ne]
    rintro rfl
    refine h ?_
    cases q <;> cases negative <;> simp [truncate, minInt, maxInt]

theorem ofRatio_ne_nan (negative : Bool) (num den : Nat) : ofRatio negative num den ≠ .nan := by
  by_cases hnum : num = 0
  · rw [hnum]
    exact nofun
  · rw [ofRatio_eq hnum]
    dsimp only
    split_ifs <;> exact nofun

/-- An integer that can be read is a finite number. -/
theorem isFinite_of_read_signed {n : Int} {x : Binary64} (h : read (signed n) = .ok x) :
    x.IsFinite := by
  have hformat := inFormat_read h
  rw [read_signed] at h
  cases x with
  | nan => exact absurd (eq_of_inRange h) (ofRatio_ne_nan _ _ _)
  | infinite =>
    rw [eq_of_inRange h] at h
    cases h
  | finite => exact hformat

/-- An integer that is read as one below `2^53` is that one. -/
theorem eq_of_read_signed {n d : Int} (hd : d.natAbs < 2 ^ 53)
    (h : read (signed n) = read (signed d)) : n = d := by
  obtain ⟨x, hx, rfl⟩ := exists_read_signed hd
  rw [hx] at h
  by_cases hn : n.natAbs < 2 ^ 53
  · obtain ⟨y, hy, hvalue⟩ := exists_read_signed hn
    rw [← hvalue, Except.ok.inj (hy.symm.trans h)]
  · exact absurd (le_natAbs_truncate (not_lt.1 hn) h) (not_le.2 hd)

/-! Equality. -/

/-- The rational number that a finite number is. -/
def value : Binary64 → ℚ
  | .finite negative m q => if negative then -(m * 2 ^ q : ℚ) else m * 2 ^ q
  | _ => 0

theorem ratio_finite (negative : Bool) (m : Nat) (q : Int) :
    0 < (finite negative m q).ratio.2 ∧
      ((finite negative m q).ratio.1 : ℚ) / (finite negative m q).ratio.2 =
        (finite negative m q).value := by
  cases q with
  | ofNat k =>
    refine ⟨Nat.one_pos, ?_⟩
    simp only [ratio, value, Nat.pow_eq]
    cases negative <;> simp
  | negSucc k =>
    refine ⟨Nat.pow_pos (by decide), ?_⟩
    simp only [ratio, value, Nat.pow_eq, zpow_negSucc, ← div_eq_mul_inv]
    cases negative <;> simp [neg_div]

theorem lt_finite_iff {a b : Bool} {m n : Nat} {q r : Int} :
    lt (finite a m q) (finite b n r) = true ↔ (finite a m q).value < (finite b n r).value := by
  obtain ⟨hx, hxvalue⟩ := ratio_finite a m q
  obtain ⟨hy, hyvalue⟩ := ratio_finite b n r
  have hx' : (0 : ℚ) < (finite a m q).ratio.2 := by exact_mod_cast hx
  have hy' : (0 : ℚ) < (finite b n r).ratio.2 := by exact_mod_cast hy
  rw [← hxvalue, ← hyvalue, div_lt_div_iff₀ hx' hy', lt, decide_eq_true_eq]
  exact_mod_cast Iff.rfl

theorem same_finite_iff {a b : Bool} {m n : Nat} {q r : Int} :
    same (finite a m q) (finite b n r) = true ↔
      (finite a m q).value = (finite b n r).value := by
  have hlt := @lt_finite_iff a b m n q r
  have hgt := @lt_finite_iff b a n m r q
  rw [← not_iff_not, Bool.not_eq_true, not_lt] at hlt hgt
  have hnan : ∀ c k s, (finite c k s != nan) = true := fun _ _ _ => rfl
  simp only [same, hnan, Bool.true_and, Bool.and_eq_true, Bool.not_eq_true', hlt, hgt]
  rw [and_comm, le_antisymm_iff]

/-- A number of the format has one significand and one exponent. -/
theorem Legal.unique {m n : Nat} {q r : Int} (first : Legal m q) (second : Legal n r)
    (h : (m : ℚ) * 2 ^ q = n * 2 ^ r) : m = n ∧ q = r := by
  have hden := Ratio.den_power_pos m two_pos q
  have hvalue : ((Ratio.power m 2 q).num : ℚ) / (Ratio.power m 2 q).den = m * 2 ^ q := by
    exact_mod_cast Ratio.value_power m 2 q
  have hnum : 0 < (Ratio.power m 2 q).num := by
    have hpos : (0 : ℚ) < m * 2 ^ q := (roundsTo_self first).pos first
    rw [← hvalue, div_pos_iff_of_pos_right (by exact_mod_cast hden)] at hpos
    exact_mod_cast hpos
  have hself := ofRatio_eq_finite hnum hden first (hvalue ▸ roundsTo_self first) false
  have hother := ofRatio_eq_finite hnum hden second (hvalue ▸ h ▸ roundsTo_self second) false
  exact (Binary64.finite.inj (hself.symm.trans hother)).2

/-- A number that equals a finite one other than zero is the same. -/
theorem same_iff_eq {x y : Binary64} (hx : x.IsFinite) (hy : y.IsFinite)
    (hne : y.isNonzero = true) : x.same y = true ↔ x = y := by
  cases x with
  | nan => exact absurd hx id
  | infinite => exact absurd hx id
  | finite a m q =>
    cases y with
    | nan => exact absurd hy id
    | infinite => exact absurd hy id
    | finite b n r =>
      rw [same_finite_iff]
      refine ⟨fun h => ?_, fun h => by rw [h]⟩
      have hn : n ≠ 0 := by simpa [isNonzero] using hne
      have second : Legal n r := hy.resolve_right fun h => hn h.1
      have hypos : (0 : ℚ) < n * 2 ^ r := (roundsTo_self second).pos second
      have hxnonneg : (0 : ℚ) ≤ m * 2 ^ q := by positivity
      rw [value, value] at h
      have hsign : a = b := by
        cases a <;> cases b <;> simp at h ⊢ <;> linarith
      have hvalue : (m : ℚ) * 2 ^ q = n * 2 ^ r := by
        subst hsign
        cases a <;> simpa using h
      have first : Legal m q := by
        refine hx.resolve_right fun hzero => ?_
        rw [hzero.1] at hvalue
        rw [← hvalue] at hypos
        simp at hypos
      obtain ⟨hm, hq⟩ := first.unique second hvalue
      rw [hsign, hm, hq]

end DocScribe.Number.Binary64
