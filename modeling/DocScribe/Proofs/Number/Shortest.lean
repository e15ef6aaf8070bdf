import DocScribe.Proofs.Number.Rounding
import Mathlib.Tactic.NormNum

/-!
# Shortest decimals round back

Seventeen digits are enough to tell a number from its neighbours, so the search for the shortest
decimal ends with one that lies in the rounding interval of the number (`exists_shortestFrom`).
-/

namespace DocScribe.Number

open Binary64 (Legal RoundsTo lowEnd highEnd Uneven minExponent maxExponent)

section Interval

variable {m : Nat} {q : Int}

theorem value_roundingInterval (hm : 0 < m) (q : Int) :
    (roundingInterval m q).1.value = lowEnd m q ∧ (roundingInterval m q).2.value = highEnd m q := by
  have hquarter : (2 : ℚ) ^ (q - 2) = 2 ^ q / 4 := by
    rw [zpow_sub₀ two_ne_zero]
    norm_num
  have hhalf : (2 : ℚ) ^ (q - 1) = 2 ^ q / 2 := by
    rw [zpow_sub₀ two_ne_zero, zpow_one]
  constructor
  · rw [lowEnd, roundingInterval]
    by_cases huneven : Uneven m q
    · have hcond : (m == Nat.pow 2 52 && decide (q > minExponent)) = true := by
        simp [huneven.1, huneven.2]
      dsimp only
      rw [if_pos huneven, if_pos hcond, Ratio.value_power, Nat.cast_sub (by omega)]
      push_cast
      rw [hquarter]
      ring
    · have hcond : ¬ (m == Nat.pow 2 52 && decide (q > minExponent)) = true := by
        simpa [Uneven] using huneven
      dsimp only
      rw [if_neg huneven, if_neg hcond, Ratio.value_power, Nat.cast_sub (by omega)]
      push_cast
      rw [hhalf]
      ring
  · rw [highEnd, roundingInterval, Ratio.value_power]
    push_cast
    rw [hhalf]
    ring

theorem den_roundingInterval_pos (m : Nat) (q : Int) :
    0 < (roundingInterval m q).1.den ∧ 0 < (roundingInterval m q).2.den := by
  constructor
  · rw [roundingInterval]
    dsimp only
    split
    · exact Ratio.den_power_pos _ (by decide) _
    · exact Ratio.den_power_pos _ (by decide) _
  · exact Ratio.den_power_pos _ (by decide) _

/-- The test on ratios says whether the rational number lies in the interval. -/
theorem roundsTo_iff (hm : 0 < m) {x : Ratio} (hx : 0 < x.den) :
    roundsTo m q x = true ↔ RoundsTo m q x.value := by
  obtain ⟨hlowDen, hhighDen⟩ := den_roundingInterval_pos m q
  obtain ⟨hlow, hhigh⟩ := value_roundingInterval hm q
  rw [roundsTo]
  generalize roundingInterval m q = interval at hlowDen hhighDen hlow hhigh ⊢
  obtain ⟨low, high⟩ := interval
  dsimp only at hlowDen hhighDen hlow hhigh ⊢
  by_cases heven : m % 2 = 0
  · rw [if_pos (beq_iff_eq.2 heven)]
    simp only [Bool.and_eq_true, Bool.not_eq_true', Bool.eq_false_iff, ne_eq,
      Ratio.lt_iff hx hlowDen, Ratio.lt_iff hhighDen hx, hlow, hhigh, not_lt]
    exact ⟨fun h => ⟨h.1, h.2, fun hodd => by omega⟩, fun h => ⟨h.low, h.high⟩⟩
  · rw [if_neg (mt beq_iff_eq.1 heven)]
    simp only [Bool.and_eq_true, Ratio.lt_iff hlowDen hx, Ratio.lt_iff hx hhighDen, hlow, hhigh]
    exact ⟨fun h => ⟨h.1.le, h.2.le, fun _ => h⟩, fun h => h.tie (by omega)⟩

end Interval

/-- Stepping up finds the decimal exponent, if it is not stepped over. -/
theorem decimalPoint_spec {x : Ratio} (hx : 0 < x.den) {fuel : Nat} {k : Int}
    (hlow : (10 : ℚ) ^ (k - 1) ≤ x.value) (hhigh : x.value < 10 ^ (k + fuel)) :
    (10 : ℚ) ^ (decimalPoint x fuel k - 1) ≤ x.value ∧
      x.value < 10 ^ decimalPoint x fuel k := by
  induction fuel generalizing k with
  | zero => exact ⟨hlow, by simpa [decimalPoint] using hhigh⟩
  | succ fuel ih =>
    have hpower : Ratio.lt x (.power 1 10 k) = true ↔ x.value < 10 ^ k := by
      rw [Ratio.lt_iff hx (Ratio.den_power_pos 1 (by decide) k), Ratio.value_power]
      norm_num
    rw [decimalPoint]
    split
    · next hbelow => exact ⟨hlow, hpower.1 hbelow⟩
    · next hbelow =>
      rw [hpower, not_lt] at hbelow
      apply ih
      · rwa [add_sub_cancel_right]
      · convert hhigh using 2
        push_cast
        ring

/-- A number lies between two neighbouring multiples of a unit. -/
theorem floor_ratio {x unit : Ratio} (hx : 0 < x.den) (hunit : 0 < unit.den)
    (hpos : 0 < unit.value) :
    ((x.num * unit.den / (x.den * unit.num) : Nat) : ℚ) * unit.value ≤ x.value ∧
      x.value < ((x.num * unit.den / (x.den * unit.num) : Nat) + 1) * unit.value := by
  have hdens : (0 : ℚ) < x.den * unit.den := by exact_mod_cast Nat.mul_pos hx hunit
  have hden : ((x.den * unit.num : Nat) : ℚ) = unit.value * (x.den * unit.den) := by
    push_cast
    rw [Ratio.num_eq hunit]
    ring
  have hnum : ((x.num * unit.den : Nat) : ℚ) = x.value * (x.den * unit.den) := by
    push_cast
    rw [Ratio.num_eq hx]
    ring
  have hdenPos : 0 < x.den * unit.num := by
    have : (0 : ℚ) < (x.den * unit.num : Nat) := by
      rw [hden]
      positivity
    exact_mod_cast this
  have hfloor := Nat.div_mul_le_self (x.num * unit.den) (x.den * unit.num)
  have hceil := Nat.lt_div_mul_add hdenPos (a := x.num * unit.den)
  generalize x.num * unit.den / (x.den * unit.num) = below at hfloor hceil ⊢
  have hfloor' : below * (unit.value * (x.den * unit.den)) ≤ x.value * (x.den * unit.den) := by
    rw [← hden, ← hnum]
    exact_mod_cast hfloor
  have hceil' : x.value * (x.den * unit.den) <
      below * (unit.value * (x.den * unit.den)) + unit.value * (x.den * unit.den) := by
    rw [← hden, ← hnum]
    exact_mod_cast hceil
  constructor
  · apply le_of_mul_le_mul_right _ hdens
    linarith
  · apply lt_of_mul_lt_mul_right _ hdens.le
    linarith

section Grid

variable {m : Nat} {q : Int} (legal : Legal m q)
include legal

/-- A number that is close to `m · 2^q` in proportion lies in its interval. -/
theorem roundsTo_of_close {x unit : ℚ} (hunit : unit * 10 ^ 16 ≤ m * 2 ^ q)
    (hlow : m * 2 ^ q - unit / 2 ≤ x) (hhigh : x ≤ m * 2 ^ q + unit / 2) : RoundsTo m q x := by
  have hpower : (0 : ℚ) < 2 ^ q := by positivity
  have hm : (m : ℚ) < 2 ^ 53 := by exact_mod_cast legal.lt
  have hscaled : (m : ℚ) * 2 ^ q < 2 ^ 53 * 2 ^ q := mul_lt_mul_of_pos_right hm hpower
  have hlowEnd : lowEnd m q < x := by
    rw [lowEnd]
    split
    · next huneven =>
      obtain ⟨rfl, -⟩ := huneven
      push_cast at hunit hlow hscaled ⊢
      linarith
    · linarith
  have hhighEnd : x < highEnd m q := by
    rw [highEnd]
    linarith
  exact ⟨hlowEnd.le, hhighEnd.le, fun _ => ⟨hlowEnd, hhighEnd⟩⟩

/-- A number lies in its own interval. -/
theorem roundsTo_self : RoundsTo m q (m * 2 ^ q) := by
  have hunit : (0 : ℚ) * 10 ^ 16 ≤ m * 2 ^ q := by
    rw [zero_mul]
    positivity
  exact roundsTo_of_close legal hunit (by simp) (by simp)

omit legal in
theorem roundsTo_of_gridPoint? {t : Int} {d : Nat} (h : gridPoint? m q t = some d) :
    roundsTo m q (.power d 10 t) = true := by
  rw [gridPoint?] at h
  split at h
  · next hbelow habove =>
    rw [← Option.some.inj h]
    split
    · exact habove
    · exact hbelow
  · next hbelow _ =>
    rw [← Option.some.inj h]
    exact hbelow
  · next _ habove =>
    rw [← Option.some.inj h]
    exact habove
  · cases h

/-- A grid that is fine enough has a point in the interval: one of the two neighbours. -/
theorem gridPoint?_ne_none {t : Int} (ht : (10 : ℚ) ^ t * 10 ^ 16 ≤ m * 2 ^ q) :
    gridPoint? m q t ≠ none := by
  have hgrid : ∀ d : Nat, RoundsTo m q (d * 10 ^ t) → roundsTo m q (.power d 10 t) = true := by
    intro d hd
    rw [roundsTo_iff legal.pos (Ratio.den_power_pos d (by decide) t), Ratio.value_power]
    exact_mod_cast hd
  have hvalue : (Ratio.power m 2 q).value = m * 2 ^ q := by
    rw [Ratio.value_power]
    norm_num
  have hunit : (Ratio.power 1 10 t).value = 10 ^ t := by
    rw [Ratio.value_power]
    norm_num
  have hpower : (0 : ℚ) < 10 ^ t := by positivity
  obtain ⟨hfloor, hceil⟩ := floor_ratio (Ratio.den_power_pos m (show 0 < 2 by decide) q)
    (Ratio.den_power_pos 1 (show 0 < 10 by decide) t) (by rwa [hunit])
  rw [hvalue, hunit] at hfloor hceil
  rw [gridPoint?]
  generalize (Ratio.power m 2 q).num * (Ratio.power 1 10 t).den /
    ((Ratio.power m 2 q).den * (Ratio.power 1 10 t).num) = below at hfloor hceil ⊢
  -- The nearer neighbour is within half a unit.
  by_cases hnear : m * 2 ^ q - 10 ^ t / 2 ≤ (below * 10 ^ t : ℚ)
  · rw [hgrid below (roundsTo_of_close legal ht hnear (by linarith))]
    split <;> simp_all
  · rw [not_le] at hnear
    have hover := hgrid (below + 1) (roundsTo_of_close legal ht
      (by push_cast; linarith) (by push_cast; linarith))
    rw [hover]
    split <;> simp_all

omit legal in
/-- The search ends with a point of the interval, if one of its grids has any. -/
theorem roundsTo_shortestFrom {k : Int} {fuel count n : Nat} (hfrom : count ≤ n)
    (hto : n < count + fuel) (hpoint : gridPoint? m q (k - n) ≠ none) :
    roundsTo m q (.power (shortestFrom m q k fuel count).1 10
      (shortestFrom m q k fuel count).2) = true := by
  induction fuel generalizing count with
  | zero => omega
  | succ fuel ih =>
    rw [shortestFrom]
    split
    · next d hd => exact roundsTo_of_gridPoint? hd
    · next hnone =>
      have hne : count ≠ n := by
        rintro rfl
        exact hpoint hnone
      exact ih (by omega) (by omega)

/-- The least positive number is far above the first decimal exponent that is tried. -/
theorem le_value : (10 : ℚ) ^ (-331 : Int) ≤ m * 2 ^ q := by
  have hm : (1 : ℚ) ≤ m := by exact_mod_cast legal.pos
  calc (10 : ℚ) ^ (-331 : Int) ≤ 1 * 2 ^ (-1074 : Int) := by
        have hpowers : (2 : ℚ) ^ 1074 ≤ 10 ^ 331 := by
          exact_mod_cast (show 2 ^ 1074 ≤ 10 ^ 331 by decide +kernel)
        rw [one_mul]
        exact inv_anti₀ (by positivity) hpowers
    _ ≤ m * 2 ^ q := by
      gcongr
      · exact one_le_two
      · exact legal.least

/-- The largest number is far below the last decimal exponent that is tried. -/
theorem value_lt : (m * 2 ^ q : ℚ) < 10 ^ (370 : Int) := by
  have hm : (m : ℚ) ≤ 2 ^ 53 := by exact_mod_cast legal.lt.le
  calc (m * 2 ^ q : ℚ) ≤ 2 ^ 53 * 2 ^ (971 : Int) := by
        gcongr
        · exact one_le_two
        · exact legal.most
    _ < 10 ^ (370 : Int) := by
      have hpowers : (2 : ℚ) ^ 53 * 2 ^ 971 < 10 ^ 370 := by
        exact_mod_cast (show 2 ^ 53 * 2 ^ 971 < 10 ^ 370 by decide +kernel)
      exact hpowers

/-- The shortest decimal of a number lies in its rounding interval. -/
theorem exists_shortestFrom :
    ∃ d t, shortestFrom m q (decimalPoint (.power m 2 q) 700 (-330)) 17 1 = (d, t) ∧ 0 < d ∧
      RoundsTo m q (d * 10 ^ t) := by
  have hm : (1 : ℚ) ≤ m := by exact_mod_cast legal.pos
  have hvalue : (Ratio.power m 2 q).value = m * 2 ^ q := by
    rw [Ratio.value_power]
    norm_num
  have hsmall : (10 : ℚ) ^ ((-330 : Int) - 1) ≤ m * 2 ^ q := le_value legal
  have hlarge : (m * 2 ^ q : ℚ) < 10 ^ ((-330 : Int) + (700 : Nat)) := value_lt legal
  obtain ⟨hpoint, -⟩ := decimalPoint_spec (Ratio.den_power_pos m (show 0 < 2 by decide) q)
    (by rwa [hvalue]) (by rwa [hvalue])
  rw [hvalue] at hpoint
  generalize decimalPoint (Ratio.power m 2 q) 700 (-330) = k at hpoint ⊢
  have hfine : (10 : ℚ) ^ (k - (17 : Nat)) * 10 ^ 16 ≤ m * 2 ^ q := by
    refine le_trans (le_of_eq ?_) hpoint
    rw [← zpow_natCast, ← zpow_add₀ (by norm_num)]
    congr 1
    push_cast
    ring
  have hrounds := roundsTo_shortestFrom (show 1 ≤ 17 by decide) (show 17 < 1 + 17 by decide)
    (gridPoint?_ne_none legal hfine)
  generalize shortestFrom m q k 17 1 = found at hrounds ⊢
  obtain ⟨d, t⟩ := found
  rw [roundsTo_iff legal.pos (Ratio.den_power_pos d (by decide) t), Ratio.value_power] at hrounds
  push_cast at hrounds
  refine ⟨d, t, rfl, ?_, hrounds⟩
  -- Zero is below the interval of every positive number.
  rw [Nat.pos_iff_ne_zero]
  rintro rfl
  have hlow := hrounds.low
  have hpower : (0 : ℚ) < 2 ^ q := by positivity
  rw [lowEnd] at hlow
  split at hlow <;> nlinarith

end Grid

end DocScribe.Number
