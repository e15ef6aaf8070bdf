import DocScribe.Number.Shortest
import Mathlib.Algebra.Order.Field.Power
import Mathlib.Algebra.Order.Field.Rat
import Mathlib.Data.Nat.Log
import Mathlib.Tactic.FieldSimp
import Mathlib.Tactic.GCongr
import Mathlib.Tactic.Linarith
import Mathlib.Tactic.Positivity
import Mathlib.Tactic.Ring

/-!
# Rounding to binary floating point

A rational number that lies in the rounding interval of a number `m · 2^q` is rounded to it by
`Binary64.ofRatio` (`ofRatio_eq_finite`), whatever quotient it is given as. Intervals and quotients
are compared as rational numbers.
-/

namespace DocScribe.Number

/-- The rational number that a ratio stands for. -/
def Ratio.value (x : Ratio) : ℚ :=
  x.num / x.den

theorem Ratio.den_power_pos (m : Nat) {b : Nat} (hb : 0 < b) (e : Int) :
    0 < (Ratio.power m b e).den := by
  cases e with
  | ofNat k => exact Nat.one_pos
  | negSucc k => exact Nat.pow_pos hb

theorem Ratio.value_power (m b : Nat) (e : Int) :
    (Ratio.power m b e).value = m * (b : ℚ) ^ e := by
  cases e with
  | ofNat k => simp [Ratio.power, Ratio.value]
  | negSucc k => simp [Ratio.power, Ratio.value, zpow_negSucc, div_eq_mul_inv]

theorem Ratio.num_eq {x : Ratio} (hx : 0 < x.den) : (x.num : ℚ) = x.value * x.den := by
  have hx' : (x.den : ℚ) ≠ 0 := by exact_mod_cast hx.ne'
  rw [Ratio.value, div_mul_cancel₀ _ hx']

theorem Ratio.lt_iff {x y : Ratio} (hx : 0 < x.den) (hy : 0 < y.den) :
    Ratio.lt x y = true ↔ x.value < y.value := by
  have hx' : (0 : ℚ) < x.den := by exact_mod_cast hx
  have hy' : (0 : ℚ) < y.den := by exact_mod_cast hy
  rw [Ratio.lt, decide_eq_true_eq, Ratio.value, Ratio.value, div_lt_div_iff₀ hx' hy']
  exact_mod_cast Iff.rfl

namespace Binary64

/-- A quotient within half a unit of a number is rounded to it, a tie only to an even one. -/
theorem roundDiv_eq {num den m : Nat} (hden : 0 < den) (hlow : 2 * m * den ≤ 2 * num + den)
    (hhigh : 2 * num ≤ 2 * m * den + den)
    (htie : m % 2 = 1 → 2 * m * den < 2 * num + den ∧ 2 * num < 2 * m * den + den) :
    roundDiv num den = m := by
  have hnum : den * (num / den) + num % den = num := Nat.div_add_mod num den
  have hrest : num % den < den := Nat.mod_lt num hden
  rw [roundDiv]
  generalize num / den = d at hnum ⊢
  generalize num % den = r at hnum hrest ⊢
  have hle : d ≤ m := by
    by_contra hlt
    have hmul : den * (m + 1) ≤ den * d := Nat.mul_le_mul_left den (by omega)
    nlinarith
  have hge : m ≤ d + 1 := by
    by_contra hlt
    have hmul : den * (d + 2) ≤ den * m := Nat.mul_le_mul_left den (by omega)
    nlinarith
  rcases Nat.eq_or_lt_of_le hle with rfl | hlt
  · have hsame : 2 * d * den = 2 * (den * d) := by ring
    rw [if_neg]
    simp only [Bool.or_eq_true, Bool.and_eq_true, beq_iff_eq, decide_eq_true_eq, gt_iff_lt]
    omega
  · obtain rfl : m = d + 1 := by omega
    have hsame : 2 * (d + 1) * den = 2 * (den * d) + 2 * den := by ring
    rw [if_pos]
    simp only [Bool.or_eq_true, Bool.and_eq_true, beq_iff_eq, decide_eq_true_eq, gt_iff_lt]
    omega

/-- A rational number is nearest to `m`, or half-way between two numbers of which `m` is even. -/
structure Nearest (m : Nat) (x : ℚ) : Prop where
  low : (m : ℚ) - 1 / 2 ≤ x
  high : x ≤ m + 1 / 2
  tie : m % 2 = 1 → (m : ℚ) - 1 / 2 < x ∧ x < m + 1 / 2

theorem roundDiv_of_nearest {num den m : Nat} (hden : 0 < den) {x : ℚ}
    (hx : (num : ℚ) / den = x) (nearest : Nearest m x) : roundDiv num den = m := by
  have hden' : (0 : ℚ) < den := by exact_mod_cast hden
  have hnum : (num : ℚ) = x * den := by rw [← hx]; field_simp
  have hlow := mul_le_mul_of_nonneg_right nearest.low hden'.le
  have hhigh := mul_le_mul_of_nonneg_right nearest.high hden'.le
  apply roundDiv_eq hden
  · have h : (2 * m * den : ℚ) ≤ 2 * num + den := by linarith
    exact_mod_cast h
  · have h : (2 * num : ℚ) ≤ 2 * m * den + den := by linarith
    exact_mod_cast h
  · intro hodd
    obtain ⟨htieLow, htieHigh⟩ := nearest.tie hodd
    have hlow := mul_lt_mul_of_pos_right htieLow hden'
    have hhigh := mul_lt_mul_of_pos_right htieHigh hden'
    have h : (2 * m * den : ℚ) < 2 * num + den := by linarith
    have h' : (2 * num : ℚ) < 2 * m * den + den := by linarith
    exact ⟨by exact_mod_cast h, by exact_mod_cast h'⟩

theorem significand_eq {num den m : Nat} (hden : 0 < den) {q : Int}
    (nearest : Nearest m (num / den / 2 ^ q)) : significand num den q = m := by
  cases q with
  | ofNat k =>
    apply roundDiv_of_nearest (Nat.mul_pos hden (Nat.pow_pos (by decide))) ?_ nearest
    push_cast [Nat.pow_eq]
    rw [Int.ofNat_eq_natCast, zpow_natCast, div_div]
  | negSucc k =>
    apply roundDiv_of_nearest hden ?_ nearest
    push_cast [Nat.pow_eq]
    rw [zpow_negSucc, div_inv_eq_mul]
    ring

theorem belowPower_iff {num den : Nat} (hden : 0 < den) (e : Int) :
    belowPower num den e = true ↔ (num : ℚ) / den < 2 ^ e := by
  have hden' : (0 : ℚ) < den := by exact_mod_cast hden
  cases e with
  | ofNat k =>
    rw [belowPower, decide_eq_true_eq, Int.ofNat_eq_natCast, zpow_natCast, div_lt_iff₀ hden',
      mul_comm]
    exact_mod_cast Iff.rfl
  | negSucc k =>
    have hpower : (0 : ℚ) < 2 ^ (k + 1) := by positivity
    rw [belowPower, decide_eq_true_eq, zpow_negSucc, div_lt_iff₀ hden', inv_mul_eq_div,
      lt_div_iff₀ hpower]
    exact_mod_cast Iff.rfl

/-- The binary exponent of a quotient. -/
def exponentOf (num den : Nat) : Int :=
  let e : Int := (num.log2 : Int) - (den.log2 : Int)
  if belowPower num den e then e - 1 else e

/-- A quotient lies between two powers of two. -/
theorem exponentOf_spec {num den : Nat} (hnum : 0 < num) (hden : 0 < den) :
    (2 : ℚ) ^ exponentOf num den ≤ num / den ∧
      (num : ℚ) / den < 2 ^ (exponentOf num den + 1) := by
  have hden' : (0 : ℚ) < den := by exact_mod_cast hden
  have hnumLow : (2 : ℚ) ^ (num.log2 : Int) ≤ num := by
    rw [zpow_natCast]
    exact_mod_cast Nat.log2_self_le hnum.ne'
  have hnumHigh : (num : ℚ) < 2 ^ ((num.log2 : Int) + 1) := by
    exact_mod_cast Nat.lt_log2_self
  have hdenLow : (2 : ℚ) ^ (den.log2 : Int) ≤ den := by
    rw [zpow_natCast]
    exact_mod_cast Nat.log2_self_le hden.ne'
  have hdenHigh : (den : ℚ) < 2 ^ ((den.log2 : Int) + 1) := by
    exact_mod_cast Nat.lt_log2_self
  rw [exponentOf]
  split
  · next hbelow =>
    rw [belowPower_iff hden] at hbelow
    constructor
    · rw [le_div_iff₀ hden']
      calc (2 : ℚ) ^ (↑num.log2 - ↑den.log2 - 1 : Int) * den
          ≤ 2 ^ (↑num.log2 - ↑den.log2 - 1 : Int) * 2 ^ ((den.log2 : Int) + 1) := by gcongr
        _ = 2 ^ (num.log2 : Int) := by
          rw [← zpow_add₀ two_ne_zero]
          congr 1
          ring
        _ ≤ num := hnumLow
    · rwa [sub_add_cancel]
  · next hbelow =>
    rw [belowPower_iff hden, not_lt] at hbelow
    refine ⟨hbelow, ?_⟩
    rw [div_lt_iff₀ hden']
    calc (num : ℚ) < 2 ^ ((num.log2 : Int) + 1) := hnumHigh
      _ = 2 ^ (↑num.log2 - ↑den.log2 + 1 : Int) * 2 ^ (den.log2 : Int) := by
        rw [← zpow_add₀ two_ne_zero]
        congr 1
        ring
      _ ≤ 2 ^ (↑num.log2 - ↑den.log2 + 1 : Int) * den := by gcongr

/-- The significand and exponent of a positive finite number. -/
structure Legal (m : Nat) (q : Int) : Prop where
  pos : 0 < m
  lt : m < 2 ^ 53
  least : minExponent ≤ q
  most : q ≤ maxExponent
  normal : 2 ^ 52 ≤ m ∨ q = minExponent

/-- The number below `m · 2^q` is nearer than the one above. -/
def Uneven (m : Nat) (q : Int) : Prop :=
  m = 2 ^ 52 ∧ minExponent < q

instance (m : Nat) (q : Int) : Decidable (Uneven m q) :=
  inferInstanceAs (Decidable (_ ∧ _))

/-- The lower end of the rounding interval of `m · 2^q`. -/
def lowEnd (m : Nat) (q : Int) : ℚ :=
  if Uneven m q then (m - 1 / 4) * 2 ^ q else (m - 1 / 2) * 2 ^ q

/-- The upper end of the rounding interval of `m · 2^q`. -/
def highEnd (m : Nat) (q : Int) : ℚ :=
  (m + 1 / 2) * 2 ^ q

/-- A rational number lies in the rounding interval of `m · 2^q`. -/
structure RoundsTo (m : Nat) (q : Int) (x : ℚ) : Prop where
  low : lowEnd m q ≤ x
  high : x ≤ highEnd m q
  tie : m % 2 = 1 → lowEnd m q < x ∧ x < highEnd m q

section Interval

variable {m : Nat} {q e : Int} {x : ℚ}

theorem lt_of_two_zpow_lt {a b : Int} (h : (2 : ℚ) ^ a < 2 ^ b) : a < b :=
  (zpow_lt_zpow_iff_right₀ one_lt_two).1 h

theorem two_zpow_add (q : Int) (k : Nat) : (2 : ℚ) ^ (q + k) = 2 ^ k * 2 ^ q := by
  rw [zpow_add₀ two_ne_zero, zpow_natCast, mul_comm]

/-- A number in the interval is below the next power of two. -/
theorem RoundsTo.exponent_le (legal : Legal m q) (rounds : RoundsTo m q x) (he : (2 : ℚ) ^ e ≤ x) :
    e - 52 ≤ q := by
  have hpower : (0 : ℚ) < 2 ^ q := by positivity
  have hm : (m : ℚ) + 1 ≤ 2 ^ 53 := by exact_mod_cast legal.lt
  have hlt : (2 : ℚ) ^ e < 2 ^ (q + (53 : Nat)) := by
    rw [two_zpow_add]
    calc (2 : ℚ) ^ e ≤ (m + 1 / 2) * 2 ^ q := he.trans rounds.high
      _ < 2 ^ 53 * 2 ^ q := by
        apply mul_lt_mul_of_pos_right _ hpower
        linarith
  have := lt_of_two_zpow_lt hlt
  omega

/-- Off the uneven case, a number in the interval is scaled by `2^q` before it is rounded. -/
theorem RoundsTo.nearest_of_even (legal : Legal m q) (rounds : RoundsTo m q x)
    (heven : ¬ Uneven m q) (he : (2 : ℚ) ^ e ≤ x) (he' : x < 2 ^ (e + 1)) :
    max (e - 52) minExponent = q ∧ Nearest m (x / 2 ^ q) := by
  have hpower : (0 : ℚ) < 2 ^ q := by positivity
  have hlow := rounds.low
  have htie := rounds.tie
  rw [lowEnd, if_neg heven] at hlow htie
  constructor
  · have hle := rounds.exponent_le legal he
    rcases legal.normal with hnormal | hleast
    · by_cases hq : q = minExponent
      · omega
      · have hm : 2 ^ 52 + 1 ≤ m := by
          have hne : m ≠ 2 ^ 52 := fun hm => heven ⟨hm, lt_of_le_of_ne legal.least (Ne.symm hq)⟩
          omega
        have hm' : (2 : ℚ) ^ 52 + 1 ≤ m := by exact_mod_cast hm
        have hge : (2 : ℚ) ^ (q + (52 : Nat)) < 2 ^ (e + 1) := by
          rw [two_zpow_add]
          calc (2 : ℚ) ^ 52 * 2 ^ q < (m - 1 / 2) * 2 ^ q := by
                apply mul_lt_mul_of_pos_right _ hpower
                linarith
            _ ≤ x := hlow
            _ < 2 ^ (e + 1) := he'
        have := lt_of_two_zpow_lt hge
        have := legal.least
        omega
    · omega
  · constructor
    · rwa [le_div_iff₀ hpower]
    · rw [div_le_iff₀ hpower]
      exact rounds.high
    · intro hodd
      obtain ⟨htieLow, htieHigh⟩ := htie hodd
      rw [lt_div_iff₀ hpower, div_lt_iff₀ hpower]
      exact ⟨htieLow, htieHigh⟩

/-- In the uneven case, a number below the power of two is rounded up to it in smaller units. -/
theorem RoundsTo.nearest_of_uneven (rounds : RoundsTo m q x) (huneven : Uneven m q)
    (he : (2 : ℚ) ^ e ≤ x) (he' : x < 2 ^ (e + 1)) :
    max (e - 52) minExponent = q ∧ Nearest m (x / 2 ^ q) ∨
      max (e - 52) minExponent = q - 1 ∧ Nearest (2 ^ 53) (x / 2 ^ (q - 1)) := by
  have hpower : (0 : ℚ) < 2 ^ q := by positivity
  have hlow := rounds.low
  have hhigh := rounds.high
  obtain ⟨rfl, hq⟩ := huneven
  rw [lowEnd, if_pos ⟨rfl, hq⟩] at hlow
  rw [highEnd] at hhigh
  push_cast at hlow hhigh
  have hbelow : e < q + (53 : Nat) := by
    apply lt_of_two_zpow_lt
    rw [two_zpow_add]
    linarith
  by_cases hx : x < 2 ^ (q + (52 : Nat))
  · have hupper := lt_of_two_zpow_lt (lt_of_le_of_lt he hx)
    rw [two_zpow_add] at hx
    have hlower : q + (51 : Nat) < e + 1 := by
      apply lt_of_two_zpow_lt
      rw [two_zpow_add]
      linarith
    refine .inr ⟨by omega, ?_⟩
    have hscaled : x / 2 ^ (q - 1) = 2 * (x / 2 ^ q) := by
      rw [zpow_sub_one₀ two_ne_zero]
      field_simp
    rw [hscaled]
    have hmin : (2 : ℚ) ^ 52 - 1 / 4 ≤ x / 2 ^ q := by rwa [le_div_iff₀ hpower]
    have hmax : x / 2 ^ q < 2 ^ 52 := by rwa [div_lt_iff₀ hpower]
    refine ⟨?_, ?_, fun hodd => absurd hodd (by decide)⟩
    · push_cast
      linarith
    · push_cast
      linarith
  · have hlower := lt_of_two_zpow_lt (lt_of_le_of_lt (not_lt.1 hx) he')
    rw [not_lt, two_zpow_add] at hx
    refine .inl ⟨by omega, ?_, ?_, fun hodd => absurd hodd (by decide)⟩
    · rw [le_div_iff₀ hpower]
      push_cast
      linarith
    · rw [div_le_iff₀ hpower]
      push_cast
      exact hhigh

end Interval

/-- The significand and the exponent of a quotient, with the carry into the next power of two. -/
theorem ofRatio_eq {num : Nat} (hnum : num ≠ 0) (den : Nat) (negative : Bool) :
    ofRatio negative num den =
      let q := max (exponentOf num den - 52) minExponent
      let rounded := if significand num den q == Nat.pow 2 53 then (Nat.pow 2 52, q + 1)
        else (significand num den q, q)
      if rounded.2 > maxExponent then .infinite negative
      else .finite negative rounded.1 rounded.2 := by
  rw [ofRatio, if_neg (by simpa using hnum)]
  rfl

/-- What lies in the rounding interval of a number is rounded to it. -/
theorem ofRatio_eq_finite {num den m : Nat} {q : Int} (hnum : 0 < num) (hden : 0 < den)
    (legal : Legal m q) (rounds : RoundsTo m q (num / den)) (negative : Bool) :
    ofRatio negative num den = .finite negative m q := by
  obtain ⟨he, he'⟩ := exponentOf_spec hnum hden
  have hcases : max (exponentOf num den - 52) minExponent = q ∧ Nearest m (num / den / 2 ^ q) ∨
      Uneven m q ∧ max (exponentOf num den - 52) minExponent = q - 1 ∧
        Nearest (2 ^ 53) (num / den / 2 ^ (q - 1)) := by
    by_cases huneven : Uneven m q
    · rcases rounds.nearest_of_uneven huneven he he' with h | h
      · exact .inl h
      · exact .inr ⟨huneven, h⟩
    · exact .inl (rounds.nearest_of_even legal huneven he he')
  have hmost := legal.most
  have hlt := legal.lt
  rw [ofRatio_eq hnum.ne']
  dsimp only
  rcases hcases with ⟨hq, nearest⟩ | ⟨⟨hm, -⟩, hq, nearest⟩
  · have hcarry : ¬ (m == Nat.pow 2 53) = true := by
      rw [beq_iff_eq, Nat.pow_eq]
      omega
    rw [hq, significand_eq hden nearest, if_neg hcarry]
    exact if_neg (by omega)
  · have hcarry : (2 ^ 53 == Nat.pow 2 53) = true := rfl
    rw [hq, significand_eq hden nearest, if_pos hcarry, hm]
    dsimp only
    rw [sub_add_cancel]
    exact if_neg (by omega)

end Binary64

end DocScribe.Number
