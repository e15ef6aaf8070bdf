import DocScribe.Proofs.Number.Numeral
import DocScribe.Proofs.Number.Shortest

/-!
# Numbers are read as they were written

Integers and floating-point numbers are written as numerals (`text_signedNumeral`,
`exists_numeral_render`), and reading the numeral gives the number back: exactly for every finite
floating-point number, and by truncation for integers below `2^53`.
-/

namespace DocScribe.Number

open Binary64 (Legal RoundsTo lowEnd highEnd Uneven minExponent maxExponent)

/-! Decimal digits. -/

theorem isDigitByte_digitByte {d : Nat} (h : d < 10) :
    Text.isDigitByte (digitByte d) = true := by
  revert d
  decide

theorem toNat_digitByte {d : Nat} (h : d < 10) : (digitByte d).toNat - 0x30 = d := by
  revert d
  decide

theorem digitByte_toNat {b : UInt8} (h : Text.isDigitByte b = true) :
    digitByte (b.toNat - 0x30) = b := by
  have hlt := toNat_sub_lt h
  simp only [Text.isDigitByte, Bool.and_eq_true, decide_eq_true_eq, UInt8.le_iff_toNat_le] at h
  have hlow : 48 ≤ b.toNat := h.1
  rw [digitByte, if_pos hlt, show 0x30 + (b.toNat - 0x30) = b.toNat by omega]
  simp

theorem isDigits_append {s t : Text} : IsDigits (s ++ t) ↔ IsDigits s ∧ IsDigits t :=
  List.forall_mem_append

theorem isDigits_decimal (n : Nat) : IsDigits (decimal n) := by
  fun_induction decimal n with
  | case1 n h => simpa [IsDigits] using isDigitByte_digitByte h
  | case2 n h ih =>
    rw [isDigits_append]
    refine ⟨ih, ?_⟩
    simpa [IsDigits] using isDigitByte_digitByte (Nat.mod_lt n (by decide))

theorem digitsNat_decimal (n : Nat) : digitsNat (decimal n) = n := by
  fun_induction decimal n with
  | case1 n h => simpa [digitsNat] using toNat_digitByte h
  | case2 n h ih =>
    have hlast := toNat_digitByte (Nat.mod_lt n (show 0 < 10 by decide))
    rw [digitsNat_append, ih]
    simp only [digitsNat, List.length_cons, List.length_nil, hlast]
    omega

/-- Only zero is written with a zero in front. -/
theorem head?_decimal {n : Nat} (hn : 0 < n) : (decimal n).head? ≠ some 0x30 := by
  fun_induction decimal n with
  | case1 n h =>
    revert hn
    revert n
    decide
  | case2 n h ih =>
    rw [List.head?_append_of_ne_nil _ (decimal_ne_nil _)]
    exact ih (by omega)

theorem digitsNat_replicate (z : Nat) : digitsNat (List.replicate z 0x30) = 0 := by
  induction z with
  | zero => rfl
  | succ z ih => simp [List.replicate_succ, digitsNat, ih]

theorem isDigits_replicate (z : Nat) : IsDigits (List.replicate z 0x30) := by
  intro b hb
  rw [List.eq_of_mem_replicate hb]
  rfl

theorem digitsNat_lt {s : Text} (hs : IsDigits s) : digitsNat s < 10 ^ s.length := by
  induction s with
  | nil => decide
  | cons b s ih =>
    obtain ⟨hb, hrest⟩ := List.forall_mem_cons.1 hs
    have hdigit := toNat_sub_lt hb
    have hmul : (b.toNat - 0x30) * 10 ^ s.length ≤ 9 * 10 ^ s.length :=
      Nat.mul_le_mul_right _ (by omega)
    have := ih hrest
    rw [digitsNat, List.length_cons, pow_succ]
    omega

/-- Digits that start with no zero write a number of their length. -/
theorem le_digitsNat {s : Text} (hs : IsDigits s) (hne : s ≠ []) (hhead : s.head? ≠ some 0x30) :
    10 ^ s.length ≤ 10 * digitsNat s := by
  obtain ⟨b, s, rfl⟩ := List.exists_cons_of_ne_nil hne
  have hb := hs b List.mem_cons_self
  have hdigit : 1 ≤ b.toNat - 0x30 := by
    by_contra hzero
    have hbyte := digitByte_toNat hb
    rw [show b.toNat - 0x30 = 0 by omega] at hbyte
    exact hhead (by rw [← hbyte]; rfl)
  have hmul : 1 * 10 ^ s.length ≤ (b.toNat - 0x30) * 10 ^ s.length :=
    Nat.mul_le_mul_right _ hdigit
  rw [digitsNat, List.length_cons, pow_succ]
  omega

/-! Shortest decimals. -/

/-- Decimal digits that stand for a number which is rounded to `m · 2^q`. -/
structure Spells (m : Nat) (q : Int) (s : DecimalDigits) : Prop where
  isDigits : IsDigits (digitText s.digits)
  ne_nil : s.digits ≠ []
  head : (digitText s.digits).head? ≠ some 0x30
  rounds : RoundsTo m q
    (digitsNat (digitText s.digits) * 10 ^ (s.point - (s.digits.length : Int)))

/-- The digits of a number are its shortest digits and zeros. -/
theorem exists_decimal_eq (d : Nat) :
    ∃ z, decimal d = digitText ((((decimal d).map fun b => b.toNat - 0x30).reverse.dropWhile
      (· == 0)).reverse) ++ List.replicate z 0x30 := by
  generalize hall : (decimal d).map (fun b => b.toNat - 0x30) = all
  have hzeros : ∀ x ∈ all.reverse.takeWhile (· == 0), x = 0 := by
    intro x hx
    have hall := List.all_takeWhile (p := (· == 0)) (l := all.reverse)
    exact beq_iff_eq.1 (List.all_eq_true.1 hall x hx)
  have htext : decimal d = digitText all := by
    rw [digitText, ← hall, List.map_map]
    refine (List.map_id _).symm.trans (List.map_congr_left fun b hb => ?_)
    exact (digitByte_toNat (isDigits_decimal d b hb)).symm
  refine ⟨(all.reverse.takeWhile (· == 0)).length, ?_⟩
  have hsplit : all = (all.reverse.dropWhile (· == 0)).reverse ++
      (all.reverse.takeWhile (· == 0)).reverse := by
    rw [← List.reverse_append, List.takeWhile_append_dropWhile, List.reverse_reverse]
  have hreplicate : (all.reverse.takeWhile (· == 0)).reverse =
      List.replicate (all.reverse.takeWhile (· == 0)).length 0 := by
    rw [List.eq_replicate_of_mem hzeros, List.reverse_replicate, List.length_replicate]
  rw [htext, digitText, digitText]
  conv_lhs => rw [hsplit, hreplicate, List.map_append, List.map_replicate]
  rfl

theorem spells_shortest {m : Nat} {q : Int} (legal : Legal m q) : Spells m q (shortest m q) := by
  obtain ⟨d, t, hfound, hd, hrounds⟩ := exists_shortestFrom legal
  obtain ⟨z, hz⟩ := exists_decimal_eq d
  rw [shortest, if_neg (by simpa using legal.pos.ne')]
  dsimp only
  rw [hfound]
  dsimp only
  generalize hdigits : (((decimal d).map fun b => b.toNat - 0x30).reverse.dropWhile
    (· == 0)).reverse = digits at hz ⊢
  have hall := isDigits_decimal d
  rw [hz, isDigits_append] at hall
  have hvalue := digitsNat_decimal d
  rw [hz, digitsNat_append, digitsNat_replicate, add_zero, List.length_replicate] at hvalue
  have hne : digits ≠ [] := by
    rintro rfl
    rw [show digitsNat (digitText []) = 0 from rfl, zero_mul] at hvalue
    omega
  have htextNe : digitText digits ≠ [] := by simpa [digitText] using hne
  refine ⟨hall.1, hne, ?_, ?_⟩
  · have hhead := head?_decimal hd
    rwa [hz, List.head?_append_of_ne_nil _ htextNe] at hhead
  · have hlength : (digitText digits).length = digits.length := List.length_map _
    have hcount : ((decimal d).map fun b => b.toNat - 0x30).length = digits.length + z := by
      rw [List.length_map, hz, List.length_append, hlength, List.length_replicate]
    convert hrounds using 1
    rw [hcount, ← hvalue]
    push_cast
    rw [mul_assoc, ← zpow_natCast, ← zpow_add₀ (by norm_num)]
    congr 2
    ring

/-- The decimal point of a number is not far from its digits. -/
theorem Spells.point_bounds {m : Nat} {q : Int} {s : DecimalDigits} (legal : Legal m q)
    (spells : Spells m q s) : -332 < s.point ∧ s.point < 372 := by
  have hlength : (digitText s.digits).length = s.digits.length := List.length_map _
  have htextNe : digitText s.digits ≠ [] := by simpa [digitText] using spells.ne_nil
  have hlow := le_digitsNat spells.isDigits htextNe spells.head
  have hhigh := digitsNat_lt spells.isDigits
  rw [hlength] at hlow hhigh
  have hrounds := spells.rounds
  generalize digitsNat (digitText s.digits) = v at hlow hhigh hrounds
  generalize s.digits.length = len at hlow hhigh hrounds
  have hlow' : (10 : ℚ) ^ len ≤ 10 * v := by exact_mod_cast hlow
  have hhigh' : (v : ℚ) < 10 ^ len := by exact_mod_cast hhigh
  have hm : (1 : ℚ) ≤ m := by exact_mod_cast legal.pos
  have hpower : (0 : ℚ) < 2 ^ q := by positivity
  have hunit : (0 : ℚ) < 10 ^ (s.point - (len : Int)) := by positivity
  have hscale : (10 : ℚ) ^ len * 10 ^ (s.point - (len : Int)) = 10 ^ s.point := by
    rw [← zpow_natCast, ← zpow_add₀ (by norm_num)]
    congr 1
    ring
  have hlowEnd : m * 2 ^ q / 2 ≤ lowEnd m q := by
    rw [lowEnd]
    split <;> nlinarith
  have hhighEnd : highEnd m q ≤ 2 * (m * 2 ^ q) := by
    rw [highEnd]
    nlinarith
  have hsmall := le_value legal
  have hlarge := value_lt legal
  constructor
  · apply (zpow_lt_zpow_iff_right₀ (show (1 : ℚ) < 10 by norm_num)).1
    have hstep : (10 : ℚ) ^ (-332 : Int) * 10 = 10 ^ (-331 : Int) :=
      (zpow_add_one₀ (by norm_num) _).symm
    have hpos : (0 : ℚ) < 10 ^ (-332 : Int) := by positivity
    calc (10 : ℚ) ^ (-332 : Int) < 10 ^ (-331 : Int) / 2 := by linarith
      _ ≤ v * 10 ^ (s.point - (len : Int)) := by linarith [hrounds.low]
      _ < 10 ^ len * 10 ^ (s.point - (len : Int)) := mul_lt_mul_of_pos_right hhigh' hunit
      _ = 10 ^ s.point := hscale
  · apply (zpow_lt_zpow_iff_right₀ (show (1 : ℚ) < 10 by norm_num)).1
    have hstep : (10 : ℚ) ^ (372 : Int) = 10 ^ (370 : Int) * 10 * 10 := by
      rw [← zpow_add_one₀ (by norm_num), ← zpow_add_one₀ (by norm_num)]
      rfl
    have hpos : (0 : ℚ) < 10 ^ (370 : Int) := by positivity
    rw [hstep]
    generalize (10 : ℚ) ^ (370 : Int) = big at hlarge hpos ⊢
    calc (10 : ℚ) ^ s.point = 10 ^ len * 10 ^ (s.point - (len : Int)) := hscale.symm
      _ ≤ 10 * v * 10 ^ (s.point - (len : Int)) := mul_le_mul_of_nonneg_right hlow' hunit.le
      _ ≤ 20 * big := by linarith [hrounds.high]
      _ < big * 10 * 10 := by linarith

/-! Numbers as numerals. -/

/-- The rational number that a numeral stands for, its sign apart. -/
def Numeral.value (n : Numeral) : ℚ :=
  digitsNat (n.whole ++ n.fraction) *
    10 ^ (Numeral.exponentValue n.exponent - (n.fraction.length : Int))

/-- A numeral without a sign is written by a text and stands for a number. -/
structure Writes (n : Numeral) (text : Text) (x : ℚ) : Prop where
  wellFormed : n.WellFormed
  unsigned : n.unsigned = text
  value : n.value = x

theorem writes_decimal (n : Nat) : Writes { whole := decimal n } (decimal n) n := by
  refine ⟨⟨isDigits_decimal n, decimal_ne_nil n, ?_, by simp [IsDigits], by simp⟩, ?_, ?_⟩
  · rcases Nat.eq_zero_or_pos n with rfl | hn
    · exact .inl (by simp [decimal, digitByte])
    · exact .inr (head?_decimal hn)
  · simp [Numeral.unsigned, Numeral.fractionText, Numeral.exponentText]
  · simp [Numeral.value, Numeral.exponentValue, digitsNat_decimal]

theorem padded_eq (width n : Nat) :
    padded width n = List.replicate (width - (decimal n).length) 0x30 ++ decimal n := rfl

section Layout

variable {s : DecimalDigits} (hdigits : IsDigits (digitText s.digits)) (hne : s.digits ≠ [])
include hdigits hne

omit hdigits in
theorem digitText_ne_nil : digitText s.digits ≠ [] := by
  simpa [digitText] using hne

/-- A number below one: the digits follow the point and zeros. -/
theorem writes_below_one (hpoint : s.point ≤ 0) :
    Writes { whole := [0x30]
             fraction := List.replicate (-s.point).toNat 0x30 ++ digitText s.digits }
      (positional s)
      (digitsNat (digitText s.digits) * 10 ^ (s.point - (s.digits.length : Int))) := by
  rw [positional, if_neg (by simpa using hne), if_pos hpoint]
  refine ⟨⟨by simp [IsDigits, Text.isDigitByte], by simp, .inl rfl,
    isDigits_append.2 ⟨isDigits_replicate _, hdigits⟩, by simp⟩, ?_, ?_⟩
  · rw [Numeral.unsigned, Numeral.fractionText_of_ne_nil (by simp [digitText_ne_nil hne])]
    simp [Numeral.exponentText]
    rfl
  · have hvalue : digitsNat ([0x30] ++ (List.replicate (-s.point).toNat 0x30 ++
        digitText s.digits)) = digitsNat (digitText s.digits) := by
      rw [digitsNat_append, digitsNat_append, digitsNat_replicate]
      simp [digitsNat]
    have hexponent : (0 : Int) - ((List.replicate (-s.point).toNat (0x30 : UInt8) ++
        digitText s.digits).length : Int) = s.point - s.digits.length := by
      rw [List.length_append, List.length_replicate, digitText, List.length_map]
      omega
    rw [Numeral.value, Numeral.exponentValue, hvalue, hexponent]

variable (hhead : (digitText s.digits).head? ≠ some 0x30)
include hhead

/-- A whole number: zeros fill the digits up to the point. -/
theorem writes_whole (hpoint : ¬ s.point ≤ 0) (hall : s.digits.length ≤ s.point.toNat) :
    Writes { whole := digitText s.digits ++
               List.replicate (s.point.toNat - s.digits.length) 0x30 }
      (positional s)
      (digitsNat (digitText s.digits) * 10 ^ (s.point - (s.digits.length : Int))) := by
  have htextNe := digitText_ne_nil hne
  rw [positional, if_neg (by simpa using hne), if_neg hpoint]
  dsimp only
  rw [if_pos hall, List.take_of_length_le hall]
  refine ⟨⟨isDigits_append.2 ⟨hdigits, isDigits_replicate _⟩, by simp [htextNe], .inr ?_,
    by simp [IsDigits], by simp⟩, ?_, ?_⟩
  · rwa [List.head?_append_of_ne_nil _ htextNe]
  · simp [Numeral.unsigned, Numeral.fractionText, Numeral.exponentText]
  · rw [Numeral.value, Numeral.exponentValue, List.append_nil, digitsNat_append,
      digitsNat_replicate, List.length_replicate, List.length_nil]
    push_cast
    rw [add_zero, mul_one, ← zpow_natCast]
    congr 2
    omega

/-- The point stands between the digits. -/
theorem writes_mixed (hpoint : ¬ s.point ≤ 0) (hall : ¬ s.digits.length ≤ s.point.toNat) :
    Writes { whole := digitText (s.digits.take s.point.toNat)
             fraction := digitText (s.digits.drop s.point.toNat) }
      (positional s)
      (digitsNat (digitText s.digits) * 10 ^ (s.point - (s.digits.length : Int))) := by
  have hfront : digitText (s.digits.take s.point.toNat) ++
      digitText (s.digits.drop s.point.toNat) = digitText s.digits := by
    rw [digitText, digitText, ← List.map_append, List.take_append_drop]
    rfl
  rw [← hfront, isDigits_append] at hdigits
  have hwhole : digitText (s.digits.take s.point.toNat) ≠ [] := by
    simp only [digitText, ne_eq, List.map_eq_nil_iff, List.take_eq_nil_iff, hne, or_false]
    omega
  have hfraction : digitText (s.digits.drop s.point.toNat) ≠ [] := by
    simp only [digitText, ne_eq, List.map_eq_nil_iff, List.drop_eq_nil_iff]
    omega
  rw [positional, if_neg (by simpa using hne), if_neg hpoint]
  dsimp only
  rw [if_neg hall, show s.point.toNat - s.digits.length = 0 by omega, List.replicate_zero,
    List.append_nil]
  refine ⟨⟨hdigits.1, hwhole, .inr ?_, hdigits.2, by simp⟩, ?_, ?_⟩
  · rwa [← hfront, List.head?_append_of_ne_nil _ hwhole] at hhead
  · rw [Numeral.unsigned, Numeral.fractionText_of_ne_nil hfraction, Numeral.exponentText,
      List.append_nil]
  · have hexponent : (0 : Int) - ((digitText (s.digits.drop s.point.toNat)).length : Int) =
        s.point - s.digits.length := by
      rw [digitText, List.length_map, List.length_drop]
      omega
    rw [Numeral.value, Numeral.exponentValue, hfront, hexponent]

theorem exists_writes_positional :
    ∃ n, Writes n (positional s) (digitsNat (digitText s.digits) *
      10 ^ (s.point - (s.digits.length : Int))) := by
  by_cases hpoint : s.point ≤ 0
  · exact ⟨_, writes_below_one hdigits hne hpoint⟩
  · by_cases hall : s.digits.length ≤ s.point.toNat
    · exact ⟨_, writes_whole hdigits hne hhead hpoint hall⟩
    · exact ⟨_, writes_mixed hdigits hne hhead hpoint hall⟩

theorem exists_writes_scientific (width : Nat) (hpoint : -332 < s.point ∧ s.point < 372) :
    ∃ n, Writes n (scientific width s) (digitsNat (digitText s.digits) *
      10 ^ (s.point - (s.digits.length : Int))) := by
  obtain ⟨first, more, hcons⟩ := List.exists_cons_of_ne_nil hne
  rw [hcons] at hdigits hhead
  obtain ⟨hfirst, hmore⟩ := List.forall_mem_cons.1 hdigits
  have hvalue : digitsNat (padded width (s.point - 1).natAbs) = (s.point - 1).natAbs := by
    rw [padded_eq, digitsNat_append, digitsNat_replicate, digitsNat_decimal, zero_mul, zero_add]
  have hpadded : IsDigits (padded width (s.point - 1).natAbs) :=
    isDigits_append.2 ⟨isDigits_replicate _, isDigits_decimal _⟩
  refine ⟨{ whole := [digitByte first]
            fraction := digitText more
            exponent := some (decide (s.point - 1 < 0), padded width (s.point - 1).natAbs) },
    ⟨by simpa [IsDigits] using hfirst, by simp, .inr hhead, hmore, ?_⟩, ?_, ?_⟩
  · intro negative digits h
    obtain ⟨-, rfl⟩ := Prod.mk.inj (Option.some.inj h)
    refine ⟨hpadded, ?_, ?_⟩
    · rw [padded_eq]
      simp [decimal_ne_nil]
    · rw [hvalue]
      omega
  · have hsign : (if s.point - 1 < 0 then ("e-" : Text) else "e+") =
        [0x65, if decide (s.point - 1 < 0) = true then 0x2d else 0x2b] := by
      by_cases hnegative : s.point - 1 < 0
      · simp only [hnegative, decide_true, if_true]
        rfl
      · simp only [hnegative, decide_false, Bool.false_eq_true, if_false]
        rfl
    have hmantissa : (if more.isEmpty = true then [digitByte first]
        else digitByte first :: 0x2e :: digitText more) =
        [digitByte first] ++ Numeral.fractionText (digitText more) := by
      cases more <;> rfl
    rw [scientific, hcons]
    dsimp only
    rw [hsign, hmantissa, Numeral.unsigned, Numeral.exponentText]
    simp
  · have hlength : (digitText more).length = more.length := List.length_map _
    have hexponent : Numeral.exponentValue
        (some (decide (s.point - 1 < 0), padded width (s.point - 1).natAbs)) = s.point - 1 := by
      rw [Numeral.exponentValue, hvalue]
      by_cases hnegative : s.point - 1 < 0
      · rw [if_pos (decide_eq_true hnegative)]
        omega
      · rw [if_neg (by simpa using hnegative)]
        omega
    rw [Numeral.value, hexponent, hcons, hlength]
    congr 2
    simp
    ring

end Layout

namespace Binary64

open Numeral (signText)

theorem RoundsTo.pos {m : Nat} {q : Int} {x : ℚ} (legal : Legal m q) (rounds : RoundsTo m q x) :
    0 < x := by
  have hm : (1 : ℚ) ≤ m := by exact_mod_cast legal.pos
  have hpower : (0 : ℚ) < 2 ^ q := by positivity
  refine lt_of_lt_of_le ?_ rounds.low
  rw [lowEnd]
  split
  · exact mul_pos (by linarith) hpower
  · exact mul_pos (by linarith) hpower

theorem ofDecimal_eq_finite {m v : Nat} {q e : Int} (legal : Legal m q)
    (rounds : RoundsTo m q (v * 10 ^ e)) (negative : Bool) :
    ofDecimal negative v e = .finite negative m q := by
  have hv : 0 < v := by
    rw [Nat.pos_iff_ne_zero]
    rintro rfl
    simpa using rounds.pos legal
  cases e with
  | ofNat k =>
    apply ofRatio_eq_finite (Nat.mul_pos hv (Nat.pow_pos (by decide))) Nat.one_pos legal
    convert rounds using 1
    simp
  | negSucc k =>
    apply ofRatio_eq_finite hv (Nat.pow_pos (by decide)) legal
    convert rounds using 1
    rw [zpow_negSucc]
    push_cast [Nat.pow_eq]
    rw [div_eq_mul_inv]

/-- A text that writes a number in the rounding interval of `m · 2^q` is read as that. -/
theorem read_of_writes {n : Numeral} {text : Text} {x : ℚ} (writes : Writes n text x) {m : Nat}
    {q : Int} (legal : Legal m q) (rounds : RoundsTo m q x) (negative : Bool) :
    read (signText negative ++ text) = .ok (.finite negative m q) := by
  have wf : { n with negative }.WellFormed :=
    ⟨writes.wellFormed.whole, writes.wellFormed.whole_ne_nil, writes.wellFormed.whole_head,
      writes.wellFormed.fraction, writes.wellFormed.exponent⟩
  have hread := read_text wf
  rw [← writes.value, Numeral.value] at rounds
  rw [ofDecimal_eq_finite legal rounds] at hread
  rw [← writes.unsigned]
  exact hread

/-- A finite number of the format: zero, or one with a significand and exponent that it allows. -/
def IsFinite : Binary64 → Prop
  | .finite _ m q => Legal m q ∨ m = 0 ∧ q = minExponent
  | _ => False

theorem signed_eq (n : Int) : signed n = signText (decide (n < 0)) ++ decimal n.natAbs := by
  cases n with
  | ofNat k => rfl
  | negSucc k =>
    rw [decide_eq_true (Int.negSucc_lt_zero k)]
    rfl

/-- An integer as a numeral. -/
def signedNumeral (n : Int) : Numeral :=
  { negative := decide (n < 0), whole := decimal n.natAbs }

theorem wellFormed_signedNumeral (n : Int) : (signedNumeral n).WellFormed :=
  have writes := (writes_decimal n.natAbs).wellFormed
  ⟨writes.whole, writes.whole_ne_nil, writes.whole_head, writes.fraction, writes.exponent⟩

theorem text_signedNumeral (n : Int) : (signedNumeral n).text = signed n := by
  rw [signed_eq, signedNumeral, Numeral.text, Numeral.unsigned]
  simp [Numeral.fractionText, Numeral.exponentText]

theorem read_zero (negative : Bool) :
    read (signText negative ++ [0x30]) = .ok (.finite negative 0 minExponent) := by
  have hread := read_text (n := { negative, whole := [0x30] })
    ⟨by simp [IsDigits, Text.isDigitByte], by simp, .inl rfl, by simp [IsDigits], by simp⟩
  exact hread

/-- A finite number is written as a numeral, which is read as the number. -/
theorem exists_numeral_render {x : Binary64} (h : x.IsFinite) (layout : Layout) :
    ∃ n : Numeral, n.WellFormed ∧ n.text = x.render layout ∧ read (x.render layout) = .ok x := by
  cases x with
  | nan => exact absurd h id
  | infinite negative => exact absurd h id
  | finite negative m q =>
    have hsign : (if negative then ("-" : Text) else "") = signText negative := by
      cases negative <;> rfl
    rcases h with legal | ⟨rfl, rfl⟩
    · have spells := spells_shortest legal
      have hrender : ∃ n text, Writes n text (digitsNat (digitText (shortest m q).digits) *
          10 ^ ((shortest m q).point - ((shortest m q).digits.length : Int))) ∧
          (finite negative m q).render layout = signText negative ++ text := by
        rw [render, hsign]
        split
        · obtain ⟨n, writes⟩ :=
            exists_writes_positional spells.isDigits spells.ne_nil spells.head
          exact ⟨n, _, writes, rfl⟩
        · obtain ⟨n, writes⟩ := exists_writes_scientific spells.isDigits spells.ne_nil
            spells.head layout.width (spells.point_bounds legal)
          exact ⟨n, _, writes, rfl⟩
      obtain ⟨n, text, writes, htext⟩ := hrender
      refine ⟨{ n with negative }, ⟨writes.wellFormed.whole, writes.wellFormed.whole_ne_nil,
        writes.wellFormed.whole_head, writes.wellFormed.fraction, writes.wellFormed.exponent⟩,
        ?_, ?_⟩
      · rw [htext, ← writes.unsigned]
        rfl
      · rw [htext]
        exact read_of_writes writes legal spells.rounds negative
    · have hrender : (finite negative 0 minExponent).render layout =
          signText negative ++ [0x30] := by
        rw [render, hsign]
        rfl
      rw [hrender]
      refine ⟨{ negative, whole := [0x30] }, ⟨by simp [IsDigits, Text.isDigitByte], by simp,
        .inl rfl, by simp [IsDigits], by simp⟩, ?_, read_zero negative⟩
      rfl

theorem truncate_eq {m n : Nat} {q : Int} (h : (m : ℚ) * 2 ^ q = n) (hn : n < 2 ^ 53)
    (negative : Bool) :
    (finite negative m q).truncate = if negative then -(n : Int) else n := by
  have hbounds : minInt ≤ (if negative = true then -(n : Int) else n) ∧
      (if negative = true then -(n : Int) else n) ≤ maxInt := by
    rw [minInt, maxInt]
    split <;> omega
  cases q with
  | ofNat k =>
    have hwhole : m * Nat.pow 2 k = n := by
      rw [Int.ofNat_eq_natCast, zpow_natCast] at h
      exact_mod_cast h
    simp only [truncate, hwhole]
    exact if_pos (by simpa using hbounds)
  | negSucc k =>
    have hm : m = n * 2 ^ (k + 1) := by
      rw [zpow_negSucc, mul_inv_eq_iff_eq_mul₀ (by positivity)] at h
      exact_mod_cast h
    have hwhole : m / Nat.pow 2 (k + 1) = n := by
      rw [hm, Nat.pow_eq, Nat.mul_div_cancel _ (by positivity)]
    simp only [truncate, hwhole]
    exact if_pos (by simpa using hbounds)

/-- A whole number below `2^53` has a significand and an exponent. -/
theorem exists_legal {n : Nat} (hn : 0 < n) (hlt : n < 2 ^ 53) :
    ∃ m q, Legal m q ∧ (m : ℚ) * 2 ^ q = n := by
  have hlow := Nat.log2_self_le hn.ne'
  have hhigh : n < 2 ^ (n.log2 + 1) := Nat.lt_log2_self
  have hlog : n.log2 < 53 := (Nat.log2_lt hn.ne').2 hlt
  have hsplit : 2 ^ n.log2 * 2 ^ (52 - n.log2) = 2 ^ 52 := by
    rw [← pow_add]
    congr 1
    omega
  refine ⟨n * 2 ^ (52 - n.log2), (n.log2 : Int) - 52, ⟨by positivity, ?_, ?_, ?_, .inl ?_⟩, ?_⟩
  · calc n * 2 ^ (52 - n.log2) < 2 ^ (n.log2 + 1) * 2 ^ (52 - n.log2) :=
          Nat.mul_lt_mul_of_pos_right hhigh (by positivity)
      _ = 2 ^ 53 := by
        rw [pow_succ, mul_right_comm, hsplit]
        norm_num
  · rw [minExponent]
    omega
  · rw [maxExponent]
    omega
  · rw [← hsplit]
    exact Nat.mul_le_mul_right _ hlow
  · push_cast
    rw [mul_assoc, ← zpow_natCast, ← zpow_add₀ two_ne_zero,
      show ((52 - n.log2 : Nat) : Int) + ((n.log2 : Int) - 52) = 0 by omega, zpow_zero, mul_one]

/-- An integer below `2^53` is read exactly. -/
theorem exists_read_signed {n : Int} (h : n.natAbs < 2 ^ 53) :
    ∃ x, read (signed n) = .ok x ∧ x.truncate = n := by
  rw [signed_eq]
  by_cases hzero : n.natAbs = 0
  · obtain rfl : n = 0 := by omega
    rw [show decimal (Int.natAbs 0) = [0x30] by rw [decimal]; rfl]
    exact ⟨.finite false 0 minExponent, read_zero false,
      truncate_eq (n := 0) (by simp) (by decide) false⟩
  · obtain ⟨m, q, legal, hvalue⟩ := exists_legal (Nat.pos_of_ne_zero hzero) h
    have rounds : RoundsTo m q (n.natAbs : ℚ) := hvalue ▸ roundsTo_self legal
    refine ⟨_, read_of_writes (writes_decimal n.natAbs) legal rounds _, ?_⟩
    rw [truncate_eq hvalue h]
    split
    · next hnegative =>
      have := of_decide_eq_true hnegative
      omega
    · next hnegative =>
      have : ¬ n < 0 := by simpa using hnegative
      omega

end Binary64

end DocScribe.Number
