import DocScribe.Number.Binary64
import DocScribe.Proofs.Number.Digits
import Mathlib.Tactic.Ring

/-!
# Decimal numerals

A `Numeral` is a sign, whole digits, and a fraction and an exponent that may be missing. Its text is
read as the floating-point number nearest to its value (`read_text`).
-/

namespace DocScribe.Number

/-! Runs of digits. -/

/-- All bytes are decimal digits. -/
def IsDigits (s : Text) : Prop :=
  ∀ b ∈ s, Text.isDigitByte b = true

/-- The number that digits write. -/
def digitsNat : Text → Nat
  | [] => 0
  | b :: s => (b.toNat - 0x30) * 10 ^ s.length + digitsNat s

theorem digitsNat_append (s t : Text) :
    digitsNat (s ++ t) = digitsNat s * 10 ^ t.length + digitsNat t := by
  induction s with
  | nil => simp [digitsNat]
  | cons b s ih =>
    rw [List.cons_append, digitsNat, digitsNat, ih, List.length_append, pow_add]
    ring

theorem digitValue?_of_isDigitByte {b : UInt8} (h : Text.isDigitByte b = true) :
    digitValue? b = some (b.toNat - 0x30) := by
  rw [digitValue?]
  exact if_pos h

theorem toNat_sub_lt {b : UInt8} (h : Text.isDigitByte b = true) : b.toNat - 0x30 < 10 := by
  simp only [Text.isDigitByte, Bool.and_eq_true, decide_eq_true_eq, UInt8.le_iff_toNat_le] at h
  have hupper : b.toNat ≤ 57 := h.2
  omega

/-- A decimal numeral. -/
structure Numeral where
  negative : Bool := false
  whole : Text
  /-- The digits after the point; empty for no point. -/
  fraction : Text := []
  /-- The exponent, true for a negative one, with its digits. -/
  exponent : Option (Bool × Text) := none

namespace Numeral

/-- The sign. -/
def signText (negative : Bool) : Text :=
  if negative then [0x2d] else []

/-- The point and the digits after it. -/
def fractionText (fraction : Text) : Text :=
  if fraction.isEmpty then [] else 0x2e :: fraction

theorem fractionText_of_ne_nil {fraction : Text} (h : fraction ≠ []) :
    fractionText fraction = 0x2e :: fraction := by
  rw [fractionText, if_neg (by simpa using h)]

/-- The exponent with its mark and sign. -/
def exponentText : Option (Bool × Text) → Text
  | none => []
  | some (negative, digits) => 0x65 :: (if negative then 0x2d else 0x2b) :: digits

/-- The numeral without its sign. -/
def unsigned (n : Numeral) : Text :=
  n.whole ++ fractionText n.fraction ++ exponentText n.exponent

/-- The numeral as it is written. -/
def text (n : Numeral) : Text :=
  signText n.negative ++ n.unsigned

/-- The exponent as a number. -/
def exponentValue : Option (Bool × Text) → Int
  | none => 0
  | some (negative, digits) => if negative then -(digitsNat digits) else digitsNat digits

/-- What a numeral may consist of. Whole digits start with a zero only if it is the only one. -/
structure WellFormed (n : Numeral) : Prop where
  whole : IsDigits n.whole
  whole_ne_nil : n.whole ≠ []
  whole_head : n.whole = [0x30] ∨ n.whole.head? ≠ some 0x30
  fraction : IsDigits n.fraction
  exponent : ∀ negative digits, n.exponent = some (negative, digits) →
    IsDigits digits ∧ digits ≠ [] ∧ digitsNat digits < 100000

end Numeral

namespace Binary64

open Numeral

/-! Reading the parts of a numeral. -/

theorem readMantissa_digits {ds : Text} (hds : IsDigits ds) (acc : Mantissa) (rest : Text) :
    readMantissa 10 acc (ds ++ rest) =
      readMantissa 10
        { acc with
          value := acc.value * 10 ^ ds.length + digitsNat ds
          places := if acc.point then acc.places + ds.length else acc.places
          digits := acc.digits + ds.length } rest := by
  induction ds generalizing acc with
  | nil => cases acc; simp [digitsNat]
  | cons b ds ih =>
    obtain ⟨hb, hrest⟩ := List.forall_mem_cons.1 hds
    have hunder : (b == 0x5f) = false := by
      rw [beq_eq_false_iff_ne]
      rintro rfl
      cases hb
    have hpoint : (b == 0x2e) = false := by
      rw [beq_eq_false_iff_ne]
      rintro rfl
      cases hb
    rw [List.cons_append, readMantissa, hunder, hpoint, if_neg Bool.false_ne_true,
      if_neg Bool.false_ne_true, digitValue?_of_isDigitByte hb]
    dsimp only
    rw [if_pos (toNat_sub_lt hb), ih hrest]
    congr 1
    rw [Mantissa.mk.injEq]
    refine ⟨?_, ?_, rfl, ?_, rfl⟩
    · simp only [digitsNat, List.length_cons]
      ring
    · cases acc.point
      · rfl
      · simp only [if_true, List.length_cons]
        ring
    · simp only [List.length_cons]
      ring

theorem readExponentDigits_digits {ds : Text} (hds : IsDigits ds) {e : Nat}
    (hlt : e * 10 ^ ds.length + digitsNat ds < 100000) :
    readExponentDigits e ds = (e * 10 ^ ds.length + digitsNat ds, []) := by
  induction ds generalizing e with
  | nil => simp [readExponentDigits, digitsNat]
  | cons b ds ih =>
    obtain ⟨hb, hrest⟩ := List.forall_mem_cons.1 hds
    have hunder : (b == 0x5f) = false := by
      rw [beq_eq_false_iff_ne]
      rintro rfl
      cases hb
    have hsame : e * 10 ^ (b :: ds).length + digitsNat (b :: ds) =
        (e * 10 + (b.toNat - 0x30)) * 10 ^ ds.length + digitsNat ds := by
      simp only [digitsNat, List.length_cons]
      ring
    rw [hsame] at hlt ⊢
    have hsmall : e < 10000 := by
      have hpow : 1 ≤ 10 ^ ds.length := Nat.one_le_pow _ _ (by decide)
      have := Nat.mul_le_mul_left (e * 10 + (b.toNat - 0x30)) hpow
      omega
    rw [readExponentDigits, hunder, hb, if_neg Bool.false_ne_true, if_pos rfl, if_pos hsmall]
    exact ih hrest hlt

theorem takeSign_of_digit {b : UInt8} (hb : Text.isDigitByte b = true) (s : Text) :
    takeSign (b :: s) = (false, b :: s) := by
  rw [takeSign.eq_def]
  split
  · next h =>
    obtain ⟨rfl, -⟩ := List.cons.inj h
    cases hb
  · next h =>
    obtain ⟨rfl, -⟩ := List.cons.inj h
    cases hb
  · rfl

theorem takeSign_signText (negative : Bool) {s : Text}
    (hs : ∀ b, s.head? = some b → Text.isDigitByte b = true) (hne : s ≠ []) :
    takeSign (signText negative ++ s) = (negative, s) := by
  obtain ⟨b, s, rfl⟩ := List.exists_cons_of_ne_nil hne
  cases negative with
  | true => rfl
  | false => exact takeSign_of_digit (hs b rfl) s

theorem readExponent_digits (negative : Bool) {ds : Text} (hds : IsDigits ds) (hne : ds ≠ [])
    (hlt : digitsNat ds < 100000) :
    readExponent ((if negative then 0x2d else 0x2b) :: ds) =
      some (exponentValue (some (negative, ds)), []) := by
  have hsign : takeSign ((if negative then 0x2d else 0x2b) :: ds) = (negative, ds) := by
    cases negative <;> rfl
  have hdigits : readExponentDigits 0 ds = (digitsNat ds, []) := by
    rw [readExponentDigits_digits hds (by simpa using hlt)]
    simp
  obtain ⟨b, ds, rfl⟩ := List.exists_cons_of_ne_nil hne
  unfold readExponent
  rw [hsign]
  dsimp only
  rw [if_pos (hds b List.mem_cons_self), hdigits]
  rfl

theorem readMantissa_exponentText (acc : Mantissa) (exponent : Option (Bool × Text))
    (hrest : acc.rest = []) :
    readMantissa 10 acc (exponentText exponent) =
      { acc with rest := exponentText exponent } := by
  cases exponent with
  | none =>
    cases acc
    cases hrest
    rfl
  | some e => rfl

theorem readMantissa_unsigned {n : Numeral} (wf : n.WellFormed) :
    readMantissa 10 {} n.unsigned =
      { value := digitsNat (n.whole ++ n.fraction)
        places := n.fraction.length
        point := !n.fraction.isEmpty
        digits := n.whole.length + n.fraction.length
        rest := exponentText n.exponent } := by
  rw [unsigned, List.append_assoc, readMantissa_digits wf.whole]
  by_cases hfraction : n.fraction = []
  · rw [hfraction, show fractionText [] = [] from rfl, List.nil_append,
      readMantissa_exponentText _ _ rfl]
    simp
  · have hpoint : ∀ (acc : Mantissa) (s : Text), acc.point = false →
        readMantissa 10 acc (0x2e :: s) = readMantissa 10 { acc with point := true } s := by
      intro acc s hacc
      rw [readMantissa, if_neg (by decide), if_pos (by decide), hacc, if_neg Bool.false_ne_true]
    rw [fractionText_of_ne_nil hfraction, List.cons_append, hpoint _ _ rfl,
      readMantissa_digits wf.fraction, readMantissa_exponentText _ _ rfl, digitsNat_append]
    simp [hfraction]

/-- The bytes of a numeral after its sign: digits, a point, and an exponent with its sign. -/
theorem mem_unsigned {n : Numeral} (wf : n.WellFormed) {b : UInt8} (hb : b ∈ n.unsigned) :
    Text.isDigitByte b = true ∨ b = 0x2d ∨ b = 0x2b ∨ b = 0x2e ∨ b = 0x65 := by
  rw [unsigned, List.mem_append, List.mem_append] at hb
  rcases hb with (hb | hb) | hb
  · exact .inl (wf.whole b hb)
  · rw [fractionText] at hb
    split at hb
    · cases hb
    · rcases List.mem_cons.1 hb with rfl | hb
      · simp
      · exact .inl (wf.fraction b hb)
  · cases hexponent : n.exponent with
    | none =>
      rw [hexponent] at hb
      cases hb
    | some e =>
      obtain ⟨negative, digits⟩ := e
      rw [hexponent] at hb
      rcases List.mem_cons.1 hb with rfl | hb
      · simp
      · rcases List.mem_cons.1 hb with rfl | hb
        · cases negative <;> simp
        · exact .inl ((wf.exponent negative digits hexponent).1 b hb)

theorem lowerByte_of_isDigitByte {b : UInt8} (h : Text.isDigitByte b = true) :
    lowerByte b = b := by
  simp only [Text.isDigitByte, Bool.and_eq_true, decide_eq_true_eq, UInt8.le_iff_toNat_le] at h
  have hupper : b.toNat ≤ 57 := h.2
  rw [lowerByte, if_neg]
  simp only [Bool.and_eq_true, decide_eq_true_eq, UInt8.le_iff_toNat_le, not_and]
  intro hlower
  have : 65 ≤ b.toNat := hlower
  omega

theorem lowerByte_ne_of_mem {n : Numeral} (wf : n.WellFormed) {b : UInt8} (hb : b ∈ n.unsigned) :
    lowerByte b ≠ 0x78 ∧ b ≠ 0x5f := by
  rcases mem_unsigned wf hb with hdigit | rfl | rfl | rfl | rfl
  · rw [lowerByte_of_isDigitByte hdigit]
    constructor
    · rintro rfl
      cases hdigit
    · rintro rfl
      cases hdigit
  all_goals decide

theorem exists_unsigned_eq_cons {n : Numeral} (wf : n.WellFormed) :
    ∃ b s, n.unsigned = b :: s ∧ Text.isDigitByte b = true := by
  obtain ⟨b, s, hwhole⟩ := List.exists_cons_of_ne_nil wf.whole_ne_nil
  refine ⟨b, s ++ fractionText n.fraction ++ exponentText n.exponent, ?_, ?_⟩
  · rw [unsigned, hwhole]
    rfl
  · exact wf.whole b (by rw [hwhole]; exact List.mem_cons_self)

theorem takeSign_text {n : Numeral} (wf : n.WellFormed) :
    takeSign n.text = (n.negative, n.unsigned) := by
  obtain ⟨b, s, hcons, hb⟩ := exists_unsigned_eq_cons wf
  rw [text, hcons]
  refine takeSign_signText _ (fun c hc => ?_) (List.cons_ne_nil b s)
  rw [← Option.some.inj hc]
  exact hb

/-- A numeral starts with a digit, so it is none of the special words. -/
theorem read_text_eq_readNumber {n : Numeral} (wf : n.WellFormed) :
    read n.text = readNumber n.text := by
  obtain ⟨b, s, hcons, hb⟩ := exists_unsigned_eq_cons wf
  have hlower : n.text.map lowerByte = signText n.negative ++ b :: s.map lowerByte := by
    rw [text, hcons, List.map_append, List.map_cons, lowerByte_of_isDigitByte hb]
    cases n.negative <;> rfl
  have hsign : takeSign (signText n.negative ++ b :: s.map lowerByte) =
      (n.negative, b :: s.map lowerByte) := by
    refine takeSign_signText _ (fun c hc => ?_) (List.cons_ne_nil b _)
    rw [← Option.some.inj hc]
    exact hb
  have hword : ∀ first rest, Text.isDigitByte first = false →
      (b :: s.map lowerByte == first :: rest) = false := by
    intro first rest hfirst
    rw [beq_eq_false_iff_ne]
    intro h
    rw [(List.cons.inj h).1, hfirst] at hb
    cases hb
  have hnan : (signText n.negative ++ b :: s.map lowerByte == ("nan" : Text)) = false := by
    cases n.negative with
    | true => rfl
    | false => exact hword 0x6e ("an" : Text) (by decide)
  have hinf : ((b :: s.map lowerByte == ("inf" : Text)) ||
      (b :: s.map lowerByte == ("infinity" : Text))) = false := by
    rw [Bool.or_eq_false_iff]
    exact ⟨hword 0x69 ("nf" : Text) (by decide), hword 0x69 ("nfinity" : Text) (by decide)⟩
  rw [read, hlower, hsign]
  dsimp only
  rw [hinf, if_neg Bool.false_ne_true, hnan, if_neg Bool.false_ne_true]

theorem takeHexMark_unsigned {n : Numeral} (wf : n.WellFormed) :
    takeHexMark n.unsigned = (false, n.unsigned) := by
  have hmarks := fun b => lowerByte_ne_of_mem wf (b := b)
  generalize n.unsigned = s at hmarks ⊢
  rw [takeHexMark.eq_def]
  split
  · next mark c rest =>
    have hmark := (hmarks mark (by simp)).1
    rw [if_neg (by simpa using hmark)]
  · rfl

theorem takeExponent?_exponentText {n : Numeral} (wf : n.WellFormed) :
    takeExponent? false (exponentText n.exponent) = some (exponentValue n.exponent, []) := by
  cases hexponent : n.exponent with
  | none => rfl
  | some e =>
    obtain ⟨negative, digits⟩ := e
    obtain ⟨hdigits, hne, hlt⟩ := wf.exponent negative digits hexponent
    exact readExponent_digits negative hdigits hne hlt

/-- A numeral is read as the number nearest to its value. -/
theorem read_text {n : Numeral} (wf : n.WellFormed) :
    read n.text = inRange (ofDecimal n.negative (digitsNat (n.whole ++ n.fraction))
      (exponentValue n.exponent - n.fraction.length)) := by
  have hdigits : (n.whole.length + n.fraction.length == 0) = false := by
    have := List.length_pos_iff.2 wf.whole_ne_nil
    rw [beq_eq_false_iff_ne]
    omega
  have hunder : n.text.contains 0x5f = false := by
    rw [← Bool.not_eq_true, List.contains_iff_mem, text, List.mem_append]
    rintro (hsign | hmem)
    · cases hnegative : n.negative <;> simp [hnegative, signText] at hsign
    · exact (lowerByte_ne_of_mem wf hmem).2 rfl
  rw [read_text_eq_readNumber wf, readNumber, takeSign_text wf]
  dsimp only
  rw [takeHexMark_unsigned wf]
  dsimp only
  rw [if_neg Bool.false_ne_true, readMantissa_unsigned wf]
  dsimp only
  rw [takeExponent?_exponentText wf]
  dsimp only
  rw [hdigits, hunder, Bool.false_and, if_neg Bool.false_ne_true, if_neg Bool.false_ne_true,
    if_neg Bool.false_ne_true]

end Binary64

end DocScribe.Number
