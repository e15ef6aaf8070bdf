import DocScribe.Proofs.Text.Trim
import DocScribe.Source.Declaration

/-!
# Lists of generic parameters

A list of generic parameters runs from an opening angle bracket to where its brackets balance for
the first time; the bracket of an arrow counts for nothing. The reader counts brackets as it goes,
and one step of it (`ClosesAngles.cases`) shows that it stops right after the list
(`IsGenericList.afterGenerics_append`).
-/

namespace DocScribe.Source

open Text

/-- What a byte adds to the number of open angle brackets, where `arrow` says that a dash stands
before it: the bracket of an arrow closes nothing. -/
def angleStep (arrow : Bool) (b : UInt8) : Int :=
  if b == 0x3c then 1 else if b == 0x3e && !arrow then -1 else 0

/-- Opening less closing angle brackets, where `arrow` says that a dash stands before the text. -/
def angleSum : (arrow : Bool) → Text → Int
  | _, [] => 0
  | arrow, b :: s => angleStep arrow b + angleSum (b == 0x2d) s

/-- The text is one list of generic parameters: it starts with an opening bracket, and its brackets
balance at its last byte for the first time. -/
structure IsGenericList (s : Text) : Prop where
  opened : s.head? = some 0x3c
  closed : angleSum false s = 0
  first : ∀ n < s.length, 0 < n → angleSum false (s.take n) ≠ 0

instance (s : Text) : Decidable (IsGenericList s) :=
  decidable_of_iff (s.head? = some 0x3c ∧ angleSum false s = 0 ∧
      ∀ n < s.length, 0 < n → angleSum false (s.take n) ≠ 0)
    ⟨fun h => ⟨h.1, h.2.1, h.2.2⟩, fun h => ⟨h.opened, h.closed, h.first⟩⟩

/-- With `depth` brackets open, `s` closes them all with its last byte and not before. -/
structure ClosesAngles (depth : Nat) (arrow : Bool) (s : Text) : Prop where
  closed : depth + angleSum arrow s = 0
  first : ∀ n < s.length, depth + angleSum arrow (s.take n) ≠ 0

/-- **The step**: the first byte closes the last open bracket and is the only one, or it leaves
brackets open that the rest closes. -/
theorem ClosesAngles.cases {depth : Nat} {arrow : Bool} {b : UInt8} {s : Text}
    (closes : ClosesAngles depth arrow (b :: s)) (hdepth : 0 < depth) :
    (depth = 1 ∧ arrow = false ∧ b = 0x3e ∧ s = []) ∨
      ∃ depth' : Nat, 0 < depth' ∧ (depth' : Int) = depth + angleStep arrow b ∧
        ClosesAngles depth' (b == 0x2d) s := by
  by_cases hzero : (depth : Int) + angleStep arrow b = 0
  · refine .inl ?_
    have hclose : (b == 0x3e && !arrow) = true := by
      by_contra hno
      rw [angleStep, if_neg hno] at hzero
      split at hzero <;> omega
    have hs : s = [] := by
      by_contra hne
      have hlength := List.length_pos_iff.2 hne
      refine closes.first 1 (by rw [List.length_cons]; omega) ?_
      rw [List.take_succ_cons, List.take_zero, angleSum, angleSum, Int.add_zero, hzero]
    simp only [Bool.and_eq_true, beq_iff_eq, Bool.not_eq_true'] at hclose
    obtain ⟨rfl, rfl⟩ := hclose
    have hstep : angleStep false 0x3e = -1 := rfl
    exact ⟨by omega, rfl, rfl, hs⟩
  · have hstep : -1 ≤ angleStep arrow b := by
      rw [angleStep]
      split
      · decide
      · split <;> decide
    refine .inr ⟨(depth + angleStep arrow b).toNat, by omega, by omega, ?_, ?_⟩
    · have hclosed := closes.closed
      rw [angleSum] at hclosed
      omega
    · intro n hn
      have hfirst := closes.first (n + 1) (by rw [List.length_cons]; omega)
      rw [List.take_succ_cons, angleSum] at hfirst
      omega

theorem not_closesAngles_nil {depth : Nat} {arrow : Bool} (hdepth : 0 < depth) :
    ¬ ClosesAngles depth arrow [] := by
  intro closes
  have hclosed := closes.closed
  rw [angleSum] at hclosed
  omega

/-- Reading up to where the brackets balance leaves what follows. -/
theorem ClosesAngles.afterGenerics_append {depth : Nat} {arrow : Bool} {s : Text}
    (closes : ClosesAngles depth arrow s) (hdepth : 0 < depth) (rest : Text) :
    afterGenerics depth arrow (s ++ rest) = rest := by
  induction s generalizing depth arrow with
  | nil => exact absurd closes (not_closesAngles_nil hdepth)
  | cons b s ih =>
    rcases closes.cases hdepth with ⟨rfl, rfl, rfl, rfl⟩ | ⟨depth', hdepth', hstep, hrest⟩
    · rfl
    · have hread := ih hrest hdepth'
      rw [angleStep] at hstep
      rw [List.cons_append, afterGenerics]
      by_cases hopen : (b == 0x3c) = true
      · have hdash : (b == 0x2d) = false := by
          rw [beq_iff_eq.1 hopen]
          rfl
        rw [if_pos hopen] at hstep ⊢
        rwa [hdash, show depth' = depth + 1 by omega] at hread
      · rw [if_neg hopen] at hstep ⊢
        by_cases hclose : (b == 0x3e && !arrow) = true
        · have hbracket : b = 0x3e := by
            rw [Bool.and_eq_true, beq_iff_eq] at hclose
            exact hclose.1
          have hdash : (b == 0x2d) = false := by
            rw [hbracket]
            rfl
          rw [if_pos hclose] at hstep ⊢
          rw [if_neg (by omega)]
          rwa [hdash, show depth' = depth - 1 by omega] at hread
        · rw [if_neg hclose] at hstep ⊢
          rwa [show depth' = depth by omega] at hread

theorem ClosesAngles.getLast? {depth : Nat} {arrow : Bool} {s : Text}
    (closes : ClosesAngles depth arrow s) (hdepth : 0 < depth) : s.getLast? = some 0x3e := by
  induction s generalizing depth arrow with
  | nil => exact absurd closes (not_closesAngles_nil hdepth)
  | cons b s ih =>
    rcases closes.cases hdepth with ⟨-, -, rfl, rfl⟩ | ⟨depth', hdepth', -, hrest⟩
    · rfl
    · rw [List.getLast?_cons, ih hrest hdepth', Option.getD_some]

namespace IsGenericList

variable {s : Text} (list : IsGenericList s)
include list

theorem exists_closesAngles : ∃ rest, s = 0x3c :: rest ∧ ClosesAngles 1 false rest := by
  obtain ⟨rest, rfl⟩ := List.head?_eq_some_iff.1 list.opened
  refine ⟨rest, rfl, ?_, ?_⟩
  · have hclosed := list.closed
    rw [angleSum] at hclosed
    exact hclosed
  · intro n hn
    have hfirst := list.first (n + 1) (by rw [List.length_cons]; omega) (by omega)
    rw [List.take_succ_cons, angleSum] at hfirst
    exact hfirst

theorem afterGenerics_append (rest : Text) : afterGenerics 0 false (s ++ rest) = rest := by
  obtain ⟨inner, rfl, closes⟩ := list.exists_closesAngles
  exact closes.afterGenerics_append Nat.one_pos rest

theorem getLast? : s.getLast? = some 0x3e := by
  obtain ⟨inner, rfl, closes⟩ := list.exists_closesAngles
  rw [List.getLast?_cons, closes.getLast? Nat.one_pos, Option.getD_some]

theorem solid : Solid s :=
  solid_of_ends list.opened list.getLast? rfl rfl

end IsGenericList

end DocScribe.Source
