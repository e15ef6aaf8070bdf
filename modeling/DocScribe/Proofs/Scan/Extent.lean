import DocScribe.Proofs.Scan.Target
import Mathlib.Algebra.Order.BigOperators.Group.Finset

/-!
# The braces of an extent

An extent reaches from a declaration to the first line on which no brace of it is left open. From
its first opening brace on every line before the last leaves one open, so the lines of an extent
close every brace that they open (`Delimits`, `findExtent_delimits`). They can close more: the last
line may end the blocks around the declaration too, and then the extent is not balanced
(`sharedLine_unbalanced`). It is balanced iff the last line closes no more than is open there, and
so where each line ends at most one block (`EndsOneBlock`).
-/

namespace DocScribe.Scan

open Source

/-- Each of the lines `s` to `e` closes at most one brace more than it opens, and none more before
one of them has opened a brace. -/
def EndsOneBlock (d : Document) (s e : Nat) : Prop :=
  ∀ m, s ≤ m → m ≤ e →
    closes (d.lineText m) ≤ opens (d.lineText m) + if Opened d s m then 1 else 0

/-- Lines `s` to `e` are a construct of the kind, as far as their braces tell. -/
structure Delimits (d : Document) (kind : Kind) (s e : Nat) : Prop where
  declares : codeKind (d.lineText s) = kind
  start_le : s ≤ e
  lt_length : e < d.length
  opened : Opened d s (e + 1)
  settled : net d s (e + 1) ≤ 0
  open_before : ∀ n, n ≤ e → Opened d s n → 0 < net d s n
  balanced_iff : net d s (e + 1) = 0 ↔
    (closes (d.lineText e) : Int) ≤ net d s e + opens (d.lineText e)
  balanced : EndsOneBlock d s e → net d s (e + 1) = 0

section

variable {d : Document} {s e n : Nat}

/-- Before a construct is closed, a brace of it stays open. -/
theorem ClosesOn.net_pos (ends : ClosesOn d s e) (hne : n ≤ e) (opened : Opened d s n) :
    0 < net d s n := by
  have hsn : s < n := by
    obtain ⟨m, hsm, hmn, -⟩ := opened
    omega
  obtain ⟨k, rfl⟩ : ∃ k, n = k + 1 := ⟨n - 1, by omega⟩
  by_contra hle
  exact ends.first k (by omega) hne ⟨opened, by omega⟩

/-- Up to the first opening brace, lines that end at most one block close nothing. -/
theorem EndsOneBlock.net_nonneg (single : EndsOneBlock d s e) (hne : n ≤ e + 1)
    (unopened : ¬ Opened d s n) : 0 ≤ net d s n := by
  refine Finset.sum_nonneg fun m hm => ?_
  obtain ⟨hsm, hmn⟩ := Finset.mem_Ico.1 hm
  have hclosed : ¬ Opened d s m := by
    rintro ⟨k, hsk, hkm, ho⟩
    exact unopened ⟨k, hsk, by omega, ho⟩
  have hline := single m hsm (by omega)
  rw [if_neg hclosed] at hline
  rw [balance]
  omega

/-- Lines that end at most one block close no more on the last line than is open there. -/
theorem ClosesOn.closes_le (ends : ClosesOn d s e) (single : EndsOneBlock d s e) :
    (closes (d.lineText e) : Int) ≤ net d s e + opens (d.lineText e) := by
  have hlast := single e ends.start_le (Nat.le_refl e)
  by_cases opened : Opened d s e
  · rw [if_pos opened] at hlast
    have hpos := ends.net_pos (Nat.le_refl e) opened
    omega
  · rw [if_neg opened] at hlast
    have hnet := single.net_nonneg (by omega) opened
    omega

theorem ClosesOn.delimits {kind : Kind} (ends : ClosesOn d s e)
    (declares : codeKind (d.lineText s) = kind) : Delimits d kind s e := by
  have hsettled := ends.closed.settled
  have hlast := net_succ d ends.start_le
  have hiff : net d s (e + 1) = 0 ↔
      (closes (d.lineText e) : Int) ≤ net d s e + opens (d.lineText e) := by
    rw [balance] at hlast
    omega
  exact {
    declares
    start_le := ends.start_le
    lt_length := ends.lt_length
    opened := ends.closed.opened
    settled := hsettled
    open_before := fun _ hne => ends.net_pos hne
    balanced_iff := hiff
    balanced := fun single => hiff.2 (ends.closes_le single) }

end

/-- **The braces of an extent**: an extent starts on a declaration of its kind, and its last line is
the first one on which every brace that the extent opened is closed. -/
theorem findExtent_delimits {d : Document} {limit : Limit} {cursor : Position} {kind : Kind}
    {range : Range} (h : findExtent d limit cursor kind = .ok range) :
    ∃ s e : Nat, range = ⟨⟨s, 0⟩, ⟨e, lastColumn (d.lineText e)⟩⟩ ∧ Delimits d kind s e := by
  obtain ⟨anchor, last, hstart, hend, rfl⟩ := findExtent_eq_ok_iff.1 h
  obtain ⟨s, hs, rfl⟩ := exists_line_of_findStart hstart
  obtain ⟨declares, e, ends, rfl, -⟩ := (findEnd_eq_ok_iff rfl hs).1 hend
  exact ⟨s, e, rfl, ends.delimits declares⟩

/-- A function whose signature spans lines, with a line that closes a brace and opens one. -/
def longSignature : Document :=
  ["fn f<T>(x: T)", "where", "  T: Clone,", "\x7b", "  if p \x7b", "  \x7d else \x7b", "  \x7d",
   "\x7d // \x7d", "fn g() \x7b\x7d"]

theorem longSignature_delimits :
    findExtent longSignature {} ⟨6, 2⟩ .function = .ok ⟨⟨0, 0⟩, ⟨7, 5⟩⟩ ∧
    ∃ s e : Nat, (⟨⟨0, 0⟩, ⟨7, 5⟩⟩ : Range) =
        ⟨⟨s, 0⟩, ⟨e, lastColumn (longSignature.lineText e)⟩⟩ ∧
      Delimits longSignature .function s e := by
  have found : findExtent longSignature {} ⟨6, 2⟩ .function = .ok ⟨⟨0, 0⟩, ⟨7, 5⟩⟩ := by
    decide
  exact ⟨found, findExtent_delimits found⟩

/-- A trait whose last brace stands on the line of its function. -/
def sharedLine : Document :=
  ["trait T \x7b", "  fn f() \x7b x() \x7d \x7d"]

/-- The extent of the function is its line, and that line closes the trait as well. -/
theorem sharedLine_unbalanced :
    ¬ ∀ range, findExtent sharedLine {} ⟨1, 0⟩ .function = .ok range →
      ∃ s e : Nat, range.anchor.line = s ∧ range.last.line = e ∧ s ≤ e ∧
        codeKind (sharedLine.lineText s) = .function ∧ net sharedLine s (e + 1) = 0 := by
  intro balanced
  have found : findExtent sharedLine {} ⟨1, 0⟩ .function = .ok ⟨⟨1, 0⟩, ⟨1, 17⟩⟩ := by
    decide
  obtain ⟨s, e, hs, he, -, -, hnet⟩ := balanced _ found
  obtain rfl : s = 1 := Int.ofNat_inj.1 hs.symm
  obtain rfl : e = 1 := Int.ofNat_inj.1 he.symm
  have hsurplus : net sharedLine 1 2 = -1 := by decide
  rw [hsurplus] at hnet
  cases hnet

end DocScribe.Scan
