import DocScribe.Check.Compare
import DocScribe.Proofs.Scan.Boundary

/-!
# When the cross-check is silent

The cross-check has two passes: over the functions that the parser found, and over the lines that
the scanner takes for functions. A function with a body is passed over in silence exactly when the
scanner confirms all that is known of it (`compareFunction_eq_nil_iff`), and a line when the parser
has a function there, with or without a body (`unmatched_eq_nil_iff`). `compare_eq_nil_iff_agrees`
puts the two together: sorting by line adds and loses nothing.
-/

namespace DocScribe.Check

open Source Scan

/-- The scanner finds the function of the item where the parser found it, by this extent. -/
structure Confirms (d : Document) (limit : Limit) (item : Item) (extent : Range) : Prop where
  found : findExtent d limit ⟨item.line, 0⟩ .function = .ok extent
  anchor : extent.anchor.line = item.line
  last : extent.last.line = item.endLine
  name : codeName (d.lineText extent.anchor.line) .function = item.name
  owner : findOwner d limit extent.anchor.line = .ok item.owner?

/-- Scanner and parser agree on the functions of the document. -/
structure Agrees (d : Document) (limit : Limit) (items : List Item) : Prop where
  bodies : ∀ item ∈ items, item.kind = .function → item.hasBody = true →
    ∃ extent, Confirms d limit item extent
  declared : ∀ n : Nat, n < d.length → codeKind (d.lineText n) = .function →
    ∃ item ∈ items, item.kind = .function ∧ item.line = n

theorem ite_singleton_eq_nil_iff {α : Type} {c : Prop} [Decidable c] {a : α} :
    (if c then [] else [a]) = [] ↔ c := by
  by_cases h : c <;> simp [h]

/-- A function with a body is passed over in silence iff the scanner confirms it. -/
theorem compareFunction_eq_nil_iff {d : Document} {limit : Limit} {item : Item} :
    compareFunction d limit item = [] ↔ ∃ extent, Confirms d limit item extent := by
  rw [compareFunction]
  cases hextent : findExtent d limit ⟨item.line, 0⟩ .function with
  | error failure =>
    constructor
    · intro h
      cases h
    · rintro ⟨extent, confirms⟩
      have hfound := confirms.found
      rw [hextent] at hfound
      cases hfound
  | ok extent =>
    have unique : ∀ other, Confirms d limit item other → extent = other := by
      intro other confirms
      have hfound := confirms.found
      rw [hextent] at hfound
      exact Except.ok.inj hfound
    dsimp only
    cases howner : findOwner d limit extent.anchor.line with
    | error failure =>
      simp only [List.append_eq_nil_iff, List.cons_ne_nil, and_false, false_iff]
      rintro ⟨other, confirms⟩
      obtain rfl := unique other confirms
      have hfound := confirms.owner
      rw [howner] at hfound
      cases hfound
    | ok owner =>
      simp only [List.append_eq_nil_iff, ite_singleton_eq_nil_iff, beq_iff_eq]
      constructor
      · rintro ⟨⟨⟨hanchor, hlast⟩, hname⟩, rfl⟩
        exact ⟨extent, hextent, hanchor, hlast, hname, howner⟩
      · rintro ⟨other, confirms⟩
        obtain rfl := unique other confirms
        have hfound := confirms.owner
        rw [howner] at hfound
        exact ⟨⟨⟨confirms.anchor, confirms.last⟩, confirms.name⟩, Except.ok.inj hfound⟩

/-- The lines from number `n` on are passed over in silence iff the parser has a function wherever
the scanner takes one for granted. -/
theorem unmatched_eq_nil_iff {items : List Item} {n : Nat} {lines : List Text} :
    unmatched items n lines = [] ↔
      ∀ (i : Nat) (line : Text), lines[i]? = some line → codeKind line = .function →
        ∃ item ∈ items, item.kind = .function ∧ item.line = (n + i : Nat) := by
  induction lines generalizing n with
  | nil => simp [unmatched]
  | cons line lines ih =>
    have hitems : items.any (fun i => i.kind == .function && i.line == n) = true ↔
        ∃ item ∈ items, item.kind = .function ∧ item.line = n := by
      simp
    have hhead : (codeKind line == .function &&
        !items.any (fun i => i.kind == .function && i.line == n)) = true ↔
        ¬ (codeKind line = .function →
          ∃ item ∈ items, item.kind = .function ∧ item.line = n) := by
      rw [Bool.and_eq_true, Bool.not_eq_true', ← Bool.not_eq_true, hitems, beq_iff_eq]
      exact Classical.not_imp.symm
    rw [unmatched]
    split
    · next hreport =>
      constructor
      · intro h
        cases h
      · intro h
        exact absurd (h 0 line rfl) (hhead.1 hreport)
    · next hsilent =>
      have hfirst := Decidable.not_not.1 (mt hhead.2 hsilent)
      rw [ih]
      constructor
      · intro hrest i other hother
        cases i with
        | zero =>
          cases hother
          exact hfirst
        | succ i =>
          rw [show n + (i + 1) = n + 1 + i by omega]
          exact hrest i other hother
      · intro hall i other hother
        rw [show n + 1 + i = n + (i + 1) by omega]
        exact hall (i + 1) other hother

theorem unmatched_document_eq_nil_iff {d : Document} {items : List Item} :
    unmatched items 0 d = [] ↔
      ∀ n : Nat, n < d.length → codeKind (d.lineText n) = .function →
        ∃ item ∈ items, item.kind = .function ∧ item.line = n := by
  rw [unmatched_eq_nil_iff]
  constructor
  · intro h n hn
    have hline := h n (d.lineText n) (by rw [Document.lineText_of_lt hn, List.getElem?_eq_getElem])
    rwa [Nat.zero_add] at hline
  · intro h n line hline
    obtain ⟨hn, rfl⟩ := List.getElem?_eq_some_iff.1 hline
    rw [Nat.zero_add, ← Document.lineText_of_lt hn]
    exact h n hn

theorem byLine_trans (a b c : Mismatch) (hab : decide (a.line ≤ b.line) = true)
    (hbc : decide (b.line ≤ c.line) = true) : decide (a.line ≤ c.line) = true := by
  rw [decide_eq_true_eq] at hab hbc ⊢
  exact Int.le_trans hab hbc

theorem byLine_total (a b : Mismatch) :
    (decide (a.line ≤ b.line) || decide (b.line ≤ a.line)) = true := by
  rw [Bool.or_eq_true, decide_eq_true_eq, decide_eq_true_eq]
  exact Int.le_total a.line b.line

/-- Differences are listed by line. -/
theorem pairwise_compare (d : Document) (limit : Limit) (items : List Item) :
    (compare d limit items).Pairwise fun a b => a.line ≤ b.line := by
  have hsorted := List.pairwise_mergeSort byLine_trans byLine_total
    ((items.filter fun i => i.kind == .function && i.hasBody).flatMap (compareFunction d limit) ++
      unmatched items 0 d)
  exact hsorted.imp fun h => of_decide_eq_true h

/-- **The cross-check reports exactly the disagreements**: it lists nothing iff scanner and parser
agree on every function, and what it lists is ordered by line. -/
theorem compare_eq_nil_iff_agrees (d : Document) (limit : Limit) (items : List Item) :
    (compare d limit items = [] ↔ Agrees d limit items) ∧
      (compare d limit items).Pairwise fun a b => a.line ≤ b.line := by
  refine ⟨?_, pairwise_compare d limit items⟩
  rw [compare, ← List.length_eq_zero_iff, List.length_mergeSort, List.length_eq_zero_iff,
    List.append_eq_nil_iff, List.flatMap_eq_nil_iff, unmatched_document_eq_nil_iff]
  constructor
  · rintro ⟨hbodies, hdeclared⟩
    refine ⟨fun item hitem hkind hbody => ?_, hdeclared⟩
    have hmem : item ∈ items.filter fun i => i.kind == .function && i.hasBody :=
      List.mem_filter.2 ⟨hitem, by simp [hkind, hbody]⟩
    exact compareFunction_eq_nil_iff.1 (hbodies item hmem)
  · intro agrees
    refine ⟨fun item hitem => ?_, agrees.declared⟩
    obtain ⟨hmem, htest⟩ := List.mem_filter.1 hitem
    rw [Bool.and_eq_true, beq_iff_eq] at htest
    exact compareFunction_eq_nil_iff.2 (agrees.bodies item hmem htest.1 htest.2)

end DocScribe.Check
