import DocScribe.Text.Basic
import Mathlib.Data.List.Sort

/-!
# The order of texts

Texts are ordered by their bytes, which is a linear order (`lt_iff`). So a sorted list depends only
on what is in the list (`sort_eq_of_perm`).
-/

namespace DocScribe.Text

theorem lt_iff {s t : List UInt8} : lt s t = true ↔ s < t := by
  induction s generalizing t with
  | nil => cases t <;> simp [lt]
  | cons b s ih =>
    cases t with
    | nil => simp [lt]
    | cons c t => simp [lt, List.cons_lt_cons_iff, ih]

theorem not_lt_iff {s t : List UInt8} : (!lt t s) = true ↔ s ≤ t := by
  rw [Bool.not_eq_true', Bool.eq_false_iff, ne_eq, lt_iff, List.not_lt]

/-- The order of a list does not matter when it is sorted. -/
theorem sort_eq_of_perm {texts others : List Text} (h : texts.Perm others) :
    sort texts = sort others := by
  have htrans : ∀ s t u : Text, (!lt t s) = true → (!lt u t) = true → (!lt u s) = true := by
    intro s t u
    rw [not_lt_iff, not_lt_iff, not_lt_iff]
    exact List.le_trans
  have htotal : ∀ s t : Text, (!lt t s || !lt s t) = true := by
    intro s t
    rw [Bool.or_eq_true, not_lt_iff, not_lt_iff]
    exact List.le_total s t
  refine List.Perm.eq_of_pairwise ?_ (List.pairwise_mergeSort htrans htotal texts)
    (List.pairwise_mergeSort htrans htotal others) ?_
  · intro s t _ _ hst hts
    exact List.le_antisymm (not_lt_iff.1 hst) (not_lt_iff.1 hts)
  · exact ((List.mergeSort_perm texts _).trans h).trans (List.mergeSort_perm others _).symm

theorem sort_eq_self {texts : List Text} (h : texts.Pairwise fun s t => lt s t = true) :
    sort texts = texts := by
  refine List.mergeSort_of_pairwise (h.imp ?_)
  intro s t hlt
  rw [not_lt_iff]
  exact List.le_of_lt (lt_iff.1 hlt)

end DocScribe.Text
