import DocScribe.Proofs.Text.Lines
import DocScribe.Source.Document

/-!
# Lines of a document

The lines of a document by number: what the walks upward and downward from a line are made of.
-/

namespace DocScribe.Document

theorem lineText_natCast (d : Document) (n : Nat) : d.lineText n = d.getD n [] := by
  rw [lineText, if_neg (by omega), Int.toNat_natCast]

theorem lineText_of_lt {d : Document} {n : Nat} (hn : n < d.length) : d.lineText n = d[n] := by
  rw [lineText_natCast, List.getD_eq_getElem?_getD, List.getElem?_eq_getElem hn, Option.getD_some]

theorem lineText_mem {d : Document} {n : Nat} (hn : n < d.length) : d.lineText n ∈ d := by
  rw [lineText_of_lt hn]
  exact List.getElem_mem hn

theorem hasLine_natCast (d : Document) (n : Nat) : d.hasLine n = decide (n < d.length) := by
  simp [hasLine]

theorem exists_of_hasLine {d : Document} {line : Int} (h : d.hasLine line = true) :
    ∃ n : Nat, line = n ∧ n < d.length := by
  simp only [hasLine, Bool.and_eq_true, decide_eq_true_eq] at h
  exact ⟨line.toNat, by omega, by omega⟩

theorem not_lt_of_not_hasLine {d : Document} {line : Int} (h : ¬ d.hasLine line = true) {n : Nat}
    (hn : line = n) : ¬ n < d.length := by
  intro hlt
  apply h
  rw [hn, hasLine_natCast, decide_eq_true hlt]

theorem drop_eq_lineText_cons {d : Document} {n : Nat} (hn : n < d.length) :
    d.drop n = d.lineText n :: d.drop (n + 1) := by
  rw [List.drop_eq_getElem_cons hn, lineText_of_lt hn]

theorem downFrom_natCast {d : Document} {n : Nat} (hn : n < d.length) :
    d.downFrom n = d.lineText n :: d.drop (n + 1) := by
  rw [downFrom, hasLine_natCast, decide_eq_true hn, if_pos rfl, Int.toNat_natCast,
    drop_eq_lineText_cons hn]

theorem upFrom_pred {d : Document} {n : Nat} (hn : n ≤ d.length) :
    d.upFrom ((n : Int) - 1) = (d.take n).reverse := by
  cases n with
  | zero => rfl
  | succ n =>
    rw [show ((n + 1 : Nat) : Int) - 1 = n by omega, upFrom, hasLine_natCast,
      decide_eq_true (show n < d.length by omega), if_pos rfl, Int.toNat_natCast]

theorem upFrom_natCast {d : Document} {n : Nat} (hn : n < d.length) :
    d.upFrom n = (d.take (n + 1)).reverse := by
  rw [← upFrom_pred (show n + 1 ≤ d.length by omega), Int.natCast_add_one, Int.add_sub_cancel]

theorem reverse_take_succ {d : Document} {n : Nat} (hn : n < d.length) :
    (d.take (n + 1)).reverse = d.lineText n :: (d.take n).reverse := by
  rw [List.take_succ_eq_append_getElem hn, List.reverse_append, lineText_of_lt hn]
  rfl

theorem length_reverse_take {d : Document} {n : Nat} (hn : n ≤ d.length) :
    (d.take n).reverse.length = n := by
  rw [List.length_reverse, List.length_take, Nat.min_eq_left hn]

theorem lf_not_mem_of_mem_ofText {s line : Text} (h : line ∈ ofText s) : Text.lf ∉ line := by
  obtain ⟨piece, hpiece, rfl⟩ := List.mem_map.1 h
  exact fun hlf => Text.not_mem_of_mem_splitOnByte hpiece (Text.mem_of_mem_trimEndOf hlf)

end DocScribe.Document
