import DocScribe.Buffer.Insert
import DocScribe.Proofs.Scan.Relocation
import Mathlib.Data.List.TakeWhile

/-!
# Lines above a declaration, and the text of a moved one

The comment lines that an insertion replaces are the longest run right above the declaration
(`exists_comments_above`); a run that is put in their place is the one a second insertion replaces
(`commentsAbove_append`). A range that moves with its lines covers the same text.
-/

namespace DocScribe.Buffer

open Source

/-- The lines above line `n` end in the comment lines that an insertion replaces, and the line
before these is no comment line. -/
theorem exists_comments_above (lines : Document) (n : Nat) :
    ∃ front comments, lines.take n = front ++ comments ∧
      comments.length = commentsAbove lines n ∧ (∀ line ∈ comments, isCommentOnly line = true) ∧
      ∀ line, front.getLast? = some line → isCommentOnly line = false := by
  refine ⟨((lines.take n).reverse.dropWhile isCommentOnly).reverse,
    ((lines.take n).reverse.takeWhile isCommentOnly).reverse, ?_, ?_, ?_, ?_⟩
  · rw [← List.reverse_append, List.takeWhile_append_dropWhile, List.reverse_reverse]
  · rw [List.length_reverse, commentsAbove]
  · intro line hline
    exact List.mem_takeWhile_imp (List.mem_reverse.1 hline)
  · intro line hline
    have hhead := List.head?_dropWhile_not isCommentOnly (lines.take n).reverse
    rw [List.getLast?_reverse] at hline
    rwa [hline] at hhead

/-- A run of comment lines below a line that is none is what an insertion replaces. -/
theorem commentsAbove_append {front comments rest : Document}
    (hcomments : ∀ line ∈ comments, isCommentOnly line = true)
    (hfront : ∀ line, front.getLast? = some line → isCommentOnly line = false) :
    commentsAbove (front ++ comments ++ rest) (front.length + comments.length) =
      comments.length := by
  have hstop : front.reverse.takeWhile isCommentOnly = [] := by
    cases hrev : front.reverse with
    | nil => rfl
    | cons line above =>
      have hlast : front.getLast? = some line := by
        rw [← List.head?_reverse, hrev, List.head?_cons]
      rw [List.takeWhile_cons_of_neg (by simp [hfront line hlast])]
  rw [commentsAbove, ← List.length_append, List.take_left, List.reverse_append,
    List.takeWhile_append_of_pos fun line hline => hcomments line (List.mem_reverse.1 hline),
    hstop, List.append_nil, List.length_reverse]

/-! Ranges that move with their lines. -/

section Moved

variable (range : Range) {k : Int} {n n' : Nat}

theorem lineInRange_moved (hn : (n' : Int) = n + k) (line : Text) :
    lineInRange (range.moved k) n' line = lineInRange range n line := by
  have hfirst : ((n' : Int) == (range.moved k).anchor.line) = ((n : Int) == range.anchor.line) := by
    rw [Range.moved_anchor_line, Bool.eq_iff_iff, beq_iff_eq, beq_iff_eq]
    omega
  have hlast : ((n' : Int) == (range.moved k).last.line) = ((n : Int) == range.last.line) := by
    rw [Range.moved_last_line, Bool.eq_iff_iff, beq_iff_eq, beq_iff_eq]
    omega
  simp only [lineInRange, hfirst, hlast]
  rfl

theorem linesInRange_moved (hn : (n' : Int) = n + k) (lines : List Text) :
    linesInRange (range.moved k) n' lines = linesInRange range n lines := by
  induction lines generalizing n n' with
  | nil => rfl
  | cons line lines ih =>
    have hrest := ih (show ((n' + 1 : Nat) : Int) = (n + 1 : Nat) + k by omega)
    have hcond : (decide ((range.moved k).anchor.line ≤ n') && decide ((n' : Int) ≤
        (range.moved k).last.line)) =
        (decide (range.anchor.line ≤ n) && decide ((n : Int) ≤ range.last.line)) := by
      rw [Range.moved_anchor_line, Range.moved_last_line, Bool.eq_iff_iff]
      simp only [Bool.and_eq_true, decide_eq_true_eq]
      omega
    rw [linesInRange, linesInRange, hrest, hcond, lineInRange_moved range hn]

/-- The lines before a range are not covered by it. -/
theorem linesInRange_append (front back : List Text)
    (hfront : ((n + front.length : Nat) : Int) ≤ range.anchor.line) :
    linesInRange range n (front ++ back) = linesInRange range (n + front.length) back := by
  induction front generalizing n with
  | nil => rfl
  | cons line front ih =>
    rw [List.length_cons] at hfront ⊢
    have hcond :
        ¬ (decide (range.anchor.line ≤ n) && decide ((n : Int) ≤ range.last.line)) = true := by
      simp only [Bool.and_eq_true, decide_eq_true_eq]
      omega
    rw [List.cons_append, linesInRange, if_neg hcond, ih (by omega),
      show n + 1 + front.length = n + (front.length + 1) by omega]

end Moved

/-- A range that moves with its lines covers the same text. -/
theorem textIn_moved {b b' : Buffer} {n n' : Nat} {range : Range} (hn : n ≤ b.lines.length)
    (hn' : n' ≤ b'.lines.length) (hanchor : range.anchor.line = n)
    (hdrop : b'.lines.drop n' = b.lines.drop n) :
    b'.textIn (range.moved ((n' : Int) - n)) = b.textIn range := by
  have hfront : ((0 + (b.lines.take n).length : Nat) : Int) ≤ range.anchor.line := by
    rw [List.length_take, hanchor]
    omega
  have hfront' : ((0 + (b'.lines.take n').length : Nat) : Int) ≤
      (range.moved ((n' : Int) - n)).anchor.line := by
    rw [List.length_take, Range.moved_anchor_line, hanchor]
    omega
  rw [textIn, textIn, ← List.take_append_drop n' b'.lines, linesInRange_append _ _ _ hfront', hdrop]
  conv => rhs; rw [← List.take_append_drop n b.lines, linesInRange_append _ _ _ hfront]
  rw [linesInRange_moved range]
  rw [List.length_take, List.length_take]
  omega

end DocScribe.Buffer
