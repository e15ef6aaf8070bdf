import DocScribe.Proofs.Documentation.Placement

/-!
# Documenting a construct again

A splice changes comment lines above a declaration only, so without a scan limit the declaration
keeps its target, moved with its line (`Splice.target_after`), and its prompt. The lines just placed
are the ones that a second attempt replaces (`Splice.commentsAbove_after`), so the same answer
leaves the buffer as it is: `document_again`.
-/

namespace DocScribe.Documentation

open Scan Source Text

theorem filter_hasCode_append {front comments : List Text}
    (h : ∀ line ∈ comments, isCommentOnly line = true) :
    (front ++ comments).filter hasCode = front.filter hasCode := by
  have hnone : comments.filter hasCode = [] := by
    refine List.filter_eq_nil_iff.2 fun line hline => ?_
    rw [hasCode_of_isCommentOnly (h line hline)]
    exact Bool.false_ne_true
  rw [List.filter_append, hnone, List.append_nil]

namespace Splice

variable {language : TemplateLanguage} {d : Documenter} {generate : Generator} {b after : Buffer}
  {placed : Placed} (splice : Splice language d generate b placed after)

/-- The line that the declaration is on afterwards. -/
def lineAfter : Nat :=
  splice.front.length + splice.added.length

theorem take_after : after.lines.take splice.lineAfter = splice.front ++ splice.added := by
  rw [splice.lines_after, lineAfter, ← List.length_append, List.take_left]

theorem take_front :
    after.lines.take (splice.lineAfter - splice.added.length) = splice.front := by
  rw [splice.lines_after, lineAfter, Nat.add_sub_cancel, List.append_assoc, List.take_left]

theorem drop_after : after.lines.drop splice.lineAfter = b.lines.drop splice.line := by
  rw [splice.lines_after, lineAfter, ← List.length_append, List.drop_left]

/-- The code above the declaration stays. -/
theorem code_above : (after.lines.take splice.lineAfter).filter hasCode =
    (b.lines.take splice.line).filter hasCode := by
  rw [splice.take_after, splice.above, filter_hasCode_append splice.isCommentOnly_of_mem_added,
    filter_hasCode_append splice.comments]

/-- The lines just placed are the ones that a second attempt replaces. -/
theorem commentsAbove_after :
    Buffer.commentsAbove after.lines splice.lineAfter = splice.added.length := by
  rw [splice.lines_after]
  exact Buffer.commentsAbove_append splice.isCommentOnly_of_mem_added splice.stops

/-- How far the declaration moved. -/
def shift : Int :=
  (splice.lineAfter : Int) - splice.line

/-- Without a limit the declaration keeps its target, moved with its line. -/
theorem target_after (off : d.limit.lines ≤ 0) :
    IsTarget after.lines d.limit splice.lineAfter (placed.target.moved splice.shift) :=
  splice.target.moved off splice.drop_after splice.code_above

/-- The construct covers the text that it covered before. -/
theorem textIn_after :
    after.textIn (placed.target.extent.moved splice.shift) = b.textIn placed.target.extent := by
  have hlt := splice.target.lt_length
  have hlt' := Document.lt_length_of_drop_eq hlt splice.drop_after
  refine Buffer.textIn_moved (Nat.le_of_lt hlt) (Nat.le_of_lt hlt') ?_ splice.drop_after
  rw [splice.target.anchor]

/-- The prompt for the construct stays. -/
theorem promptData_after :
    d.promptData after (placed.target.moved splice.shift) = d.promptData b placed.target := by
  simp only [Documenter.promptData, Target.moved, splice.textIn_after]

/-- Placing the same text again replaces it by itself. -/
theorem place_after (off : d.limit.lines ≤ 0) (free : b.SingleLines) :
    Documenter.place after (placed.target.moved splice.shift) placed.prompt splice.text =
      .ok ({ placed with
          target := placed.target.moved splice.shift, removed := splice.added.length }, after) := by
  have hlines : Buffer.commentLines placed.comment = splice.added := by
    rw [splice.comment, commentLines_formatComment (lf_not_mem_indent free splice.target), added]
  have hindent : (placed.target.moved splice.shift).indent = placed.target.indent := rfl
  refine (Documenter.place_eq_ok_iff (splice.target_after off)).2 ⟨?_, ?_, ?_⟩
  · exact fun hnil => splice.docLines_ne_nil (formatComment_eq_nil_iff.1 hnil)
  · rw [hindent, ← splice.comment, splice.commentsAbove_after, lineAfter, Int.natCast_add,
      Int.add_sub_cancel, ← splice.insertedAt]
  · rw [hindent, ← splice.comment, hlines, splice.commentsAbove_after, splice.take_front,
      splice.drop_after, ← splice.lines_after]

end Splice

/-- **Documenting is stable**: whatever the language of the templates is, without a scan limit an
attempt at the moved declaration finds the same construct and asks the same prompt, and the same
answer puts the same comment in its own place and leaves the buffer as it is. -/
theorem document_again {language : TemplateLanguage} {d : Documenter}
    {generate second : Generator} {source : Text} {cursor : Position} {placed : Placed}
    (off : d.limit.lines ≤ 0)
    (h : (d.document (some generate) (.ofText source) cursor language).outcome = .ok placed)
    (same : (second placed.prompt).outcome = (generate placed.prompt).outcome) (column : Int) :
    let after := (d.document (some generate) (.ofText source) cursor language).buffer
    let count := placed.comment.countByte lf
    let target := placed.target.moved (count - placed.removed)
    let again : Position := ⟨placed.insertedAt + count, column⟩
    current after.lines d.limit again = .ok target ∧
      after.textIn target.extent = (Buffer.ofText source).textIn placed.target.extent ∧
      (d.document (some second) after again language).outcome =
        .ok { placed with target := target, removed := count } ∧
      (d.document (some second) after again language).buffer = after := by
  have free := Buffer.singleLines_ofText source
  obtain ⟨splice⟩ := nonempty_splice free h
  intro after count target again
  have hcount : count = splice.added.length := by
    simp only [count]
    rw [splice.comment_eq, countByte_terminate (splice.free_added free)]
  have hagain : again = ⟨splice.lineAfter, column⟩ := by
    simp only [again, hcount, splice.insertedAt, Splice.lineAfter, Int.natCast_add]
  have htarget : target = placed.target.moved splice.shift := by
    have hshift : (count : Int) - placed.removed = splice.shift := by
      rw [hcount, splice.removed, Splice.shift, Splice.lineAfter, splice.line_eq]
      omega
    simp only [target, hshift]
  have hcurrent : current after.lines d.limit again = .ok target := by
    rw [hagain, htarget]
    exact (splice.target_after off).current_eq column
  refine ⟨hcurrent, ?_, Documenter.document_eq_ok_iff.2 ⟨target, placed.prompt, splice.text,
    Documenter.prompt_eq_ok_iff.2 ⟨hcurrent, ?_⟩, same.trans splice.reply, ?_⟩⟩
  · rw [htarget]
    exact splice.textIn_after
  · rw [htarget, splice.promptData_after]
    exact splice.rendered
  · rw [htarget, hcount]
    exact splice.place_after off free

theorem commentedMethod_document_again :
    terse.limit.lines ≤ 0 ∧
    (terse.document (some overreaching) (.ofText commentedMethod) ⟨3, 0⟩).outcome =
      .ok methodPlaced ∧
    let after := (terse.document (some overreaching) (.ofText commentedMethod) ⟨3, 0⟩).buffer
    let target := methodPlaced.target.moved ((methodPlaced.comment.countByte lf : Int) - 2)
    let again : Position := ⟨1 + (methodPlaced.comment.countByte lf : Int), 7⟩
    current after.lines ⟨0⟩ again = .ok target ∧
      after.textIn target.extent =
        (Buffer.ofText commentedMethod).textIn methodPlaced.target.extent ∧
      (terse.document (some overreaching) after again).outcome =
        .ok { methodPlaced with
          target := target, removed := methodPlaced.comment.countByte lf } ∧
      (terse.document (some overreaching) after again).buffer = after := by
  have off : terse.limit.lines ≤ 0 := by decide
  exact ⟨off, outcome_commentedMethod, document_again off outcome_commentedMethod rfl 7⟩

end DocScribe.Documentation
