import DocScribe.Buffer.Insert
import DocScribe.Documentation.Comment
import DocScribe.Proofs.Source.Comment

/-!
# The lines of a formatted comment

A formatted comment is one `docLine` per piece, each ended by a line feed. At a blank indentation
every such line holds a comment and nothing else, whatever the generator wrote, and splitting the
comment into lines again gives exactly these lines (`commentLines_formatComment`).
-/

namespace DocScribe.Documentation

open Source Text

/-- The doc comment line of a piece, without its end. -/
def docLine (indent piece : Text) : Text :=
  indent ++ slash :: slash :: slash :: (if piece.isEmpty then [] else 0x20 :: piece)

theorem pieceLine_eq (indent piece : Text) :
    pieceLine indent piece = docLine indent piece ++ [lf] := by
  rw [pieceLine, docLine]
  split
  · rw [List.append_assoc]
    rfl
  · rw [List.append_assoc, List.append_assoc, List.append_assoc]
    rfl

/-- The lines of a comment at an indentation. -/
def docLines (indent s : Text) : List Text :=
  (commentPieces s).map (docLine indent)

theorem formatComment_eq_terminate (indent s : Text) :
    formatComment indent s = terminate [lf] (docLines indent s) := by
  rw [formatComment, terminate, docLines, List.flatMap_map]
  exact List.flatMap_congr fun piece _ => pieceLine_eq indent piece

theorem mem_of_mem_dropWhile {p : Text → Bool} {pieces : List Text} {piece : Text}
    (h : piece ∈ pieces.dropWhile p) : piece ∈ pieces :=
  (List.dropWhile_suffix p).mem h

/-- A piece fits on one line: it holds no line feed and does not end in a carriage return. -/
theorem piece_fits {s piece : Text} (h : piece ∈ commentPieces s) :
    lf ∉ piece ∧ piece.getLast? ≠ some cr := by
  have hpiece : ∃ part, piece ∈ partPieces part := by
    have hmem := mem_of_mem_dropWhile (List.mem_reverse.1 (mem_of_mem_dropWhile
      (List.mem_reverse.1 h)))
    obtain ⟨part, -, hpart⟩ := List.mem_flatMap.1 hmem
    exact ⟨part, hpart⟩
  obtain ⟨part, hpart⟩ := hpiece
  simp only [partPieces] at hpart
  split at hpart
  · rw [List.mem_singleton.1 hpart]
    simp
  · obtain ⟨line, hline, rfl⟩ := List.mem_map.1 hpart
    exact ⟨fun hlf => not_mem_of_mem_splitOnByte hline (mem_of_mem_trim hlf),
      getLast?_trimEnd_ne_cr _⟩

section Lines

variable {indent : Text}

theorem isCommentOnly_docLine (hindent : indent.isBlank = true) (piece : Text) :
    isCommentOnly (docLine indent piece) = true :=
  isCommentOnly_blank_append hindent _

theorem lf_not_mem_docLine (hlf : lf ∉ indent) {piece : Text} (hpiece : lf ∉ piece) :
    lf ∉ docLine indent piece := by
  intro h
  rcases List.mem_append.1 h with hin | hin
  · exact hlf hin
  · have hslash : lf ≠ slash := by decide
    have hspace : lf ≠ 0x20 := by decide
    split at hin
    · simp [hslash] at hin
    · simp only [List.mem_cons, hslash, hspace, false_or] at hin
      exact hpiece hin

theorem getLast?_docLine_ne_cr {piece : Text} (hpiece : piece.getLast? ≠ some cr) :
    (docLine indent piece).getLast? ≠ some cr := by
  rw [docLine, List.getLast?_append_of_ne_nil _ (List.cons_ne_nil _ _), List.getLast?_cons_cons,
    List.getLast?_cons_cons]
  cases piece with
  | nil => decide
  | cons b piece => simpa using hpiece

variable (hlf : lf ∉ indent)
include hlf

theorem lf_not_mem_of_mem_docLines {s line : Text} (h : line ∈ docLines indent s) : lf ∉ line := by
  obtain ⟨piece, hpiece, rfl⟩ := List.mem_map.1 h
  exact lf_not_mem_docLine hlf (piece_fits hpiece).1

/-- A formatted comment has no CR LF, so its line feeds end its lines. -/
theorem not_crlf_infix_formatComment (s : Text) : ¬ [cr, lf] <:+: formatComment indent s := by
  rw [formatComment_eq_terminate, crlf_infix_iff,
    splitOnByte_terminate fun line hline => lf_not_mem_of_mem_docLines hlf hline,
    List.dropLast_concat]
  rintro ⟨line, hline, hcr⟩
  obtain ⟨piece, hpiece, rfl⟩ := List.mem_map.1 hline
  exact getLast?_docLine_ne_cr (piece_fits hpiece).2 hcr

/-- Splitting a formatted comment gives the lines it was made of. -/
theorem commentLines_formatComment (s : Text) :
    Buffer.commentLines (formatComment indent s) = docLines indent s := by
  rw [Buffer.commentLines, replaceAll_of_absent _ (not_crlf_infix_formatComment hlf s),
    formatComment_eq_terminate]
  by_cases hne : docLines indent s = []
  · rw [hne]
    rfl
  · rw [terminate_eq_join_append [lf] hne, trimEndOf_append]
    have hjoin : join [lf] (docLines indent s) ≠ [] := by
      intro hnil
      have hsplit := splitOnByte_join hne fun line hline => lf_not_mem_of_mem_docLines hlf hline
      rw [hnil, splitOnByte] at hsplit
      have hmem : [] ∈ docLines indent s := hsplit ▸ List.mem_cons_self
      obtain ⟨piece, -, hpiece⟩ := List.mem_map.1 hmem
      simp [docLine] at hpiece
    rw [if_neg (by simpa using hjoin),
      splitOnByte_join hne fun line hline => lf_not_mem_of_mem_docLines hlf hline]

end Lines

theorem formatComment_eq_nil_iff {indent s : Text} :
    formatComment indent s = [] ↔ docLines indent s = [] := by
  rw [formatComment_eq_terminate]
  constructor
  · intro h
    by_contra hne
    rw [terminate_eq_join_append [lf] hne] at h
    simp at h
  · intro h
    rw [h]
    rfl

end DocScribe.Documentation
