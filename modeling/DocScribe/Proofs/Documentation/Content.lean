import DocScribe.Proofs.Documentation.Comment
import DocScribe.Proofs.Text.Ink
import Mathlib.Data.List.TakeWhile

/-!
# What a formatted comment says

A formatted comment is a list of lines that are bare markers or hold a trimmed piece of the text
(`ArePieces`). The content of a text is its ink outside the `///` markers; the pieces have it all,
in its order (`flatMap_ink_commentPieces`), since each step of the formatting, from the line ends
over the cuts at markers and line feeds to the trimming, takes away white space or markers only. So
the comment is empty iff the text has no content: `exists_wellFormatted`.
-/

namespace DocScribe.Documentation

open Source Text

/-- The mark of a doc comment. -/
abbrev marker : Text := "///"

theorem marker_eq : marker = [slash, slash, slash] := by
  decide

theorem marker_ne_nil : marker ≠ [] := by
  decide

/-! The content of a text. -/

/-- The text after its first `skip` bytes, without white space and `///` markers. -/
def contentAfter : (skip : Nat) → Text → Text
  | _, [] => []
  | skip + 1, _ :: s => contentAfter skip s
  | 0, b :: s =>
    if startsWith (b :: s) marker then contentAfter 2 s
    else
      match blankWidth (b :: s) with
      | 0 => b :: contentAfter 0 s
      | w + 1 => contentAfter w s

/-- What is left of a text without its leftmost `///` markers and its white space. -/
def content (s : Text) : Text :=
  contentAfter 0 s

theorem contentAfter_eq_drop (skip : Nat) (s : Text) :
    contentAfter skip s = content (s.drop skip) :=
  eq_drop_of_skips (fun skip => by cases skip <;> rfl) (fun _ _ _ => rfl) skip s

theorem content_marker_append (s : Text) : content (marker ++ s) = content s :=
  rfl

section Step

variable {b : UInt8} {s : Text} (hstart : ¬ startsWith (b :: s) marker = true)
include hstart

theorem content_cons (h : blankWidth (b :: s) = 0) : content (b :: s) = b :: content s := by
  simp only [content, contentAfter, if_neg hstart, h]

theorem content_cons_blank {w : Nat} (h : blankWidth (b :: s) = w + 1) :
    content (b :: s) = content (s.drop w) := by
  rw [← contentAfter_eq_drop]
  simp only [content, contentAfter, if_neg hstart, h]

end Step

/-- Without markers the content of a text is its ink. -/
theorem content_of_unmarked {s : Text} (h : ¬ marker <:+: s) : content s = ink s := by
  induction s using blankInduction with
  | nil => rfl
  | ink b s hwidth ih =>
    rw [List.infix_cons_iff, ← startsWith_iff, not_or] at h
    rw [content_cons h.1 hwidth, ih h.2, ink_cons hwidth]
  | blank b s w hwidth ih =>
    rw [List.infix_cons_iff, ← startsWith_iff, not_or] at h
    rw [content_cons_blank h.1 hwidth, ih fun hin => h.2 (hin.trans (s.drop_suffix w).isInfix),
      ink_cons_blank hwidth]

/-- Where no marker starts, the content of a text is its ink, and what follows adds its own. -/
theorem content_append_of_unmarked {b : UInt8} (hb : isContinuation b = false) {s t : Text}
    (hno : ∀ back, back <:+ s → back ≠ [] → ¬ marker <+: back ++ b :: t) :
    content (s ++ b :: t) = ink s ++ content (b :: t) := by
  induction s using blankInduction with
  | nil => rfl
  | ink c s hwidth ih =>
    have hread := blankWidth_append (List.cons_ne_nil c s) hb t
    rw [hwidth, List.cons_append] at hread
    have hstart := mt startsWith_iff.1 (hno (c :: s) (List.suffix_refl _) (List.cons_ne_nil c s))
    rw [List.cons_append] at hstart
    rw [List.cons_append, content_cons hstart hread, ink_cons hwidth, List.cons_append,
      ih fun back hback => hno back (hback.trans (List.suffix_cons c s))]
  | blank c s w hwidth ih =>
    have hread := blankWidth_append (List.cons_ne_nil c s) hb t
    rw [hwidth, List.cons_append] at hread
    have hstart := mt startsWith_iff.1 (hno (c :: s) (List.suffix_refl _) (List.cons_ne_nil c s))
    rw [List.cons_append] at hstart
    have hdrop : s.drop w <:+ c :: s := (s.drop_suffix w).trans (List.suffix_cons c s)
    rw [List.cons_append, content_cons_blank hstart hread, ink_cons_blank hwidth,
      List.drop_append_of_le_length (le_length_of_blankWidth hwidth),
      ih fun back hback => hno back (hback.trans hdrop)]

theorem content_of_first {piece : Text} (first : BeforeFirst marker piece) (rest : Text) :
    content (piece ++ marker ++ rest) = ink piece ++ content rest := by
  rw [List.append_assoc, ← content_marker_append rest]
  refine content_append_of_unmarked (by decide) ?_
  rintro back ⟨front, rfl⟩ hback hstart
  obtain ⟨c, back, rfl⟩ := List.exists_cons_of_ne_nil hback
  refine (first.of_append marker_ne_nil).not_startsWith rest (startsWith_iff.2 ?_)
  rwa [List.append_assoc]

/-- The content of a text is the ink between its markers. -/
theorem content_eq_flatMap (s : Text) : content s = (splitOn marker s).flatMap ink := by
  induction s using splitInduction marker_ne_nil with
  | absent s h => rw [splitOn_of_absent h, List.flatMap_singleton, content_of_unmarked h]
  | cut piece rest first ih =>
    rw [splitOn_of_first marker_ne_nil first, List.flatMap_cons, ← ih, content_of_first first]

/-- A text may be cut before a byte that is part of no marker and no other character. -/
theorem content_append {b : UInt8} (hb : isContinuation b = false) (hslash : b ≠ slash)
    (s t : Text) : content (s ++ b :: t) = content s ++ content (b :: t) := by
  induction s using splitInduction marker_ne_nil with
  | absent s h =>
    have hmem : b ∉ marker := by simpa [marker_eq] using hslash
    rw [content_of_unmarked h]
    refine content_append_of_unmarked hb fun back hback _ hstart => h ?_
    exact (isPrefix_of_append_cons hmem hstart).isInfix.trans hback.isInfix
  | cut piece rest first ih =>
    rw [List.append_assoc, content_of_first first, ih, content_of_first first, List.append_assoc]

theorem content_append_lf (s t : Text) : content (s ++ [lf] ++ t) = content s ++ content t := by
  rw [List.append_assoc]
  exact content_append (by decide) (by decide) s t

/-- How lines end does not matter to the content. -/
theorem content_replaceAll_crlf (s : Text) : content (replaceAll [cr, lf] [lf] s) = content s := by
  refine replaceAll_crlf_invariant content_append_lf (fun line => ?_) s
  rw [content_append (by decide) (by decide)]
  exact List.append_nil _

/-! The pieces of a text. -/

/-- The pieces of a text with the empty ones at both ends. -/
def rawPieces (s : Text) : List Text :=
  (splitOn marker (replaceAll [cr, lf] [lf] s)).flatMap partPieces

/-- The pieces without the empty ones at both ends. -/
def dropEmptyEnds (pieces : List Text) : List Text :=
  ((pieces.dropWhile List.isEmpty).reverse.dropWhile List.isEmpty).reverse

theorem commentPieces_eq (s : Text) : commentPieces s = dropEmptyEnds (rawPieces s) :=
  rfl

theorem exists_dropEmptyEnds_append (pieces : List Text) :
    ∃ after, pieces.dropWhile List.isEmpty = dropEmptyEnds pieces ++ after ∧
      ∀ p ∈ after, p.isEmpty = true := by
  refine ⟨((pieces.dropWhile List.isEmpty).reverse.takeWhile List.isEmpty).reverse, ?_, ?_⟩
  · rw [dropEmptyEnds, ← List.reverse_append, List.takeWhile_append_dropWhile,
      List.reverse_reverse]
  · exact fun p hp => List.mem_takeWhile_imp (List.mem_reverse.1 hp)

theorem head?_dropEmptyEnds (pieces : List Text) : (dropEmptyEnds pieces).head? ≠ some [] := by
  intro h
  obtain ⟨rest, hrest⟩ := List.head?_eq_some_iff.1 h
  obtain ⟨after, hafter, -⟩ := exists_dropEmptyEnds_append pieces
  have hhead := List.head?_dropWhile_not List.isEmpty pieces
  rw [hafter, hrest] at hhead
  exact absurd hhead (by simp)

theorem getLast?_dropEmptyEnds (pieces : List Text) :
    (dropEmptyEnds pieces).getLast? ≠ some [] := by
  intro h
  rw [dropEmptyEnds, List.getLast?_reverse] at h
  have hhead := List.head?_dropWhile_not List.isEmpty (pieces.dropWhile List.isEmpty).reverse
  rw [h] at hhead
  exact absurd hhead (by simp)

theorem flatMap_ink_of_isEmpty {pieces : List Text} (h : ∀ p ∈ pieces, p.isEmpty = true) :
    pieces.flatMap ink = [] := by
  refine List.flatMap_eq_nil_iff.2 fun p hp => ?_
  rw [List.isEmpty_iff.1 (h p hp)]
  rfl

theorem flatMap_ink_dropEmptyEnds (pieces : List Text) :
    (dropEmptyEnds pieces).flatMap ink = pieces.flatMap ink := by
  obtain ⟨after, hafter, hempty⟩ := exists_dropEmptyEnds_append pieces
  have hfront : (pieces.takeWhile List.isEmpty).flatMap ink = [] :=
    flatMap_ink_of_isEmpty fun p hp => List.mem_takeWhile_imp hp
  calc (dropEmptyEnds pieces).flatMap ink
      = (dropEmptyEnds pieces ++ after).flatMap ink := by
        rw [List.flatMap_append, flatMap_ink_of_isEmpty hempty, List.append_nil]
    _ = (pieces.dropWhile List.isEmpty).flatMap ink := by rw [hafter]
    _ = (pieces.takeWhile List.isEmpty ++ pieces.dropWhile List.isEmpty).flatMap ink := by
        rw [List.flatMap_append, hfront, List.nil_append]
    _ = pieces.flatMap ink := by rw [List.takeWhile_append_dropWhile]

/-- The pieces of a part have its ink. -/
theorem flatMap_ink_partPieces (part : Text) : (partPieces part).flatMap ink = ink part := by
  rw [← ink_trim part]
  simp only [partPieces]
  split
  · next h => rw [List.isEmpty_iff.1 h]; rfl
  · rw [List.flatMap_map, List.flatMap_congr fun line _ => ink_trim line, flatMap_ink_splitOnByte]

/-- The pieces of a text have its content, in its order. -/
theorem flatMap_ink_commentPieces (s : Text) : (commentPieces s).flatMap ink = content s := by
  rw [commentPieces_eq, flatMap_ink_dropEmptyEnds, rawPieces, List.flatMap_assoc,
    List.flatMap_congr fun part _ => flatMap_ink_partPieces part, ← content_eq_flatMap,
    content_replaceAll_crlf]

/-- A trimmed line of text without a marker, empty for a bare marker. -/
structure IsPiece (piece : Text) : Prop where
  single : lf ∉ piece
  unmarked : ¬ marker <:+: piece
  trimmed : piece.trim = piece

theorem isPiece_nil : IsPiece [] :=
  ⟨List.not_mem_nil, by simp [marker_ne_nil], rfl⟩

/-- What the pieces of a comment are: the first and the last are not empty. -/
structure ArePieces (pieces : List Text) : Prop where
  piece : ∀ p ∈ pieces, IsPiece p
  first : pieces.head? ≠ some []
  last : pieces.getLast? ≠ some []

theorem trim_isInfix (s : Text) : s.trim <:+: s :=
  (trimEnd_isPrefix s.trimStart).isInfix.trans s.trimStart_suffix.isInfix

theorem isPiece_of_mem_partPieces {part : Text} (unmarked : ¬ marker <:+: part) {piece : Text}
    (h : piece ∈ partPieces part) : IsPiece piece := by
  simp only [partPieces] at h
  split at h
  · rw [List.mem_singleton.1 h]
    exact isPiece_nil
  · obtain ⟨line, hline, rfl⟩ := List.mem_map.1 h
    refine ⟨fun hlf => not_mem_of_mem_splitOnByte hline (mem_of_mem_trim hlf), fun hin => ?_,
      trim_trim line⟩
    rw [← splitOn_singleton] at hline
    have hpart : line <:+: part.trim := isInfix_of_mem_splitOn (List.cons_ne_nil lf []) hline
    exact unmarked (((hin.trans (trim_isInfix line)).trans hpart).trans (trim_isInfix part))

theorem arePieces_commentPieces (s : Text) : ArePieces (commentPieces s) where
  piece p hp := by
    have hraw : p ∈ rawPieces s :=
      mem_of_mem_dropWhile (List.mem_reverse.1 (mem_of_mem_dropWhile (List.mem_reverse.1 hp)))
    obtain ⟨part, hpart, hp⟩ := List.mem_flatMap.1 hraw
    exact isPiece_of_mem_partPieces (not_infix_of_mem_splitOn marker_ne_nil hpart) hp
  first := head?_dropEmptyEnds (rawPieces s)
  last := getLast?_dropEmptyEnds (rawPieces s)

/-- Without content there is no comment, since the first piece of one is not empty. -/
theorem formatComment_eq_nil_iff_content {indent s : Text} :
    formatComment indent s = [] ↔ content s = [] := by
  rw [formatComment_eq_nil_iff, docLines, List.map_eq_nil_iff, ← flatMap_ink_commentPieces]
  constructor
  · intro h
    rw [h]
    rfl
  · intro h
    have pieces := arePieces_commentPieces s
    have hempty : ∀ p ∈ commentPieces s, p = [] := by
      intro p hp
      rw [← (pieces.piece p hp).trimmed]
      exact trim_eq_nil_iff.2 (List.flatMap_eq_nil_iff.1 h p hp)
    refine List.eq_nil_iff_forall_not_mem.2 fun p hp => ?_
    obtain ⟨first, rest, hcons⟩ := List.exists_cons_of_ne_nil (List.ne_nil_of_mem hp)
    refine pieces.first ?_
    rw [hcons, List.head?_cons, hempty first (hcons ▸ List.mem_cons_self)]

/-- What the comment of a text is: one line for each piece, a bare marker for an empty one, and none
that holds code. The ink of the pieces is the content of the text: nothing of it is lost, said twice
or moved. -/
structure WellFormatted (indent s : Text) (pieces : List Text) : Prop where
  comment : formatComment indent s = terminate [lf] (pieces.map (docLine indent))
  arePieces : ArePieces pieces
  form : ∀ p ∈ pieces, (p = [] ∧ docLine indent p = indent ++ "///") ∨
    (p ≠ [] ∧ docLine indent p = indent ++ "/// " ++ p)
  single : ∀ p ∈ pieces, lf ∉ docLine indent p
  noCode : ∀ p ∈ pieces, (stripComments (docLine indent p)).isBlank = true
  complete : pieces.flatMap ink = content s
  empty_iff : formatComment indent s = [] ↔ content s = []

theorem docLine_form (indent p : Text) :
    (p = [] ∧ docLine indent p = indent ++ "///") ∨
      (p ≠ [] ∧ docLine indent p = indent ++ "/// " ++ p) := by
  cases p with
  | nil => exact .inl ⟨rfl, rfl⟩
  | cons b p =>
    refine .inr ⟨List.cons_ne_nil b p, ?_⟩
    rw [docLine, List.append_assoc]
    rfl

theorem isBlank_stripComments_docLine {indent : Text} (hblank : indent.isBlank = true) (p : Text) :
    (stripComments (docLine indent p)).isBlank = true := by
  have hcomment := isCommentOnly_docLine hblank p
  rw [isCommentOnly, Bool.and_eq_true] at hcomment
  exact hcomment.2

/-- **Whatever the generator wrote, its comment is well formed and says all of it.** -/
theorem exists_wellFormatted {indent : Text} (hblank : indent.isBlank = true) (hlf : lf ∉ indent)
    (s : Text) : ∃ pieces, WellFormatted indent s pieces := by
  have arePieces := arePieces_commentPieces s
  exact ⟨commentPieces s, {
    comment := formatComment_eq_terminate indent s
    arePieces := arePieces
    form := fun p _ => docLine_form indent p
    single := fun p hp => lf_not_mem_docLine hlf (arePieces.piece p hp).single
    noCode := fun p _ => isBlank_stripComments_docLine hblank p
    complete := flatMap_ink_commentPieces s
    empty_iff := formatComment_eq_nil_iff_content }⟩

/-- A text with both line ends, a blank line, five slashes in a row and a marker at its end. -/
def rambling : Text :=
  "Sends it.\r\n\r\nOnce.\n/////Waits.\n/// "

theorem rambling_wellFormatted :
    ("\t" : Text).isBlank = true ∧ lf ∉ ("\t" : Text) ∧
      formatComment "\t" rambling = "\t/// Sends it.\n\t///\n\t/// Once.\n\t/// //Waits.\n" ∧
      ∃ pieces, WellFormatted "\t" rambling pieces :=
  ⟨by decide, by decide, by decide, exists_wellFormatted (by decide) (by decide) rambling⟩

end DocScribe.Documentation
