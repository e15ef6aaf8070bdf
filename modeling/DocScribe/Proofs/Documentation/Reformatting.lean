import DocScribe.Proofs.Documentation.Content

/-!
# Formatting a comment again

The formatter reads its own lines back: written at a blank indentation, pieces come back as they
were (`commentPieces_terminate`). What stands between two markers of such a comment is the rest of
one line, its line feed and the next indentation, and that holds the piece of the line and no other
(`Holds`). So the comment at another indentation has the same pieces: `formatComment_again`.
-/

namespace DocScribe.Documentation

open Source Text

/-- What a line has behind its marker. -/
def docTail (piece : Text) : Text :=
  if piece.isEmpty then [] else 0x20 :: piece

/-- The first line of a comment up to its piece, its end, and the other lines. -/
theorem terminate_docLines_cons (indent piece : Text) (pieces : List Text) :
    terminate [lf] ((piece :: pieces).map (docLine indent)) =
      indent ++ marker ++
        (docTail piece ++ lf :: terminate [lf] (pieces.map (docLine indent))) := by
  have hline : docLine indent piece = indent ++ marker ++ docTail piece := by
    rw [List.append_assoc]
    rfl
  rw [List.map_cons, terminate, List.flatMap_cons, hline]
  simp only [List.append_assoc, List.cons_append, List.nil_append]
  rfl

theorem trim_docTail {piece : Text} (h : IsPiece piece) : (docTail piece).trim = piece := by
  cases piece with
  | nil => rfl
  | cons b piece =>
    have hwidth : blankWidth (0x20 :: b :: piece) = 0 + 1 := rfl
    exact (trim_cons_blank hwidth).trans h.trimmed

theorem lf_not_mem_docTail {piece : Text} (h : IsPiece piece) : lf ∉ docTail piece := by
  cases piece with
  | nil => exact List.not_mem_nil
  | cons b piece =>
    have hspace : lf ≠ 0x20 := by decide
    exact fun hmem => (List.mem_cons.1 hmem).elim hspace h.single

theorem unmarked_docTail {piece : Text} (h : IsPiece piece) : ¬ marker <:+: docTail piece := by
  cases piece with
  | nil => simp [docTail, marker_ne_nil]
  | cons b piece =>
    intro hin
    refine (List.infix_cons_iff.1 hin).elim (fun hstart => ?_) h.unmarked
    have hspace : slash ≠ 0x20 := by decide
    rw [marker_eq, List.cons_prefix_cons] at hstart
    exact hspace hstart.1

/-- A piece does not end in a carriage return, and neither does its line. -/
theorem getLast?_docTail_ne_cr {piece : Text} (h : IsPiece piece) :
    (slash :: slash :: slash :: docTail piece).getLast? ≠ some cr := by
  have hpiece : piece.getLast? ≠ some cr := by
    rw [← h.trimmed, trim]
    exact getLast?_trimEnd_ne_cr piece.trimStart
  have hline : (docLine [] piece).getLast? ≠ some cr := getLast?_docLine_ne_cr hpiece
  exact hline

/-- A part that is its piece but for the white space around it has that piece only. -/
theorem partPieces_eq_singleton {part piece : Text} (h : IsPiece piece)
    (htrim : part.trim = piece) : partPieces part = [piece] := by
  simp only [partPieces, htrim]
  split
  · next hempty => rw [List.isEmpty_iff.1 hempty]
  · rw [← splitOn_singleton, splitOn_of_absent (mt (List.singleton_infix_iff lf _).1 h.single),
      List.map_singleton, h.trimmed]

/-- The text holds the piece, whatever white space follows up to the next marker. -/
structure Holds (front piece : Text) : Prop where
  first : ∀ gap : Text, gap.isBlank = true → BeforeFirst marker (front ++ gap)
  trim : ∀ gap : Text, gap.isBlank = true → (front ++ gap).trim = piece
  isPiece : IsPiece piece

theorem slash_not_mem_of_isBlank {gap : Text} (h : gap.isBlank = true) : slash ∉ gap := by
  intro hmem
  exact (isPlain_of_isBlankByte (isBlankByte_of_isBlank h hmem)).1 rfl

/-- White space and two slashes are no marker. -/
theorem beforeFirst_marker_of_isBlank {gap : Text} (h : gap.isBlank = true) :
    BeforeFirst marker gap := by
  intro hin
  rw [dropLast_append_sep marker_ne_nil] at hin
  have hcount := hin.sublist.count_le slash
  rw [List.count_append, List.count_eq_zero.2 (slash_not_mem_of_isBlank h)] at hcount
  exact absurd hcount (by decide)

theorem holds_nil : Holds [] [] where
  first _ h := beforeFirst_marker_of_isBlank h
  trim _ h := trim_eq_nil_iff.2 (isBlank_iff_ink.1 h)
  isPiece := isPiece_nil

/-- The end of a line holds the piece of the line. -/
theorem holds_docTail {piece : Text} (h : IsPiece piece) : Holds (docTail piece ++ [lf]) piece where
  first gap hgap hin := by
    rw [dropLast_append_sep marker_ne_nil, List.append_assoc, List.append_assoc] at hin
    have hlf : lf ∉ marker := by decide
    rcases infix_append_cons marker_ne_nil hlf hin with hin | hin
    · exact unmarked_docTail h hin
    · refine beforeFirst_marker_of_isBlank hgap ?_
      rw [dropLast_append_sep marker_ne_nil]
      exact hin
  trim gap hgap := by
    have hblank : isBlank (lf :: gap) = true := by
      rw [isBlank_cons_of_ascii rfl]
      exact hgap
    rw [List.append_assoc]
    exact (trim_append_blank (by decide) hblank (docTail piece)).trans (trim_docTail h)
  isPiece := h

/-- Each line adds its piece to the one that is held so far. -/
theorem Holds.pieces {indent : Text} (hblank : indent.isBlank = true) {pieces : List Text}
    (hpieces : ∀ p ∈ pieces, IsPiece p) {front piece : Text} (held : Holds front piece) :
    (splitOn marker (front ++ terminate [lf] (pieces.map (docLine indent)))).flatMap partPieces =
      piece :: pieces := by
  induction pieces generalizing front piece with
  | nil =>
    have htrim := held.trim [] rfl
    have habsent := (held.first [] rfl).absent marker_ne_nil
    rw [List.append_nil] at htrim habsent
    rw [List.map_nil, terminate, List.flatMap_nil, List.append_nil, splitOn_of_absent habsent,
      List.flatMap_singleton, partPieces_eq_singleton held.isPiece htrim]
  | cons next pieces ih =>
    obtain ⟨hnext, hrest⟩ := List.forall_mem_cons.1 hpieces
    have hcut : front ++ terminate [lf] ((next :: pieces).map (docLine indent)) =
        front ++ indent ++ marker ++
          (docTail next ++ [lf] ++ terminate [lf] (pieces.map (docLine indent))) := by
      rw [terminate_docLines_cons]
      simp only [List.append_assoc, List.singleton_append]
    rw [hcut, splitOn_of_first marker_ne_nil (held.first indent hblank), List.flatMap_cons,
      partPieces_eq_singleton held.isPiece (held.trim indent hblank),
      ih hrest (holds_docTail hnext), List.singleton_append]

/-- The line feeds of a comment stay as they are: a CR LF of it lies in an indentation. -/
theorem replaceAll_crlf_docLines (indent : Text) {pieces : List Text}
    (hpieces : ∀ p ∈ pieces, IsPiece p) :
    replaceAll [cr, lf] [lf] (terminate [lf] (pieces.map (docLine indent))) =
      terminate [lf] (pieces.map (docLine (replaceAll [cr, lf] [lf] indent))) := by
  induction pieces with
  | nil => rfl
  | cons p pieces ih =>
    obtain ⟨hp, hrest⟩ := List.forall_mem_cons.1 hpieces
    have hslash : slash ∉ [cr, lf] := by decide
    have hmarker : lf ∉ marker := by decide
    have hlf : lf ∉ marker ++ docTail p := fun hmem =>
      (List.mem_append.1 hmem).elim hmarker (lf_not_mem_docTail hp)
    have hline := replaceAll_crlf_append_lf hlf (getLast?_docTail_ne_cr hp)
      (terminate [lf] (pieces.map (docLine indent)))
    rw [ih hrest, List.append_assoc, List.append_assoc] at hline
    rw [terminate_docLines_cons, terminate_docLines_cons, List.append_assoc, List.append_assoc]
    exact (replaceAll_append_cons crlf_ne_nil [lf] hslash indent _).trans (congrArg _ hline)

/-! Nothing is dropped at the ends. -/

theorem dropWhile_isEmpty_eq_self {pieces : List Text} (h : pieces.head? ≠ some []) :
    pieces.dropWhile List.isEmpty = pieces := by
  cases pieces with
  | nil => rfl
  | cons p pieces =>
    refine List.dropWhile_cons_of_neg fun hempty => h ?_
    rw [List.head?_cons, List.isEmpty_iff.1 hempty]

theorem dropEmptyEnds_nil_cons {pieces : List Text} (h : ArePieces pieces) :
    dropEmptyEnds ([] :: pieces) = pieces := by
  have hlast := h.last
  rw [List.getLast?_eq_head?_reverse] at hlast
  rw [dropEmptyEnds, List.dropWhile_cons_of_pos rfl, dropWhile_isEmpty_eq_self h.first,
    dropWhile_isEmpty_eq_self hlast, List.reverse_reverse]

/-- **Pieces written at a blank indentation are read back.** -/
theorem commentPieces_terminate {indent : Text} (hblank : indent.isBlank = true)
    {pieces : List Text} (h : ArePieces pieces) :
    commentPieces (terminate [lf] (pieces.map (docLine indent))) = pieces := by
  have hgap : (replaceAll [cr, lf] [lf] indent).isBlank = true := by
    rw [isBlank_iff_ink, ink_replaceAll_crlf]
    exact isBlank_iff_ink.1 hblank
  have hraw : rawPieces (terminate [lf] (pieces.map (docLine indent))) = [] :: pieces := by
    rw [rawPieces, replaceAll_crlf_docLines indent h.piece]
    exact holds_nil.pieces hgap h.piece
  rw [commentPieces_eq, hraw, dropEmptyEnds_nil_cons h]

theorem commentPieces_formatComment {indent : Text} (hblank : indent.isBlank = true) (s : Text) :
    commentPieces (formatComment indent s) = commentPieces s := by
  rw [formatComment_eq_terminate, docLines]
  exact commentPieces_terminate hblank (arePieces_commentPieces s)

/-- **A formatted comment changes its indentation only** when it is formatted again, and at its own
indentation it stays. -/
theorem formatComment_again {indent : Text} (hblank : indent.isBlank = true) (other s : Text) :
    formatComment other (formatComment indent s) = formatComment other s ∧
      formatComment indent (formatComment indent s) = formatComment indent s ∧
      ∃ pieces : List Text, formatComment indent s = terminate [lf] (pieces.map (docLine indent)) ∧
        formatComment other (formatComment indent s) =
          terminate [lf] (pieces.map (docLine other)) := by
  have again : ∀ target,
      formatComment target (formatComment indent s) = formatComment target s := by
    intro target
    rw [formatComment, commentPieces_formatComment hblank, formatComment]
  refine ⟨again other, again indent, commentPieces s, formatComment_eq_terminate indent s, ?_⟩
  rw [again]
  exact formatComment_eq_terminate other s

theorem rambling_formatComment_again :
    ("\r\n\t" : Text).isBlank = true ∧
      formatComment "  " (formatComment "\r\n\t" rambling) = formatComment "  " rambling ∧
      formatComment "\r\n\t" (formatComment "\r\n\t" rambling) =
        formatComment "\r\n\t" rambling ∧
      ∃ pieces : List Text, formatComment "\r\n\t" rambling =
          terminate [lf] (pieces.map (docLine "\r\n\t")) ∧
        formatComment "  " (formatComment "\r\n\t" rambling) =
          terminate [lf] (pieces.map (docLine "  ")) :=
  ⟨by decide, formatComment_again (by decide) "  " rambling⟩

end DocScribe.Documentation
