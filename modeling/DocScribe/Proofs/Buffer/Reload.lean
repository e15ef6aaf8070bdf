import DocScribe.Buffer.Insert
import DocScribe.Proofs.Buffer.LineEnds

/-!
# Saving and reloading an edited buffer

Splitting a text drops one carriage return before each line end, so joining and splitting are not
inverse in general. A buffer comes back from its text line by line exactly when it is `Restorable`
(`ofText_text_eq_lines_iff`): it has a line, no line holds a line feed, the last line does not end
in a carriage return, and another line does only where CR LF follows it. A buffer over a text is
restorable, and placing a comment keeps it so (`Restorable.insertComment`): the lines that are left
are the old ones, the last line stays, and the lines of the comment end in no carriage return.
-/

namespace DocScribe

open Text

theorem trimEndOf_cr_eq_self_iff {s : Text} : trimEndOf [cr] s = s ↔ s.getLast? ≠ some cr := by
  constructor
  · intro hself hlast
    have happend := trimEndOf_cr_append hlast
    rw [hself] at happend
    have hlength := congrArg List.length happend
    simp at hlength
  · exact trimEndOf_cr_of_getLast?

/-- What stands between a line and the line feed after it. -/
def LineEnd.mark : LineEnd → Text
  | .lf => []
  | .crlf => [cr]

theorem LineEnd.text_eq_mark_append (e : LineEnd) : e.text = e.mark ++ [Text.lf] := by
  cases e <;> rfl

theorem LineEnd.lf_not_mem_mark (e : LineEnd) : Text.lf ∉ e.mark := by
  cases e <;> decide

/-- A line comes back from before its line end iff that line end does not take a carriage return of
the line with it. -/
theorem LineEnd.trimEndOf_append_mark_iff (e : LineEnd) {line : Text} :
    trimEndOf [cr] (line ++ e.mark) = line ↔ (line.getLast? = some cr → e = .crlf) := by
  cases e with
  | lf =>
    rw [mark, List.append_nil, trimEndOf_cr_eq_self_iff]
    simp
  | crlf =>
    rw [mark, trimEndOf_append]
    simp

theorem terminate_append_lf (mark : Text) (lines : List Text) :
    terminate (mark ++ [lf]) lines = terminate [lf] (lines.map (· ++ mark)) := by
  rw [terminate, terminate, List.flatMap_map]
  refine List.flatMap_congr fun line _ => ?_
  rw [List.append_assoc]

namespace Buffer

/-- The buffer comes back from its text: see `ofText_text_eq_lines_iff`. -/
structure Restorable (b : Buffer) : Prop where
  ne_nil : b.lines ≠ []
  free : b.SingleLines
  inner : ∀ line ∈ b.lines.dropLast, line.getLast? = some cr → b.lineEnd = .crlf
  last : ∀ line, b.lines.getLast? = some line → line.getLast? ≠ some cr

/-- The text of a buffer as pieces between line feeds. -/
theorem splitOnByte_text {b : Buffer} {front : Document} {last : Text}
    (hlines : b.lines = front ++ [last]) (free : b.SingleLines) :
    splitOnByte lf b.text = front.map (· ++ b.lineEnd.mark) ++ [last] := by
  have hfree : ∀ piece ∈ front.map (· ++ b.lineEnd.mark) ++ [last], lf ∉ piece := by
    intro piece hpiece
    rw [SingleLines, hlines] at free
    rcases List.mem_append.1 hpiece with hfront | hlast
    · obtain ⟨line, hline, rfl⟩ := List.mem_map.1 hfront
      intro hlf
      rcases List.mem_append.1 hlf with hlf | hlf
      · exact free line (List.mem_append_left _ hline) hlf
      · exact b.lineEnd.lf_not_mem_mark hlf
    · exact free piece (List.mem_append_right _ hlast)
  rw [text, hlines, join_concat, LineEnd.text_eq_mark_append, terminate_append_lf, ← join_concat]
  exact splitOnByte_join (by simp) hfree

theorem ofText_text_eq_lines_iff {b : Buffer} :
    Document.ofText b.text = b.lines ↔ Restorable b := by
  by_cases hne : b.lines = []
  · refine ⟨fun h => ?_, fun restorable => absurd hne restorable.ne_nil⟩
    rw [hne, Document.ofText, List.map_eq_nil_iff] at h
    exact absurd h (splitOnByte_ne_nil lf b.text)
  obtain ⟨front, last, hlines⟩ : ∃ front last, b.lines = front ++ [last] :=
    ⟨_, _, (List.dropLast_concat_getLast hne).symm⟩
  have hiff (free : b.SingleLines) : Document.ofText b.text = b.lines ↔
      (∀ line ∈ front, line.getLast? = some cr → b.lineEnd = .crlf) ∧ last.getLast? ≠ some cr := by
    rw [Document.ofText, splitOnByte_text hlines free, hlines, List.map_append, List.map_map,
      List.map_singleton, List.append_singleton_inj, trimEndOf_cr_eq_self_iff]
    refine and_congr_left fun _ => ?_
    calc front.map (trimEndOf [cr] ∘ (· ++ b.lineEnd.mark)) = front
        ↔ front.map (trimEndOf [cr] ∘ (· ++ b.lineEnd.mark)) = front.map id := by rw [List.map_id]
      _ ↔ ∀ line ∈ front, trimEndOf [cr] (line ++ b.lineEnd.mark) = line := List.map_inj_left
      _ ↔ _ := forall₂_congr fun _ _ => b.lineEnd.trimEndOf_append_mark_iff
  constructor
  · intro h
    have free : b.SingleLines := by
      intro line hline
      rw [← h] at hline
      exact Document.lf_not_mem_of_mem_ofText hline
    obtain ⟨hinner, hlast⟩ := (hiff free).1 h
    refine ⟨hne, free, ?_, ?_⟩
    · rw [hlines, List.dropLast_concat]
      exact hinner
    · rw [hlines, List.getLast?_concat]
      rintro line ⟨⟩
      exact hlast
  · intro restorable
    refine (hiff restorable.free).2
      ⟨?_, restorable.last last (by rw [hlines, List.getLast?_concat])⟩
    have hinner := restorable.inner
    rwa [hlines, List.dropLast_concat] at hinner

/-- A buffer over a text that does not end in a carriage return can be restored. -/
theorem restorable_ofText {source : Text} (hsource : source.getLast? ≠ some cr) :
    Restorable (ofText source) := by
  obtain ⟨front, last, hsplit, hs⟩ := exists_splitOnByte_eq_concat lf source
  have hlines : (ofText source).lines = front.map (trimEndOf [cr]) ++ [trimEndOf [cr] last] := by
    rw [ofText, Document.ofText, hsplit, List.map_append, List.map_singleton]
  have hlast : last.getLast? ≠ some cr := by
    rwa [Ne, ← getLast?_terminate_append_iff (show cr ≠ lf by decide), ← hs]
  refine ⟨?_, singleLines_ofText source, ?_, ?_⟩
  · rw [hlines]
    simp
  · rw [hlines, List.dropLast_concat]
    intro line hline hcr
    obtain ⟨piece, hpiece, rfl⟩ := List.mem_map.1 hline
    -- A line keeps a carriage return only if its piece had two of them.
    have hends : piece.getLast? = some cr := by
      by_contra hno
      rw [trimEndOf_cr_of_getLast? hno] at hcr
      exact hno hcr
    refine lineEnd_ofText_eq_crlf_iff.2 (crlf_infix_iff.2 ⟨piece, ?_, hends⟩)
    rwa [hsplit, List.dropLast_concat]
  · rw [hlines, List.getLast?_concat, trimEndOf_cr_of_getLast? hlast]
    rintro line ⟨⟩
    exact hlast

/-- The lines of a comment, where CR LF ends a line as LF does, end in no carriage return. -/
def TidyComment (comment : Text) : Prop :=
  ∀ line ∈ splitOnByte lf (replaceAll [cr, lf] [lf] comment), line.getLast? ≠ some cr

instance (comment : Text) : Decidable (TidyComment comment) :=
  inferInstanceAs (Decidable (∀ line ∈ _, _))

theorem mem_splitOnByte_of_mem_commentLines {comment line : Text}
    (h : line ∈ commentLines comment) :
    line ∈ splitOnByte lf (replaceAll [cr, lf] [lf] comment) := by
  rw [commentLines] at h
  generalize replaceAll [cr, lf] [lf] comment = s at h ⊢
  split at h
  · cases h
  · by_cases hends : [lf] <:+ s
    · obtain ⟨front, rfl⟩ := hends
      rw [trimEndOf_append] at h
      rw [splitOnByte_append_cons]
      exact List.mem_append_left _ h
    · rwa [trimEndOf_of_not_suffix hends] at h

theorem lf_not_mem_of_mem_commentLines {comment line : Text} (h : line ∈ commentLines comment) :
    lf ∉ line :=
  not_mem_of_mem_splitOnByte (mem_splitOnByte_of_mem_commentLines h)

/-- **The step**: placing a comment keeps a buffer restorable. -/
theorem Restorable.insertComment {b after : Buffer} {line : Int} {comment : Text} {removed : Nat}
    (restorable : Restorable b) (tidy : TidyComment comment)
    (h : b.insertComment line comment = .ok (removed, after)) : Restorable after := by
  rw [Buffer.insertComment] at h
  split at h
  · next hline =>
    obtain ⟨n, rfl, hn⟩ := Document.exists_of_hasLine hline
    cases h
    rw [Int.toNat_natCast]
    have hdrop : b.lines.drop n ≠ [] := by simpa using hn
    -- The lines above the comment are no last lines, and the last line stands below it.
    have habove : ∀ k ≤ n, b.lines.take k ⊆ b.lines.dropLast := by
      intro k hk
      rw [List.dropLast_eq_take]
      exact (List.take_prefix_take_left (by omega)).subset
    have hbelow : (b.lines.drop n).dropLast ⊆ b.lines.dropLast := by
      intro line hline
      rw [← List.take_append_drop n b.lines, List.dropLast_append_of_ne_nil hdrop]
      exact List.mem_append_right _ hline
    refine ⟨by simp [hdrop], ?_, ?_, ?_⟩
    · intro line hline
      rcases List.mem_append.1 hline with hline | hline
      · rcases List.mem_append.1 hline with hline | hline
        · exact restorable.free line (List.mem_of_mem_take hline)
        · exact lf_not_mem_of_mem_commentLines hline
      · exact restorable.free line (List.mem_of_mem_drop hline)
    · intro line hline hcr
      rw [List.dropLast_append_of_ne_nil hdrop] at hline
      rcases List.mem_append.1 hline with hline | hline
      · rcases List.mem_append.1 hline with hline | hline
        · exact restorable.inner line (habove _ (Nat.sub_le _ _) hline) hcr
        · exact absurd hcr (tidy line (mem_splitOnByte_of_mem_commentLines hline))
      · exact restorable.inner line (hbelow hline) hcr
    · intro line hline
      rw [List.getLast?_append_of_ne_nil _ hdrop, List.getLast?_drop, if_neg (by omega)] at hline
      exact restorable.last line hline
  · cases h

/-- A comment to be placed above a line. -/
structure Edit where
  line : Int
  comment : Text

/-- The buffer after an edit; a line that it does not have leaves it as it is. -/
def Edit.run (edit : Edit) (b : Buffer) : Buffer :=
  match b.insertComment edit.line edit.comment with
  | .ok (_, after) => after
  | .error _ => b

/-- The buffer after edits one after the other. -/
def editAll (b : Buffer) (edits : List Edit) : Buffer :=
  edits.foldl (fun b edit => edit.run b) b

theorem Restorable.edit {b : Buffer} (restorable : Restorable b) {edit : Edit}
    (tidy : TidyComment edit.comment) : Restorable (edit.run b) := by
  rw [Edit.run]
  split
  · next removed after h => exact restorable.insertComment tidy h
  · exact restorable

/-- **The run**: edits keep a buffer restorable. -/
theorem Restorable.editAll {b : Buffer} (restorable : Restorable b) {edits : List Edit}
    (tidy : ∀ edit ∈ edits, TidyComment edit.comment) : Restorable (b.editAll edits) := by
  induction edits generalizing b with
  | nil => exact restorable
  | cons edit edits ih =>
    obtain ⟨hedit, hedits⟩ := List.forall_mem_cons.1 tidy
    exact ih (restorable.edit hedit) hedits

/-- **Saving and reloading loses nothing**: after any edits of a buffer over a text, the lines of
its own text are its lines. -/
theorem lines_ofText_text_editAll {source : Text} (hsource : source.getLast? ≠ some cr)
    {edits : List Edit} (tidy : ∀ edit ∈ edits, TidyComment edit.comment) :
    (ofText ((ofText source).editAll edits).text).lines = ((ofText source).editAll edits).lines :=
  ofText_text_eq_lines_iff.2 ((restorable_ofText hsource).editAll tidy)

/-- A text in which a line of its own ends in a carriage return. -/
def returnInLine : Text :=
  "/// old\r\nfn f() \x7b\r\r\n\x7d"

/-- Edits that replace a comment by two lines, miss the buffer, and place nothing. -/
def returnInLineEdits : List Edit :=
  [⟨1, "/// new\r\n/// text\n"⟩, ⟨9, "/// lost"⟩, ⟨-1, "/// lost"⟩, ⟨3, "\r\n"⟩]

theorem returnInLine_reloads :
    returnInLine.getLast? ≠ some cr ∧
    (∀ edit ∈ returnInLineEdits, TidyComment edit.comment) ∧
    ((ofText returnInLine).editAll returnInLineEdits).lines =
      ["/// new", "/// text", "fn f() \x7b\r", "\x7d"] ∧
    (ofText ((ofText returnInLine).editAll returnInLineEdits).text).lines =
      ((ofText returnInLine).editAll returnInLineEdits).lines := by
  have hsource : returnInLine.getLast? ≠ some cr := by decide
  have tidy : ∀ edit ∈ returnInLineEdits, TidyComment edit.comment := by decide
  exact ⟨hsource, tidy, by decide, lines_ofText_text_editAll hsource tidy⟩

end Buffer

end DocScribe
