import DocScribe.Proofs.Buffer.Insert
import DocScribe.Proofs.Buffer.Reload
import DocScribe.Proofs.Number.Integer
import DocScribe.Proofs.Scan.Excerpt
import DocScribe.Proofs.Text.Encoding

/-!
# The text of a construct

The text that a buffer gives for the extent of a construct is what a generator sees of it. It is the
lines of the construct (`textIn_eq_join`), since the extent ends on the last character of its last
line, and reading it as a text gives these lines back (`lines_ofText_join`). So the text is a
construct of the same kind by itself: `exists_standsAlone`.
-/

namespace DocScribe

open Text

namespace Buffer

/-- The lines of the buffer are well-formed UTF-8 without line feeds and carriage returns, and their
columns are 64-bit integers. -/
structure PlainLines (b : Buffer) : Prop where
  single : b.SingleLines
  noReturn : ∀ line ∈ b.lines, cr ∉ line
  utf8 : ∀ line ∈ b.lines, line.isUtf8 = true
  countable : ∀ line ∈ b.lines, (line.glyphCount : Int) ≤ Number.maxInt

theorem clamp_zero (size : Nat) : clamp 0 0 size = 0 := by
  rw [clamp, if_neg (by omega), if_neg (by omega)]

/-- The character after the last column of a line is the end of the line. -/
theorem clamp_lastColumn {line : Text} (h : (line.glyphCount : Int) ≤ Number.maxInt) :
    clamp (Number.wrap (lastColumn line + 1)) 0 line.glyphCount = line.glyphCount := by
  have hfits : Number.Fits64 (lastColumn line + 1) := by
    rw [Number.Fits64, Number.minInt]
    rw [lastColumn, Number.maxInt] at *
    omega
  rw [Number.wrap_eq_self_iff.2 hfits, clamp, lastColumn]
  split
  · omega
  · split <;> omega

/-- A line that a range covers as a whole is kept as it is. -/
theorem lineInRange_eq {range : Range} {n : Nat} {line : Text} (hanchor : range.anchor.column = 0)
    (utf8 : line.isUtf8 = true) (hlast : (n : Int) = range.last.line →
      clamp (Number.wrap (range.last.column + 1)) 0 line.glyphCount = line.glyphCount) :
    lineInRange range n line = line ++ (if n == range.last.line then [] else [lf]) := by
  have hfirst : (if n == range.anchor.line then clamp range.anchor.column 0 line.glyphCount
      else 0) = 0 := by
    rw [hanchor, clamp_zero, ite_self]
  have hend : (if n == range.last.line then
      clamp (Number.wrap (range.last.column + 1)) 0 line.glyphCount else line.glyphCount) =
      (line.glyphCount : Int) := by
    split
    · next h => exact hlast (beq_iff_eq.1 h)
    · rfl
  rw [glyphCount] at hfirst hend
  simp only [lineInRange, hfirst, hend]
  rw [Int.toNat_natCast, Int.toNat_zero, List.take_length, List.drop_zero, ← repaired,
    repaired_eq_self_iff.2 utf8]

/-- The last line of an extent is covered as a whole. -/
theorem lineInRange_last {range : Range} (hanchor : range.anchor.column = 0) {e : Nat}
    {line : Text} (hlast : range.last = ⟨e, lastColumn line⟩) (utf8 : line.isUtf8 = true)
    (countable : (line.glyphCount : Int) ≤ Number.maxInt) : lineInRange range e line = line := by
  have hclamp := clamp_lastColumn countable
  have hwhole := lineInRange_eq hanchor utf8 (n := e)
  rw [hlast] at hwhole
  rw [hwhole fun _ => hclamp, if_pos (by simp), List.append_nil]

/-- The lines after a range are not covered by it. -/
theorem linesInRange_of_lt {range : Range} {n : Nat} (h : range.last.line < n) (lines : List Text) :
    linesInRange range n lines = [] := by
  induction lines generalizing n with
  | nil => rfl
  | cons line lines ih =>
    rw [linesInRange, if_neg (by simp; omega), ih (by omega)]

/-- From the first line of an extent on, its lines are joined. -/
theorem linesInRange_eq {range : Range} (hanchor : range.anchor.column = 0) {e : Nat}
    (hlast : range.last.line = e) {last : Text} (hend : lineInRange range e last = last)
    (rest : List Text) {front : List Text} (utf8 : ∀ line ∈ front, line.isUtf8 = true) {n : Nat}
    (hstart : range.anchor.line ≤ n) (hlength : n + front.length = e) :
    linesInRange range n (front ++ [last] ++ rest) = join [lf] (front ++ [last]) := by
  rw [join_concat, List.append_assoc, List.singleton_append]
  induction front generalizing n with
  | nil =>
    have hn : n = e := hlength
    subst hn
    rw [List.nil_append, linesInRange, if_pos (by simp; omega), hend,
      linesInRange_of_lt (by omega), List.append_nil]
    rfl
  | cons line front ih =>
    obtain ⟨hline, hfront⟩ := List.forall_mem_cons.1 utf8
    rw [List.length_cons] at hlength
    have hinner : (n : Int) ≠ range.last.line := by omega
    have hwhole := lineInRange_eq hanchor hline fun h => absurd h hinner
    rw [if_neg (fun h => hinner (beq_iff_eq.1 h))] at hwhole
    rw [List.cons_append, linesInRange, if_pos (by simp; omega), hwhole,
      ih hfront (n := n + 1) (by omega) (by omega), terminate, terminate, List.flatMap_cons]
    simp only [List.append_assoc]

/-- **The text of an extent is its lines**, joined by line feeds. -/
theorem textIn_eq_join {b : Buffer} (plain : PlainLines b) {s e : Nat} (hse : s ≤ e)
    (he : e < b.lines.length) :
    b.textIn ⟨⟨s, 0⟩, ⟨e, lastColumn (b.lines.lineText e)⟩⟩ = join [lf] (b.lines.excerpt s e) := by
  generalize hrange : (⟨⟨s, 0⟩, ⟨e, lastColumn (b.lines.lineText e)⟩⟩ : Range) = range
  have hanchor : range.anchor = ⟨s, 0⟩ := by rw [← hrange]
  have hlast : range.last = ⟨e, lastColumn (b.lines.lineText e)⟩ := by rw [← hrange]
  have hlength : 0 + (b.lines.take s).length = s := by
    rw [List.length_take]
    omega
  calc b.textIn range
      = linesInRange range 0
          (b.lines.take s ++ (b.lines.excerpt s e ++ b.lines.drop (e + 1))) := by
        rw [textIn, Document.take_append_excerpt hse he]
    _ = linesInRange range s (b.lines.excerpt s e ++ b.lines.drop (e + 1)) := by
        rw [linesInRange_append, hlength]
        rw [hlength, hanchor]
    _ = join [lf] (b.lines.excerpt s e) := by
        have hmem := b.lines.lineText_mem he
        have hwhole := lineInRange_last (by rw [hanchor]) hlast (plain.utf8 _ hmem)
          (plain.countable _ hmem)
        rw [Document.excerpt_eq_concat hse he]
        refine linesInRange_eq (by rw [hanchor]) (by rw [hlast]) hwhole _ (fun line hline => ?_)
          (by rw [hanchor]) ?_
        · exact plain.utf8 line (List.mem_of_mem_take (List.mem_of_mem_drop hline))
        · rw [List.length_drop, List.length_take]
          omega

/-- Plain lines come back from their joined text. -/
theorem lines_ofText_join {b : Buffer} (plain : PlainLines b) {lines : Document} (hne : lines ≠ [])
    (hlines : lines ⊆ b.lines) : (ofText (join [lf] lines)).lines = lines := by
  have hsplit := splitOnByte_join hne fun line hline => plain.single line (hlines hline)
  rw [ofText, Document.ofText, hsplit]
  refine (List.map_congr_left fun line hline => ?_).trans (List.map_id lines)
  refine trimEndOf_cr_of_getLast? fun hlast => ?_
  exact plain.noReturn line (hlines hline) (List.mem_of_getLast? hlast)

/-- The text of an extent is its lines, and by itself a complete construct of the kind. -/
structure StandsAlone (b : Buffer) (limit : Scan.Limit) (kind : Kind) (range : Range) (s e : Nat) :
    Prop where
  anchor : range.anchor = ⟨s, 0⟩
  last : range.last.line = e
  start_le : s ≤ e
  lt_length : e < b.lines.length
  text : b.textIn range = join [lf] (b.lines.excerpt s e)
  again : ∀ column, Scan.findExtent (ofText (b.textIn range)).lines limit ⟨0, column⟩ kind =
    .ok ⟨⟨0, 0⟩, ⟨(e : Int) - s, range.last.column⟩⟩

/-- **The text of a construct stands alone**: it has all lines of the construct and nothing else,
and the scan finds the same construct in it. -/
theorem exists_standsAlone {b : Buffer} (plain : PlainLines b) {limit : Scan.Limit}
    {cursor : Position} {kind : Kind} {range : Range}
    (h : Scan.findExtent b.lines limit cursor kind = .ok range) :
    ∃ s e, StandsAlone b limit kind range s e := by
  obtain ⟨s, e, rfl, hse, he, hagain⟩ := Scan.findExtent_excerpt h
  have htext := textIn_eq_join plain hse he
  have hne : b.lines.excerpt s e ≠ [] := by
    rw [Document.excerpt_eq_cons hse he]
    exact List.cons_ne_nil _ _
  refine ⟨s, e, rfl, rfl, hse, he, htext, ?_⟩
  rw [htext, lines_ofText_join plain hne (b.lines.excerpt_subset s e)]
  exact hagain

/-- A function with characters of more than one byte, between other lines. -/
def umlauts : Buffer :=
  { lines := ["// größer", "fn f() \x7b", "    g(\"é\");", "\x7d // Ende: ü", "fn g() \x7b\x7d"] }

theorem plainLines_umlauts : PlainLines umlauts where
  single := by
    have hsingle : ∀ line ∈ umlauts.lines, lf ∉ line := by decide
    exact hsingle
  noReturn := by decide
  utf8 := by decide
  countable := by decide

theorem umlauts_standsAlone :
    PlainLines umlauts ∧
      Scan.findExtent umlauts.lines ⟨3⟩ ⟨3, 4⟩ .function = .ok ⟨⟨1, 0⟩, ⟨3, 11⟩⟩ ∧
      ∃ s e, StandsAlone umlauts ⟨3⟩ .function ⟨⟨1, 0⟩, ⟨3, 11⟩⟩ s e := by
  have hextent : Scan.findExtent umlauts.lines ⟨3⟩ ⟨3, 4⟩ .function =
      .ok ⟨⟨1, 0⟩, ⟨3, 11⟩⟩ := by decide
  exact ⟨plainLines_umlauts, hextent, exists_standsAlone plainLines_umlauts hextent⟩

end Buffer

end DocScribe
