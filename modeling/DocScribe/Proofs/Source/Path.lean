import DocScribe.Proofs.Text.Lines
import DocScribe.Proofs.Text.Trim
import DocScribe.Source.Declaration

/-!
# Identifiers and paths

An identifier is made of letters, digits and underscores, so neither white space nor a colon occurs
in it. A `TypePath` is identifiers joined by `::`; it is read up to the first character that no path
has (`StopsPath`), and the name it gives is its last identifier
(`TypePath.lastSegment_splitOn_text`).
-/

namespace DocScribe.Source

open Text

theorem isPathChar_replacement : isPathChar replacement = false := by
  decide +kernel

theorem isPathChar_of_mem_blankCodes : ∀ code ∈ blankCodes, isPathChar code = false := by
  decide +kernel

theorem isPathChar_of_continuesIdent {g : Glyph} (h : continuesIdent g = true) :
    isPathChar g.code = true := by
  simp only [continuesIdent, isPathChar, Bool.or_eq_true] at h ⊢
  tauto

theorem continuesIdent_of_startsIdent {g : Glyph} (h : startsIdent g = true) :
    continuesIdent g = true := by
  simp only [startsIdent, continuesIdent, Bool.or_eq_true] at h ⊢
  tauto

theorem continuesIdent_of_isIdent {s : Text} (h : isIdent s = true) {g : Glyph}
    (hg : g ∈ s.glyphs) : continuesIdent g = true := by
  rw [isIdent] at h
  split at h
  · cases h
  · next first rest hglyphs =>
    rw [hglyphs] at hg
    rw [Bool.and_eq_true, List.all_eq_true] at h
    rcases List.mem_cons.1 hg with rfl | hg
    · exact continuesIdent_of_startsIdent h.1
    · exact h.2 g hg

theorem allCodes_of_isIdent {s : Text} (h : isIdent s = true) : AllCodes isPathChar s :=
  fun _ hg => isPathChar_of_continuesIdent (continuesIdent_of_isIdent h hg)

theorem ne_nil_of_isIdent {s : Text} (h : isIdent s = true) : s ≠ [] := by
  rintro rfl
  cases h

theorem colon_not_mem_of_isIdent {s : Text} (h : isIdent s = true) : (0x3a : UInt8) ∉ s := by
  intro hmem
  have hcolon := continuesIdent_of_isIdent h (mem_glyphs_of_ascii (by decide) hmem)
  have hno : continuesIdent ⟨[0x3a], some 0x3a⟩ = false := by decide +kernel
  rw [show (0x3a : UInt8).toNat = 0x3a from rfl, hno] at hcolon
  cases hcolon

/-- A path: identifiers joined by `::`, after another `::` if it is rooted. -/
structure TypePath where
  rooted : Bool
  front : List Text
  last : Text
  ident : ∀ segment ∈ front ++ [last], isIdent segment = true

namespace TypePath

variable (p : TypePath)

/-- The text of a path. -/
def text : Text :=
  (if p.rooted then ("::" : Text) else []) ++ join "::" (p.front ++ [p.last])

/-- The pieces between the separators of a path. -/
def pieces : List Text :=
  (if p.rooted then [[]] else []) ++ (p.front ++ [p.last])

theorem text_eq_join_pieces : p.text = join "::" p.pieces := by
  rw [text, pieces]
  split
  · obtain ⟨next, rest, hcons⟩ := List.exists_cons_of_ne_nil
      (show p.front ++ [p.last] ≠ [] by simp)
    rw [hcons]
    rfl
  · rfl

theorem eq_nil_or_isIdent_of_mem_pieces {piece : Text} (h : piece ∈ p.pieces) :
    piece = [] ∨ isIdent piece = true := by
  rw [pieces] at h
  rcases List.mem_append.1 h with hempty | hsegment
  · split at hempty
    · exact .inl (List.mem_singleton.1 hempty)
    · cases hempty
  · exact .inr (p.ident piece hsegment)

theorem allCodes : AllCodes isPathChar p.text := by
  have hsep : AllCodes isPathChar "::" := by
    unfold AllCodes
    decide
  rw [text_eq_join_pieces]
  refine hsep.join isPathChar_replacement fun piece hpiece => ?_
  rcases p.eq_nil_or_isIdent_of_mem_pieces hpiece with rfl | hident
  · intro g hg
    cases hg
  · exact allCodes_of_isIdent hident

theorem text_ne_nil : p.text ≠ [] := by
  have hlast := ne_nil_of_isIdent (p.ident p.last (by simp))
  rw [text, join_concat]
  simp [hlast]

theorem solid : Solid p.text :=
  p.allCodes.solid isPathChar_replacement isPathChar_of_mem_blankCodes p.text_ne_nil

/-- The name read off a path is its last identifier. -/
theorem lastSegment_splitOn_text : lastSegment (splitOn "::" p.text).reverse = p.last := by
  have hsplit : splitOn "::" p.text = p.pieces := by
    rw [text_eq_join_pieces]
    refine splitOn_join (by simp [pieces]) fun piece hpiece => ?_
    rcases p.eq_nil_or_isIdent_of_mem_pieces hpiece with rfl | hident
    · exact List.not_mem_nil
    · exact colon_not_mem_of_isIdent hident
  rw [hsplit, pieces, ← List.append_assoc, List.reverse_concat, lastSegment,
    if_pos (p.ident p.last (by simp))]

end TypePath

/-- The text is empty or starts with a character that no path has. -/
def StopsPath (s : Text) : Prop :=
  ∀ g, s.glyphs.head? = some g → isPathChar g.code = false

instance (s : Text) : Decidable (StopsPath s) :=
  inferInstanceAs (Decidable (∀ g, s.glyphs.head? = some g → isPathChar g.code = false))

theorem stopsPath_cons_iff {b : UInt8} {s : Text} :
    StopsPath (b :: s) ↔ isPathChar (headGlyph b s).code = false := by
  rw [StopsPath, glyphs_cons, List.head?_cons]
  constructor
  · intro h
    exact h _ rfl
  · rintro h g ⟨⟩
    exact h

/-- Cutting a text off makes no path character of its first one. -/
theorem StopsPath.of_isPrefix {s t : Text} (stops : StopsPath t) (h : s <+: t) : StopsPath s := by
  obtain ⟨rest, rfl⟩ := h
  cases s with
  | nil =>
    intro g hg
    cases hg
  | cons b s =>
    rw [List.cons_append] at stops
    rw [stopsPath_cons_iff] at stops ⊢
    by_contra hpath
    rw [Bool.not_eq_false] at hpath
    rw [headGlyph_append (code?_isSome_of_code isPathChar_replacement hpath), hpath] at stops
    cases stops

/-- A space after a text makes no path character of its first one. -/
theorem StopsPath.append_space {s : Text} (stops : StopsPath s) (rest : Text) :
    StopsPath (s ++ 0x20 :: rest) := by
  cases s with
  | nil =>
    rw [List.nil_append, stopsPath_cons_iff, headGlyph_of_ascii (by decide)]
    decide +kernel
  | cons b s =>
    rw [List.cons_append]
    rw [stopsPath_cons_iff] at stops ⊢
    rcases headGlyph_cases b (s ++ 0x20 :: rest) with
      hstray | ⟨tail, after, code, heq, htail, hread⟩
    · rw [hstray]
      exact isPathChar_replacement
    · -- The space is no continuation byte, so the character lies before it.
      rcases List.append_eq_append_iff.1 heq with ⟨a, ha, hspace⟩ | ⟨a, rfl, -⟩
      · cases a with
        | nil =>
          rw [List.append_nil] at ha
          rw [← ha, hread]
          rw [← ha, ← List.append_nil tail, hread] at stops
          exact stops
        | cons c a =>
          rw [List.cons_append, List.cons.injEq] at hspace
          have hcontinues := htail c (by rw [ha]; simp)
          rw [← hspace.1] at hcontinues
          cases hcontinues
      · rw [List.append_assoc, hread]
        rw [hread] at stops
        exact stops

theorem TypePath.takeGlyphs_text_append (p : TypePath) {rest : Text} (stops : StopsPath rest) :
    takeGlyphs isPathChar (p.text ++ rest) = p.text :=
  p.allCodes.takeGlyphs_append isPathChar_replacement stops

end DocScribe.Source
