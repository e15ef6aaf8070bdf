import DocScribe.Buffer.Basic
import DocScribe.Proofs.Source.Document
import Mathlib.Data.List.Infix

/-!
# Texts with uniform line ends

A buffer remembers one line end for all its lines, so it gives back a text whose line ends are all
alike and whose last line does not end in a carriage return (`text_ofText`).
-/

namespace DocScribe

open Text

/-- All line ends of the text are alike, and its last line does not end in a carriage return. -/
structure UniformLineEnds (s : Text) : Prop where
  last : s.getLast? ≠ some cr
  alike : ¬ [cr, lf] <:+: s ∨ ∀ front rest, s = front ++ lf :: rest → front.getLast? = some cr

instance (s : Text) : Decidable (UniformLineEnds s) :=
  decidable_of_iff (s.getLast? ≠ some cr ∧ (¬ [cr, lf] <:+: s ∨
      ∀ piece ∈ (splitOnByte lf s).dropLast, piece.getLast? = some cr))
    ⟨fun h => ⟨h.1, h.2.imp_right forall_lf_iff.2⟩, fun h => ⟨h.1, h.2.imp_right forall_lf_iff.1⟩⟩

theorem trimEndOf_cr_of_getLast? {piece : Text} (h : piece.getLast? ≠ some cr) :
    trimEndOf [cr] piece = piece := by
  refine trimEndOf_of_not_suffix ?_
  rintro ⟨front, rfl⟩
  exact h List.getLast?_concat

theorem trimEndOf_cr_append {piece : Text} (h : piece.getLast? = some cr) :
    trimEndOf [cr] piece ++ [cr] = piece := by
  obtain ⟨front, rfl⟩ := List.getLast?_eq_some_iff.1 h
  rw [trimEndOf_append]

/-- Lines that lost their carriage return, ended by CR LF. -/
theorem terminate_crlf_map_trimEndOf {front : List Text}
    (h : ∀ piece ∈ front, piece.getLast? = some cr) :
    terminate [cr, lf] (front.map (trimEndOf [cr])) = terminate [lf] front := by
  rw [terminate, terminate, List.flatMap_map]
  refine List.flatMap_congr fun piece hmem => ?_
  rw [show [cr, lf] = [cr] ++ [lf] from rfl, ← List.append_assoc,
    trimEndOf_cr_append (h piece hmem)]

namespace Buffer

/-- No line of the buffer holds a line feed. -/
def SingleLines (b : Buffer) : Prop :=
  ∀ line ∈ b.lines, lf ∉ line

theorem singleLines_ofText (s : Text) : SingleLines (ofText s) :=
  fun _ hline => Document.lf_not_mem_of_mem_ofText hline

theorem lineEnd_ofText_eq_crlf_iff {s : Text} : (ofText s).lineEnd = .crlf ↔ [cr, lf] <:+: s := by
  rw [ofText, ← includes_iff]
  cases includes s [cr, lf] <;> simp

/-- A buffer over a text with uniform line ends holds that text. -/
theorem text_ofText {s : Text} (uniform : UniformLineEnds s) : (ofText s).text = s := by
  obtain ⟨front, last, hsplit, hs⟩ := exists_splitOnByte_eq_concat lf s
  have hdrop : (splitOnByte lf s).dropLast = front := by rw [hsplit, List.dropLast_concat]
  have hlast : trimEndOf [cr] last = last := by
    refine trimEndOf_cr_of_getLast? ?_
    rw [Ne, ← getLast?_terminate_append_iff (show cr ≠ lf by decide), ← hs]
    exact uniform.last
  have hlines : (ofText s).lines = front.map (trimEndOf [cr]) ++ [last] := by
    rw [ofText, Document.ofText, hsplit, List.map_append, List.map_singleton, hlast]
  rw [text, hlines, join_concat]
  by_cases hcrlf : [cr, lf] <:+: s
  · have hall := forall_lf_iff.1 (uniform.alike.resolve_left (not_not_intro hcrlf))
    rw [hdrop] at hall
    rw [lineEnd_ofText_eq_crlf_iff.2 hcrlf, LineEnd.text, terminate_crlf_map_trimEndOf hall, ← hs]
  · have hend : (ofText s).lineEnd = .lf := by
      cases he : (ofText s).lineEnd with
      | lf => rfl
      | crlf => exact absurd (lineEnd_ofText_eq_crlf_iff.1 he) hcrlf
    have hsame : front.map (trimEndOf [cr]) = front := by
      refine (List.map_congr_left fun piece hmem => ?_).trans (List.map_id front)
      refine trimEndOf_cr_of_getLast? fun hcr => hcrlf (crlf_infix_iff.2 ⟨piece, ?_, hcr⟩)
      rwa [hdrop]
    rw [hend, LineEnd.text, hsame, ← hs]

end Buffer

end DocScribe
