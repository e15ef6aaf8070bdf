import DocScribe.Proofs.Text.Glyph
import DocScribe.Text.Case

/-!
# Letter case of ASCII texts

A text that is all ASCII is put in lower case byte by byte (`toLower_of_ascii`).
-/

namespace DocScribe.Text

/-- An ASCII byte in lower case. -/
def lowerByte (b : UInt8) : UInt8 :=
  if 0x41 ≤ b && b ≤ 0x5a then b + 0x20 else b

theorem encode_mapCase_lowerRuns {b : UInt8} (hb : b < 0x80) :
    encode (mapCase lowerRuns b.toNat) = [lowerByte b] := by
  have hall : ∀ n < 128, encode (mapCase lowerRuns n) = [lowerByte (.ofNat n)] := by
    decide +kernel
  have hcode := hall b.toNat (UInt8.lt_iff_toNat_lt.1 hb)
  rwa [UInt8.ofNat_toNat] at hcode

theorem toLower_of_ascii {s : Text} (h : ∀ b ∈ s, b < 0x80) : s.toLower = s.map lowerByte := by
  induction s with
  | nil => rfl
  | cons b s ih =>
    obtain ⟨hb, hs⟩ := List.forall_mem_cons.1 h
    have hcode : (Glyph.code ⟨[b], some b.toNat⟩) = b.toNat := rfl
    rw [toLower, glyphs_cons, headGlyph_of_ascii hb, List.flatMap_cons, hcode,
      encode_mapCase_lowerRuns hb, List.map_cons, ← ih hs]
    rfl

end DocScribe.Text
