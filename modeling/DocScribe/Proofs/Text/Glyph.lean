import DocScribe.Proofs.Text.Blank
import DocScribe.Text.Glyph

/-!
# Texts made of characters

A well-formed character is read from its own bytes whatever follows it (`headGlyph_cases`), so
texts of well-formed characters can be joined without new characters arising at the seam
(`glyphs_append`). A property of code points that U+FFFD does not have is a property of well-formed
characters only; `AllCodes p s` says that every character of `s` has it. Proofs go through a text
character by character (`glyphInduction`).
-/

namespace DocScribe.Text

theorem isContinuation_of_le {low high c : UInt8} (hlow : 0x80 ≤ low) (hhigh : high ≤ 0xbf)
    (hc : low ≤ c) (hc' : c ≤ high) : isContinuation c = true := by
  rw [isContinuation, Bool.and_eq_true, decide_eq_true_eq, decide_eq_true_eq]
  exact ⟨UInt8.le_trans hlow hc, UInt8.le_trans hc' hhigh⟩

/-- What stands at the head of a text: a stray byte, or a character that is read from its own bytes
whatever follows them. -/
theorem headGlyph_cases (b : UInt8) (s : Text) :
    headGlyph b s = ⟨[b], none⟩ ∨
      ∃ tail rest code, s = tail ++ rest ∧ (∀ c ∈ tail, isContinuation c = true) ∧
        ∀ other, headGlyph b (tail ++ other) = ⟨b :: tail, some code⟩ := by
  fun_cases headGlyph b s with
  | case1 s hb =>
    refine .inr ⟨[], s, b.toNat, rfl, by simp, fun other => ?_⟩
    rw [headGlyph.eq_def, if_pos hb]
  | case2 hb hrange c rest hc =>
    refine .inr ⟨[c], rest, b.toNat % 32 * 64 + payload c, rfl, by simpa using hc, fun other => ?_⟩
    rw [headGlyph.eq_def, if_neg hb, if_pos hrange]
    exact if_pos hc
  | case5 hb htwo hrange c d rest low high hcd =>
    have hbytes := hcd
    simp only [Bool.and_eq_true, decide_eq_true_eq] at hbytes
    have hlow : 0x80 ≤ low := by
      simp only [low]
      split <;> decide
    have hhigh : high ≤ 0xbf := by
      simp only [high]
      split <;> decide
    have hc := isContinuation_of_le hlow hhigh hbytes.1.1 hbytes.1.2
    refine .inr ⟨[c, d], rest, b.toNat % 16 * 4096 + payload c * 64 + payload d, rfl,
      by simp [hc, hbytes.2], fun other => ?_⟩
    rw [headGlyph.eq_def, if_neg hb, if_neg htwo, if_pos hrange]
    exact if_pos hcd
  | case8 hb htwo hthree hrange c d e rest low high hcde =>
    have hbytes := hcde
    simp only [Bool.and_eq_true, decide_eq_true_eq] at hbytes
    have hlow : 0x80 ≤ low := by
      simp only [low]
      split <;> decide
    have hhigh : high ≤ 0xbf := by
      simp only [high]
      split <;> decide
    have hc := isContinuation_of_le hlow hhigh hbytes.1.1.1 hbytes.1.1.2
    refine .inr ⟨[c, d, e], rest,
      b.toNat % 8 * 262144 + payload c * 4096 + payload d * 64 + payload e, rfl,
      by simp [hc, hbytes.1.2, hbytes.2], fun other => ?_⟩
    rw [headGlyph.eq_def, if_neg hb, if_neg htwo, if_neg hthree, if_pos hrange]
    exact if_pos hcde
  | _ => exact .inl rfl

theorem headGlyph_of_ascii {b : UInt8} (hb : b < 0x80) (s : Text) :
    headGlyph b s = ⟨[b], some b.toNat⟩ := by
  rw [headGlyph.eq_def, if_pos hb]

theorem headGlyph_of_stray {b : UInt8} {s : Text} (h : (headGlyph b s).code? = none) :
    headGlyph b s = ⟨[b], none⟩ := by
  rcases headGlyph_cases b s with hstray | ⟨tail, rest, code, rfl, -, hread⟩
  · exact hstray
  · rw [hread] at h
    cases h

/-- An ASCII byte of a character is all of it. -/
theorem code?_of_mem_headGlyph {b c : UInt8} {s : Text} (hc : c < 0x80)
    (h : c ∈ (headGlyph b s).bytes) : (headGlyph b s).code? = some c.toNat := by
  rcases headGlyph_cases b s with hstray | ⟨tail, rest, code, rfl, htail, hread⟩
  · rw [hstray, List.mem_singleton] at h
    rw [← h, headGlyph_of_ascii hc]
  · have hmem : c = b ∨ c ∈ tail := by
      rw [hread] at h
      exact List.mem_cons.1 h
    rcases hmem with rfl | hmem
    · rw [headGlyph_of_ascii hc]
    · have hcontinues := htail c hmem
      simp only [isContinuation, Bool.and_eq_true, decide_eq_true_eq] at hcontinues
      exact absurd hcontinues.1 (UInt8.not_le.2 hc)

/-- A well-formed character does not depend on what follows it. -/
theorem headGlyph_append {b : UInt8} {s : Text} (h : (headGlyph b s).code?.isSome = true)
    (other : Text) : headGlyph b (s ++ other) = headGlyph b s := by
  rcases headGlyph_cases b s with hstray | ⟨tail, rest, code, rfl, -, hread⟩
  · rw [hstray] at h
    cases h
  · rw [List.append_assoc, hread, hread]

/-- Goes through a text one character at a time. -/
theorem glyphInduction {motive : Text → Prop} (nil : motive [])
    (cons : ∀ (b : UInt8) (tail rest : Text), (headGlyph b (tail ++ rest)).bytes = b :: tail →
      (∀ c ∈ tail, isContinuation c = true) → motive rest → motive (b :: (tail ++ rest)))
    (s : Text) : motive s := by
  induction h : s.length using Nat.strongRecOn generalizing s with
  | ind n ih =>
    cases s with
    | nil => exact nil
    | cons b s =>
      rw [List.length_cons] at h
      rcases headGlyph_cases b s with hstray | ⟨tail, rest, code, rfl, htail, hread⟩
      · refine cons b [] s ?_ (by simp) (ih s.length (by omega) s rfl)
        rw [List.nil_append, hstray]
      · rw [List.length_append] at h
        refine cons b tail rest ?_ htail (ih rest.length (by omega) rest rfl)
        rw [hread]

theorem glyphs_cons_append {b : UInt8} {tail rest : Text}
    (h : (headGlyph b (tail ++ rest)).bytes = b :: tail) :
    glyphs (b :: (tail ++ rest)) = headGlyph b (tail ++ rest) :: glyphs rest := by
  rw [glyphs_cons, h, List.length_cons, Nat.add_sub_cancel, List.drop_left]

/-- Well-formed characters stay the same when another text follows. -/
theorem glyphs_append {s : Text} (h : ∀ g ∈ s.glyphs, g.code?.isSome = true) (t : Text) :
    glyphs (s ++ t) = glyphs s ++ glyphs t := by
  induction s using glyphInduction with
  | nil => rfl
  | cons b tail rest hbytes htail ih =>
    rw [glyphs_cons_append hbytes, List.forall_mem_cons] at h
    have hread := headGlyph_append h.1 t
    rw [List.append_assoc] at hread
    rw [glyphs_cons_append hbytes, List.cons_append, List.cons_append, List.append_assoc,
      glyphs_cons_append (by rw [hread, hbytes]), hread, ih h.2]

/-- An ASCII byte of a text is a character of it. -/
theorem mem_glyphs_of_ascii {b : UInt8} (hb : b < 0x80) {s : Text} (h : b ∈ s) :
    ⟨[b], some b.toNat⟩ ∈ s.glyphs := by
  induction s using glyphInduction with
  | nil => cases h
  | cons c tail rest hbytes htail ih =>
    rw [glyphs_cons_append hbytes]
    rcases List.mem_cons.1 h with rfl | h
    · rw [headGlyph_of_ascii hb]
      exact List.mem_cons_self
    · rcases List.mem_append.1 h with h | h
      · have hcontinues := htail b h
        simp only [isContinuation, Bool.and_eq_true, decide_eq_true_eq] at hcontinues
        exact absurd hcontinues.1 (UInt8.not_le.2 hb)
      · exact List.mem_cons_of_mem _ (ih h)

/-- Every character of the text has the property. -/
def AllCodes (p : Nat → Bool) (s : Text) : Prop :=
  ∀ g ∈ s.glyphs, p g.code = true

theorem AllCodes.not_mem_of_ascii {p : Nat → Bool} {s : Text} (all : AllCodes p s) {b : UInt8}
    (hb : b < 0x80) (hno : p b.toNat = false) : b ∉ s := by
  intro hmem
  have hcode := all _ (mem_glyphs_of_ascii hb hmem)
  rw [Glyph.code, Option.getD_some, hno] at hcode
  cases hcode

section Codes

variable {p : Nat → Bool} (hp : p replacement = false)
include hp

theorem code?_isSome_of_code {g : Glyph} (h : p g.code = true) : g.code?.isSome = true := by
  cases hcode : g.code? with
  | some code => rfl
  | none =>
    rw [Glyph.code, hcode, Option.getD_none, hp] at h
    cases h

theorem AllCodes.glyphs_append {s : Text} (all : AllCodes p s) (t : Text) :
    glyphs (s ++ t) = glyphs s ++ glyphs t :=
  Text.glyphs_append (fun g hg => code?_isSome_of_code hp (all g hg)) t

theorem AllCodes.append {s t : Text} (hs : AllCodes p s) (ht : AllCodes p t) :
    AllCodes p (s ++ t) := by
  intro g hg
  rw [hs.glyphs_append hp] at hg
  rcases List.mem_append.1 hg with hg | hg
  · exact hs g hg
  · exact ht g hg

theorem AllCodes.join {sep : Text} (hsep : AllCodes p sep) {pieces : List Text}
    (hpieces : ∀ piece ∈ pieces, AllCodes p piece) : AllCodes p (join sep pieces) := by
  induction pieces with
  | nil => simp [Text.join, AllCodes, glyphs, glyphsAfter]
  | cons piece pieces ih =>
    obtain ⟨hpiece, hrest⟩ := List.forall_mem_cons.1 hpieces
    cases pieces with
    | nil => exact hpiece
    | cons next pieces => exact (hpiece.append hp hsep).append hp (ih hrest)

/-- The longest start of a text whose characters have the property ends where they do. -/
theorem AllCodes.takeGlyphs_append {s t : Text} (hs : AllCodes p s)
    (ht : ∀ g, t.glyphs.head? = some g → p g.code = false) : takeGlyphs p (s ++ t) = s := by
  have hstop : t.glyphs.takeWhile (fun g => p g.code) = [] := by
    cases hglyphs : t.glyphs with
    | nil => rfl
    | cons g gs =>
      have hg := ht g (by rw [hglyphs, List.head?_cons])
      rw [List.takeWhile_cons, hg, if_neg Bool.false_ne_true]
  rw [takeGlyphs, hs.glyphs_append hp, List.takeWhile_append_of_pos hs, hstop, List.append_nil,
    flatMap_bytes_glyphs]

end Codes

end DocScribe.Text
