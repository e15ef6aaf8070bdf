import DocScribe.Proofs.Text.Glyph

/-!
# Trimming around solid text

Trimming stops at text that is `Solid`: none of it is taken away as white space, whatever follows.
A text is solid if it starts and ends in ASCII bytes that are not blank (`solid_of_ends`), or if
none of its characters is white space (`AllCodes.solid`). The second needs a look at characters,
since the bytes of a letter outside ASCII also occur in white space.
-/

namespace DocScribe.Text

/-- The code points of white space. -/
def blankCodes : List Nat :=
  [0x09, 0x0a, 0x0b, 0x0c, 0x0d, 0x20, 0x85, 0xa0, 0x1680, 0x2000, 0x2001, 0x2002, 0x2003, 0x2004,
   0x2005, 0x2006, 0x2007, 0x2008, 0x2009, 0x200a, 0x2028, 0x2029, 0x202f, 0x205f, 0x3000]

/-- White space at the head of a text is its first character. -/
theorem exists_head?_glyphs_of_blankWidth {s : Text} (h : blankWidth s ≠ 0) :
    ∃ g, s.glyphs.head? = some g ∧ g.code ∈ blankCodes := by
  fun_cases blankWidth s with
  | case10 b rest hb =>
    simp only [Bool.or_eq_true, Bool.and_eq_true, decide_eq_true_eq, beq_iff_eq,
      UInt8.le_iff_toNat_le, ← UInt8.toNat_inj, UInt8.reduceToNat] at hb
    have hcontinues : isContinuation b = true := by
      simp only [isContinuation, Bool.and_eq_true, decide_eq_true_eq, UInt8.le_iff_toNat_le,
        UInt8.reduceToNat]
      omega
    refine ⟨_, by rw [glyphs_cons]; rfl, ?_⟩
    have hcode : (headGlyph 0xe2 (0x80 :: b :: rest)).code = 0x2000 + b.toNat % 64 := by
      simp [headGlyph, Glyph.code, payload, hcontinues]
    rw [hcode]
    simp only [blankCodes, List.mem_cons, List.not_mem_nil]
    omega
  | case11 b rest hb => simp [blankWidth, hb] at h
  | case14 => simp_all [blankWidth]
  | _ =>
    refine ⟨_, by rw [glyphs_cons]; rfl, ?_⟩
    simp [headGlyph, blankCodes, Glyph.code, isContinuation, payload]

theorem trimStart_of_blankWidth {s : Text} (h : blankWidth s = 0) : trimStart s = s := by
  cases s with
  | nil => rfl
  | cons b s => simp only [trimStart, trimAfter, h]

theorem isBlank_cons_of_blankWidth {b : UInt8} {s : Text} (h : blankWidth (b :: s) = 0) :
    isBlank (b :: s) = false := by
  rw [isBlank, trimStart_of_blankWidth h, List.isEmpty_cons]

theorem trimEnd_cons_of_not_isBlank {b : UInt8} {s : Text} (h : isBlank (b :: s) = false) :
    trimEnd (b :: s) = b :: trimEnd s := by
  rw [trimEnd, h, if_neg Bool.false_ne_true]

theorem trimEnd_isPrefix (s : Text) : s.trimEnd <+: s := by
  obtain ⟨blank, -, h⟩ := trimEnd_append_blank s
  exact ⟨blank, h⟩

/-- The text up to a byte that no white space has is not trimmed at its end. -/
theorem trimEnd_concat_append {front : Text} {b : UInt8} (hb : isBlankByte b = false) (t : Text) :
    trimEnd (front ++ [b] ++ t) = front ++ [b] ++ trimEnd t := by
  have hsuffix : ∀ {c : UInt8} {s : Text}, b ∈ c :: s → isBlank (c :: s) = false := by
    intro c s hmem
    by_contra hblank
    rw [Bool.not_eq_false] at hblank
    rw [isBlankByte_of_isBlank hblank hmem] at hb
    cases hb
  induction front with
  | nil => exact trimEnd_cons_of_not_isBlank (hsuffix List.mem_cons_self)
  | cons c front ih =>
    have hmem : b ∈ c :: (front ++ [b] ++ t) := by simp
    have hcons := trimEnd_cons_of_not_isBlank (hsuffix hmem)
    rw [ih] at hcons
    exact hcons

theorem headGlyph_of_isContinuation {c : UInt8} (hc : isContinuation c = true) (s : Text) :
    headGlyph c s = ⟨[c], none⟩ := by
  simp only [isContinuation, Bool.and_eq_true, decide_eq_true_eq, UInt8.le_iff_toNat_le,
    UInt8.reduceToNat] at hc
  rw [headGlyph.eq_def, if_neg, if_neg, if_neg, if_neg]
  all_goals
    simp only [Bool.and_eq_true, decide_eq_true_eq, UInt8.le_iff_toNat_le, UInt8.lt_iff_toNat_lt,
      UInt8.reduceToNat]
    omega

/-- White space does not begin inside a character. -/
theorem blankWidth_cons_of_isContinuation {c : UInt8} (hc : isContinuation c = true) (s : Text) :
    blankWidth (c :: s) = 0 := by
  by_contra h
  obtain ⟨g, hg, hcode⟩ := exists_head?_glyphs_of_blankWidth h
  rw [glyphs_cons, headGlyph_of_isContinuation hc, List.head?_cons] at hg
  cases hg
  exact absurd hcode (show replacement ∉ blankCodes by decide)

theorem trimEnd_append_of_isContinuation {tail : Text}
    (htail : ∀ c ∈ tail, isContinuation c = true) (t : Text) :
    trimEnd (tail ++ t) = tail ++ trimEnd t := by
  induction tail with
  | nil => rfl
  | cons c tail ih =>
    obtain ⟨hc, hrest⟩ := List.forall_mem_cons.1 htail
    have hblank := isBlank_cons_of_blankWidth (blankWidth_cons_of_isContinuation hc (tail ++ t))
    rw [List.cons_append, trimEnd_cons_of_not_isBlank hblank, ih hrest, List.cons_append]

/-- White space is trimmed neither off the start of the text nor out of it, whatever follows. -/
structure Solid (s : Text) : Prop where
  start : ∀ t, blankWidth (s ++ t) = 0
  finish : ∀ t, trimEnd (s ++ t) = s ++ trimEnd t

theorem Solid.trim_append {s : Text} (solid : Solid s) (t : Text) :
    trim (s ++ t) = s ++ trimEnd t := by
  rw [trim, trimStart_of_blankWidth (solid.start t), solid.finish]

theorem Solid.append {s t : Text} (hs : Solid s) (ht : Solid t) : Solid (s ++ t) where
  start u := by
    rw [List.append_assoc]
    exact hs.start (t ++ u)
  finish u := by
    rw [List.append_assoc, hs.finish, ht.finish, List.append_assoc]

theorem Solid.ne_nil {s : Text} (solid : Solid s) : s ≠ [] := by
  rintro rfl
  have hspace := solid.start [0x20]
  cases hspace

/-- A text that starts and ends in ASCII bytes other than blanks is solid. -/
theorem solid_of_ends {s : Text} {first last : UInt8} (hfirst : s.head? = some first)
    (hlast : s.getLast? = some last) (hstart : isBlankByte first = false)
    (hend : isBlankByte last = false) : Solid s where
  start t := by
    obtain ⟨rest, rfl⟩ := List.head?_eq_some_iff.1 hfirst
    by_contra hwidth
    obtain ⟨-, hbytes, -⟩ := blankWidth_spec hwidth
    obtain ⟨w, hw⟩ := Nat.exists_eq_succ_of_ne_zero hwidth
    rw [hw] at hbytes
    rw [hbytes first List.mem_cons_self] at hstart
    cases hstart
  finish t := by
    obtain ⟨front, rfl⟩ := List.getLast?_eq_some_iff.1 hlast
    exact trimEnd_concat_append hend t

section Codes

variable {p : Nat → Bool} (hp : p replacement = false)
  (hblank : ∀ code ∈ blankCodes, p code = false)
include hp hblank

theorem blankWidth_cons_of_code {b : UInt8} {s : Text} (h : p (headGlyph b s).code = true)
    (t : Text) : blankWidth (b :: (s ++ t)) = 0 := by
  by_contra hwidth
  obtain ⟨g, hg, hcode⟩ := exists_head?_glyphs_of_blankWidth hwidth
  rw [glyphs_cons, List.head?_cons, headGlyph_append (code?_isSome_of_code hp h)] at hg
  cases hg
  rw [hblank _ hcode] at h
  cases h

theorem AllCodes.trimEnd_append {s : Text} (all : AllCodes p s) (t : Text) :
    trimEnd (s ++ t) = s ++ trimEnd t := by
  induction s using glyphInduction with
  | nil => rfl
  | cons b tail rest hbytes htail ih =>
    rw [AllCodes, glyphs_cons_append hbytes, List.forall_mem_cons] at all
    have hwidth := blankWidth_cons_of_code hp hblank all.1 t
    rw [List.cons_append, trimEnd_cons_of_not_isBlank (isBlank_cons_of_blankWidth hwidth),
      List.append_assoc, trimEnd_append_of_isContinuation htail, ih all.2, List.cons_append,
      List.append_assoc]

/-- A text without white space is solid. -/
theorem AllCodes.solid {s : Text} (all : AllCodes p s) (hne : s ≠ []) : Solid s where
  start t := by
    obtain ⟨b, rest, rfl⟩ := List.exists_cons_of_ne_nil hne
    rw [AllCodes, glyphs_cons, List.forall_mem_cons] at all
    exact blankWidth_cons_of_code hp hblank all.1 t
  finish := all.trimEnd_append hp hblank

end Codes

/-! Spaces before solid text. -/

theorem trimStart_spaces_append {spaces : Text} (h : ∀ b ∈ spaces, b = 0x20) (s : Text) :
    trimStart (spaces ++ s) = trimStart s := by
  induction spaces with
  | nil => rfl
  | cons b spaces ih =>
    obtain ⟨rfl, hrest⟩ := List.forall_mem_cons.1 h
    rw [← ih hrest]
    rfl

theorem trim_spaces_append {spaces : Text} (h : ∀ b ∈ spaces, b = 0x20) (s : Text) :
    trim (spaces ++ s) = trim s := by
  rw [trim, trimStart_spaces_append h, trim]

theorem Solid.trimEnd_spaces_append {s spaces : Text} (solid : Solid s)
    (h : ∀ b ∈ spaces, b = 0x20) (t : Text) :
    trimEnd (spaces ++ (s ++ t)) = spaces ++ (s ++ trimEnd t) := by
  induction spaces with
  | nil => exact solid.finish t
  | cons b spaces ih =>
    have hblank : isBlank (b :: (spaces ++ (s ++ t))) = false := by
      have hstart := trimStart_spaces_append h (s ++ t)
      rw [trimStart_of_blankWidth (solid.start t)] at hstart
      rw [isBlank, ← List.cons_append, hstart]
      simp [solid.ne_nil]
    rw [List.cons_append, trimEnd_cons_of_not_isBlank hblank, ih (List.forall_mem_cons.1 h).2,
      List.cons_append]

end DocScribe.Text
