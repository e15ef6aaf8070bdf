import DocScribe.Proofs.Text.Glyph

/-!
# Characters and their bytes

The bytes of a well-formed character are the encoding of its code point (`bytes_headGlyph`), so a
code point says which bytes a character has. Putting U+FFFD for stray bytes changes every text that
has some (`repaired_eq_self_iff`).
-/

namespace DocScribe.Text

theorem ofNat_eq {n : Nat} {b : UInt8} (h : n = b.toNat) : UInt8.ofNat n = b := by
  rw [h, UInt8.ofNat_toNat]

/-- A byte of a range, as a number. -/
theorem toNat_range {low high b : UInt8} (h : (decide (low ≤ b) && decide (b ≤ high)) = true) :
    low.toNat ≤ b.toNat ∧ b.toNat ≤ high.toNat := by
  rw [Bool.and_eq_true, decide_eq_true_eq, decide_eq_true_eq] at h
  exact ⟨UInt8.le_iff_toNat_le.1 h.1, UInt8.le_iff_toNat_le.1 h.2⟩

theorem payload_of_range {c : UInt8} (hlow : 128 ≤ c.toNat) (hhigh : c.toNat ≤ 191) :
    c.toNat = 128 + payload c ∧ payload c < 64 := by
  rw [payload]
  omega

theorem toNat_of_isContinuation {c : UInt8} (h : isContinuation c = true) :
    c.toNat = 128 + payload c ∧ payload c < 64 := by
  obtain ⟨hlow, hhigh⟩ := toNat_range h
  exact payload_of_range hlow hhigh

theorem toNat_ite (b k x y : UInt8) :
    (if b == k then x else y).toNat = if b.toNat = k.toNat then x.toNat else y.toNat := by
  by_cases h : b = k
  · rw [if_pos (beq_iff_eq.2 h), if_pos (congrArg UInt8.toNat h)]
  · rw [if_neg (mt beq_iff_eq.1 h), if_neg (mt UInt8.toNat_inj.1 h)]

/-- The second of three or four bytes continues the sequence, and after two of the first bytes its
range is smaller on one side. -/
theorem toNat_of_second {b c first low last high : UInt8} (hlow : 128 ≤ low.toNat)
    (hhigh : high.toNat ≤ 191)
    (h : (decide ((if b == first then low else 0x80) ≤ c) &&
      decide (c ≤ if b == last then high else 0xbf)) = true) :
    (c.toNat = 128 + payload c ∧ payload c < 64) ∧ (b.toNat = first.toNat → low.toNat ≤ c.toNat) ∧
      (b.toNat = last.toNat → c.toNat ≤ high.toNat) := by
  obtain ⟨hmin, hmax⟩ := toNat_range h
  rw [toNat_ite] at hmin hmax
  have h128 : (0x80 : UInt8).toNat = 128 := rfl
  have h191 : (0xbf : UInt8).toNat = 191 := rfl
  refine ⟨payload_of_range ?_ ?_, fun hfirst => ?_, fun hlast => ?_⟩
  · split at hmin <;> omega
  · split at hmax <;> omega
  · rwa [if_pos hfirst] at hmin
  · rwa [if_pos hlast] at hmax

/-! The bytes of a code point, by their number. -/

/-- A number that is a code point. -/
def IsScalar (code : Nat) : Prop :=
  code ≤ 0x10ffff ∧ ¬ (0xd800 ≤ code ∧ code ≤ 0xdfff)

theorem encode_one {code : Nat} (h : code < 0x80) : encode code = [.ofNat code] :=
  if_pos h

theorem encode_two {code : Nat} (hlow : 0x80 ≤ code) (hhigh : code < 0x800) :
    encode code = [.ofNat (0xc0 + code / 64), .ofNat (0x80 + code % 64)] := by
  rw [encode, if_neg (by omega), if_pos hhigh]

theorem not_excluded {code : Nat} (h : IsScalar code) :
    ¬ (decide (0xd800 ≤ code) && decide (code ≤ 0xdfff) || decide (0x10ffff < code)) = true := by
  simp only [IsScalar, Bool.or_eq_true, Bool.and_eq_true, decide_eq_true_eq] at h ⊢
  omega

theorem encode_three {code : Nat} (h : IsScalar code) (hlow : 0x800 ≤ code)
    (hhigh : code < 0x10000) :
    encode code = [.ofNat (0xe0 + code / 4096), .ofNat (0x80 + code / 64 % 64),
      .ofNat (0x80 + code % 64)] := by
  rw [encode, if_neg (by omega), if_neg (by omega), if_neg (not_excluded h), if_pos hhigh]

theorem encode_four {code : Nat} (h : IsScalar code) (hlow : 0x10000 ≤ code) :
    encode code = [.ofNat (0xf0 + code / 262144), .ofNat (0x80 + code / 4096 % 64),
      .ofNat (0x80 + code / 64 % 64), .ofNat (0x80 + code % 64)] := by
  rw [encode, if_neg (by omega), if_neg (by omega), if_neg (not_excluded h), if_neg (by omega)]

theorem encode_of_not_isScalar {code : Nat} (h : ¬ IsScalar code) :
    encode code = encode replacement := by
  have hexcluded : (decide (0xd800 ≤ code) && decide (code ≤ 0xdfff) ||
      decide (0x10ffff < code)) = true := by
    simp only [IsScalar, Bool.or_eq_true, Bool.and_eq_true, decide_eq_true_eq] at h ⊢
    omega
  have hlow : 0x800 ≤ code := by
    rw [IsScalar] at h
    omega
  rw [encode, if_neg (by omega), if_neg (by omega), if_pos hexcluded]
  rfl

/-- The bytes of a well-formed character encode its code point. -/
theorem bytes_headGlyph {b : UInt8} {s : Text} {code : Nat}
    (h : (headGlyph b s).code? = some code) : (headGlyph b s).bytes = encode code := by
  revert h
  fun_cases headGlyph b s with
  | case1 s hb =>
    intro h
    obtain rfl := Option.some.inj h
    rw [encode_one (UInt8.lt_iff_toNat_lt.1 hb), UInt8.ofNat_toNat]
  | case2 hb hrange c rest hc =>
    intro h
    obtain rfl := Option.some.inj h
    obtain ⟨hlow, hhigh⟩ := toNat_range hrange
    have hlow : 194 ≤ b.toNat := hlow
    have hhigh : b.toNat ≤ 223 := hhigh
    obtain ⟨hc, hpayload⟩ := toNat_of_isContinuation hc
    rw [encode_two (by omega) (by omega), ofNat_eq (b := b) (by omega),
      ofNat_eq (b := c) (by omega)]
  | case5 hb htwo hrange c d rest low high hcd =>
    intro h
    have hcode : b.toNat % 16 * 4096 + payload c * 64 + payload d = code := Option.some.inj h
    obtain ⟨hlow, hhigh⟩ := toNat_range hrange
    have hlow : 224 ≤ b.toNat := hlow
    have hhigh : b.toNat ≤ 239 := hhigh
    rw [Bool.and_eq_true] at hcd
    obtain ⟨hd, hpayload⟩ := toNat_of_isContinuation hcd.2
    obtain ⟨hc, hmin, hmax⟩ := toNat_of_second (by decide) (by decide) hcd.1
    -- The second byte keeps out what is too short and the surrogates.
    have hmin : b.toNat = 224 → 160 ≤ c.toNat := hmin
    have hmax : b.toNat = 237 → c.toNat ≤ 159 := hmax
    have hscalar : IsScalar code := ⟨by omega, by omega⟩
    rw [encode_three hscalar (by omega) (by omega), ofNat_eq (b := b) (by omega),
      ofNat_eq (b := c) (by omega), ofNat_eq (b := d) (by omega)]
  | case8 hb htwo hthree hrange c d e rest low high hcde =>
    intro h
    have hcode : b.toNat % 8 * 262144 + payload c * 4096 + payload d * 64 + payload e = code :=
      Option.some.inj h
    obtain ⟨hlow, hhigh⟩ := toNat_range hrange
    have hlow : 240 ≤ b.toNat := hlow
    have hhigh : b.toNat ≤ 244 := hhigh
    rw [Bool.and_eq_true, Bool.and_eq_true] at hcde
    obtain ⟨he, hpayload⟩ := toNat_of_isContinuation hcde.2
    obtain ⟨hd, hpayload'⟩ := toNat_of_isContinuation hcde.1.2
    obtain ⟨hc, hmin, hmax⟩ := toNat_of_second (by decide) (by decide) hcde.1.1
    -- The second byte keeps out what is too short and what is above U+10FFFF.
    have hmin : b.toNat = 240 → 144 ≤ c.toNat := hmin
    have hmax : b.toNat = 244 → c.toNat ≤ 143 := hmax
    have hscalar : IsScalar code := ⟨by omega, by omega⟩
    rw [encode_four hscalar (by omega), ofNat_eq (b := b) (by omega),
      ofNat_eq (b := c) (by omega), ofNat_eq (b := d) (by omega), ofNat_eq (b := e) (by omega)]
  | _ =>
    intro h
    cases h

/-- The code point of a well-formed character is one: any other number would give the bytes of
U+FFFD, which are read as U+FFFD. -/
theorem isScalar_of_headGlyph {b : UInt8} {s : Text} {code : Nat}
    (h : (headGlyph b s).code? = some code) : IsScalar code := by
  by_contra hscalar
  have hbytes := bytes_headGlyph h
  rw [encode_of_not_isScalar hscalar] at hbytes
  rcases headGlyph_cases b s with hstray | ⟨tail, rest, code', rfl, -, hread⟩
  · rw [hstray] at h
    cases h
  · rw [hread] at h hbytes
    obtain ⟨rfl, rfl⟩ := List.cons.inj hbytes
    obtain rfl := Option.some.inj h
    have hreplacement : (headGlyph 0xef [0xbf, 0xbd]).code? = some replacement := by decide
    have hcode : (headGlyph 0xef [0xbf, 0xbd]).code? = some code' := congrArg Glyph.code? (hread [])
    obtain rfl := Option.some.inj (hreplacement.symm.trans hcode)
    exact hscalar ⟨by decide, by decide⟩

/-! Texts without stray bytes. -/

theorem repaired_cons_append {b : UInt8} {tail rest : Text}
    (h : (headGlyph b (tail ++ rest)).bytes = b :: tail) :
    repaired (b :: (tail ++ rest)) = (headGlyph b (tail ++ rest)).repaired ++ rest.repaired := by
  rw [repaired, glyphs_cons_append h, List.flatMap_cons, ← repaired]

/-- U+FFFD takes more bytes than the stray byte that it stands for. -/
theorem length_repaired (s : Text) :
    s.length ≤ s.repaired.length ∧ (s.repaired.length ≤ s.length → s.isUtf8 = true) := by
  induction s using glyphInduction with
  | nil => exact ⟨Nat.le_refl 0, fun _ => rfl⟩
  | cons b tail rest hbytes htail ih =>
    have hglyphs := glyphs_cons_append hbytes
    have hlength : (b :: (tail ++ rest)).length = (b :: tail).length + rest.length := by
      rw [← List.cons_append, List.length_append]
    rw [repaired_cons_append hbytes, List.length_append, hlength, isUtf8, hglyphs, List.all_cons,
      ← isUtf8, Glyph.repaired]
    obtain ⟨hle, hutf8⟩ := ih
    rcases headGlyph_cases b (tail ++ rest) with hstray | ⟨_, _, code, hsplit, -, hread⟩
    · have hone : (b :: tail).length = 1 := by
        rw [← hbytes, hstray]
        rfl
      have hthree : (encode replacement).length = 3 := rfl
      rw [hstray, hone, if_neg (by simp), hthree]
      exact ⟨by omega, fun h => by omega⟩
    · have hsome : (headGlyph b (tail ++ rest)).code?.isSome = true := by
        rw [hsplit, hread]
        rfl
      rw [if_pos hsome, hbytes, hsome, Bool.true_and]
      exact ⟨by omega, fun h => hutf8 (by omega)⟩

theorem repaired_eq_self_iff {s : Text} : s.repaired = s ↔ s.isUtf8 = true := by
  constructor
  · intro h
    exact (length_repaired s).2 (Nat.le_of_eq (congrArg List.length h))
  · intro h
    rw [isUtf8, List.all_eq_true] at h
    induction s using glyphInduction with
    | nil => rfl
    | cons b tail rest hbytes htail ih =>
      rw [glyphs_cons_append hbytes, List.forall_mem_cons] at h
      rw [repaired_cons_append hbytes, Glyph.repaired, if_pos h.1, hbytes, ih h.2]
      rfl

/-- A text whose repair holds no U+FFFD has no stray bytes. -/
theorem isUtf8_of_repaired {s : Text} (h : 0xef ∉ s.repaired) : s.isUtf8 = true := by
  rw [isUtf8, List.all_eq_true]
  intro g hg
  by_contra hstray
  refine h (List.mem_flatMap.2 ⟨g, hg, ?_⟩)
  rw [Glyph.repaired, if_neg hstray]
  decide

/-- Texts with the same repair are the same, if it holds no U+FFFD. -/
theorem eq_of_repaired {s t : Text} (ht : 0xef ∉ t.repaired) (h : s.repaired = t.repaired) :
    s = t := by
  have hs := repaired_eq_self_iff.2 (isUtf8_of_repaired (h ▸ ht))
  have ht := repaired_eq_self_iff.2 (isUtf8_of_repaired ht)
  rw [← hs, h, ht]

end DocScribe.Text
