import DocScribe.Template.Token
import DocScribe.Text.Quoted
import DocScribe.Proofs.Number.Digits
import DocScribe.Proofs.Text.Encoding

/-!
# Quoted text is read back

Quoted text is a string as templates have it. `Spells piece bytes` says that a piece of text between
quotes stands for some bytes: the search for the closing quote passes over it, and its escapes are
read as those bytes, whatever follows. The piece of each character stands for the bytes of the
character (`spells_quoteGlyph`) and pieces can be joined, so the whole of quoted text is recognised
(`takeQuoted_inner`) and read back, stray bytes included (`unquote?_inner`).
-/

namespace DocScribe.Text

open Template (takeQuoted unquote? simpleEscape? numberEscape?)

/-- What stands between the quotes. -/
def inner (s : Text) : Text :=
  s.glyphs.flatMap quoteGlyph

theorem quoted_eq (s : Text) : s.quoted = quote :: s.inner ++ [quote] := rfl

/-- Between quotes the piece stands for the bytes, whatever follows it. -/
structure Spells (piece bytes : Text) : Prop where
  take : ∀ s, takeQuoted (piece ++ s) = (takeQuoted s).map fun p => (piece ++ p.1, p.2)
  /-- It is read in at most as many steps as it has bytes. -/
  read : ∃ steps, steps ≤ piece.length ∧
    ∀ fuel s, unquote? (fuel + steps) (piece ++ s) = (unquote? fuel s).map (bytes ++ ·)
  lf_not_mem : lf ∉ piece

theorem Spells.nil : Spells [] [] where
  take s := by simp
  read := ⟨0, Nat.le_refl 0, fun fuel s => by simp⟩
  lf_not_mem := List.not_mem_nil

theorem Spells.append {piece piece' bytes bytes' : Text} (h : Spells piece bytes)
    (h' : Spells piece' bytes') : Spells (piece ++ piece') (bytes ++ bytes') where
  take s := by
    rw [List.append_assoc, h.take, h'.take, Option.map_map]
    simp [Function.comp_def]
  read := by
    obtain ⟨steps, hsteps, hread⟩ := h.read
    obtain ⟨steps', hsteps', hread'⟩ := h'.read
    refine ⟨steps' + steps, by rw [List.length_append]; omega, fun fuel s => ?_⟩
    rw [List.append_assoc, ← Nat.add_assoc, hread, hread', Option.map_map]
    simp [Function.comp_def]
  lf_not_mem := by
    rw [List.mem_append, not_or]
    exact ⟨h.lf_not_mem, h'.lf_not_mem⟩

/-- A byte that stands for itself between quotes. -/
def IsPlain (b : UInt8) : Prop :=
  b ≠ quote ∧ b ≠ backslash ∧ b ≠ lf

theorem takeQuoted_cons {b : UInt8} (h : IsPlain b) (s : Text) :
    takeQuoted (b :: s) = (takeQuoted s).map fun p => (b :: p.1, p.2) := by
  obtain ⟨hquote, hbackslash, hlf⟩ := h
  rw [Template.takeQuoted.eq_4 _ _ hquote (fun c t hb _ => hbackslash hb),
    if_neg (by simpa using hlf)]

theorem spells_byte {b : UInt8} (h : IsPlain b) : Spells [b] [b] where
  take := takeQuoted_cons h
  read := by
    refine ⟨1, Nat.le_refl 1, fun fuel s => ?_⟩
    rw [List.singleton_append, Template.unquote?.eq_5 _ _ _ (fun c t hb _ => h.2.1 hb)
      (fun hb _ => h.2.1 hb)]
    rfl
  lf_not_mem := by simpa using h.2.2.symm

theorem spells_plain {piece : Text} (h : ∀ b ∈ piece, IsPlain b) : Spells piece piece := by
  induction piece with
  | nil => exact .nil
  | cons b piece ih =>
    obtain ⟨hb, hrest⟩ := List.forall_mem_cons.1 h
    exact (spells_byte hb).append (ih hrest)

/-! Escapes. -/

theorem takeQuoted_backslash {letter : UInt8} (h : letter ≠ lf) (s : Text) :
    takeQuoted (backslash :: letter :: s) =
      (takeQuoted s).map fun p => (backslash :: letter :: p.1, p.2) := by
  rw [takeQuoted, if_neg (by simpa using h)]

theorem spells_simple {letter c : UInt8} (h : simpleEscape? letter = some c) :
    Spells [backslash, letter] [c] where
  take := by
    refine takeQuoted_backslash ?_
    rintro rfl
    cases h
  read := by
    refine ⟨1, by simp, fun fuel s => ?_⟩
    show unquote? (fuel + 1) (backslash :: letter :: s) = _
    rw [unquote?, h]
    rfl
  lf_not_mem := by
    have hletter : letter ≠ lf := by
      rintro rfl
      cases h
    simpa [backslash, lf] using hletter.symm

theorem spells_hex (width n : Nat) : Spells (Number.hex width n) (Number.hex width n) := by
  refine spells_plain fun b hb => ⟨?_, ?_, ?_⟩
  all_goals
    rintro rfl
    exact Number.not_mem_hex (by decide) width n hb

theorem spells_number {mark : UInt8} {width n : Nat} {bytes : Text}
    (hmark : simpleEscape? mark = none) (hlf : mark ≠ lf)
    (h : ∀ s, numberEscape? mark (Number.hex width n ++ s) = some (bytes, s)) :
    Spells (backslash :: mark :: Number.hex width n) bytes where
  take s := by
    have hdigits := (spells_hex width n).take s
    rw [List.cons_append, List.cons_append, takeQuoted_backslash hlf, hdigits, Option.map_map]
    rfl
  read := by
    refine ⟨1, by simp, fun fuel s => ?_⟩
    rw [List.cons_append, List.cons_append, unquote?, hmark]
    dsimp only
    rw [h]
  lf_not_mem := by
    simp only [List.mem_cons, not_or]
    exact ⟨by decide, hlf.symm, (spells_hex width n).lf_not_mem⟩

/-- The digits of a number that fits are cut off by their count. -/
theorem hex_append {width n : Nat} (hwidth : 0 < width) (h : n < 16 ^ width) (s : Text) :
    ¬ (Number.hex width n ++ s).length < width ∧
      (Number.hex width n ++ s).take width = Number.hex width n ∧
      (Number.hex width n ++ s).drop width = s := by
  have hlength := Number.length_hex hwidth h
  refine ⟨?_, List.take_left' hlength, List.drop_left' hlength⟩
  rw [List.length_append, hlength]
  omega

theorem numberEscape?_byte {n : Nat} (h : n < 256) (s : Text) :
    numberEscape? 0x78 (Number.hex 2 n ++ s) = some ([.ofNat n], s) := by
  obtain ⟨hlength, htake, hdrop⟩ := hex_append (show 0 < 2 by decide) h s
  rw [numberEscape?]
  dsimp only
  rw [if_pos (by decide), if_neg hlength, htake, hdrop, Number.digitsValue?_hex]
  rfl

theorem numberEscape?_code {mark : UInt8} {width code : Nat}
    (hmark : mark = 0x75 ∧ width = 4 ∨ mark = 0x55 ∧ width = 8) (hcode : code < 16 ^ width)
    (scalar : IsScalar code) (s : Text) :
    numberEscape? mark (Number.hex width code ++ s) = some (encode code, s) := by
  have hvalid : ¬ (decide (code > 0x10ffff) ||
      decide (0xd800 ≤ code) && decide (code ≤ 0xdfff)) = true := by
    obtain ⟨hmax, hsurrogate⟩ := scalar
    simp only [Bool.or_eq_true, Bool.and_eq_true, decide_eq_true_eq]
    omega
  rcases hmark with ⟨rfl, rfl⟩ | ⟨rfl, rfl⟩
  · obtain ⟨hlength, htake, hdrop⟩ := hex_append (by decide) hcode s
    rw [numberEscape?]
    dsimp only
    rw [if_neg (by decide), if_pos (by decide), if_neg hlength, htake, hdrop,
      Number.digitsValue?_hex, Option.map_some, Option.bind_some, if_neg hvalid]
  · obtain ⟨hlength, htake, hdrop⟩ := hex_append (by decide) hcode s
    rw [numberEscape?]
    dsimp only
    rw [if_neg (by decide), if_neg (by decide), if_pos (by decide), if_neg hlength, htake, hdrop,
      Number.digitsValue?_hex, Option.map_some, Option.bind_some, if_neg hvalid]

/-! Characters. -/

theorem spells_stray (b : UInt8) : Spells (quoteGlyph ⟨[b], none⟩) [b] := by
  have hpiece : quoteGlyph ⟨[b], none⟩ = backslash :: 0x78 :: Number.hex 2 b.toNat := by
    rw [quoteGlyph, List.flatMap_singleton]
    rfl
  have hescape := numberEscape?_byte (UInt8.toNat_lt b)
  rw [UInt8.ofNat_toNat] at hescape
  rw [hpiece]
  exact spells_number rfl (by decide) hescape

theorem not_isPrintable_lf : ¬ isPrintable 0x0a = true := by decide +kernel

/-- A printable character needs no escape, quotes and backslashes apart. -/
theorem isPlain_of_mem_headGlyph {b c : UInt8} {s : Text} {code : Nat}
    (hcode : (headGlyph b s).code? = some code) (hspecial : ¬ (code == 0x22 || code == 0x5c) = true)
    (hprintable : isPrintable code = true) (hc : c ∈ (headGlyph b s).bytes) : IsPlain c := by
  have hne : ∀ special : UInt8, special < 0x80 → special.toNat ≠ code → c ≠ special := by
    rintro special hlt hne rfl
    rw [code?_of_mem_headGlyph hlt hc, Option.some.injEq] at hcode
    exact hne hcode
  rw [Bool.or_eq_true, beq_iff_eq, beq_iff_eq, not_or] at hspecial
  refine ⟨hne quote (by decide) (Ne.symm hspecial.1), hne backslash (by decide)
    (Ne.symm hspecial.2), hne lf (by decide) ?_⟩
  rintro rfl
  exact not_isPrintable_lf hprintable

theorem simpleEscape?_of_shortEscape? {code : Nat} {letter : UInt8}
    (h : shortEscape? code = some letter) :
    simpleEscape? letter = some (.ofNat code) ∧ code < 0x80 := by
  revert h
  fun_cases shortEscape? code
  all_goals
    intro h
    cases h
  all_goals exact ⟨rfl, by decide⟩

/-- A character that is not printable is escaped as its code point. -/
theorem spells_unprintable {g : Glyph} {code : Nat} (hcode : g.code? = some code)
    (hbytes : g.bytes = encode code) (scalar : IsScalar code)
    (hspecial : ¬ (code == 0x22 || code == 0x5c) = true) (hprintable : ¬ isPrintable code = true) :
    Spells (quoteGlyph g) g.bytes := by
  rw [quoteGlyph, hcode, hbytes]
  dsimp only
  rw [if_neg hspecial, if_neg hprintable]
  cases hshort : shortEscape? code with
  | some letter =>
    obtain ⟨hletter, hlt⟩ := simpleEscape?_of_shortEscape? hshort
    rw [encode_one hlt]
    exact spells_simple hletter
  | none =>
    dsimp only
    split
    · next hcontrol =>
      have hlt : code < 0x80 := by
        rw [Bool.or_eq_true, decide_eq_true_eq, beq_iff_eq] at hcontrol
        omega
      rw [encode_one hlt]
      exact spells_number rfl (by decide) (numberEscape?_byte (Nat.lt_trans hlt (by decide)))
    · split
      · next hlt =>
        have hfour : code < 16 ^ 4 := hlt
        exact spells_number rfl (by decide) (numberEscape?_code (.inl ⟨rfl, rfl⟩) hfour scalar)
      · have height : code < 16 ^ 8 := Nat.lt_of_le_of_lt scalar.1 (by decide)
        exact spells_number rfl (by decide) (numberEscape?_code (.inr ⟨rfl, rfl⟩) height scalar)

/-- A character between quotes stands for its bytes. -/
theorem spells_quoteGlyph (b : UInt8) (s : Text) :
    Spells (quoteGlyph (headGlyph b s)) (headGlyph b s).bytes := by
  cases hcode : (headGlyph b s).code? with
  | none =>
    rw [headGlyph_of_stray hcode]
    exact spells_stray b
  | some code =>
    have hbytes := bytes_headGlyph hcode
    by_cases hspecial : (code == 0x22 || code == 0x5c) = true
    · rw [quoteGlyph, hcode]
      dsimp only
      rw [if_pos hspecial, hbytes]
      simp only [Bool.or_eq_true, beq_iff_eq] at hspecial
      rcases hspecial with rfl | rfl
      · exact spells_simple rfl
      · exact spells_simple rfl
    · by_cases hprintable : isPrintable code = true
      · rw [quoteGlyph, hcode]
        dsimp only
        rw [if_neg hspecial, if_pos hprintable]
        exact spells_plain fun c hc => isPlain_of_mem_headGlyph hcode hspecial hprintable hc
      · exact spells_unprintable hcode hbytes (isScalar_of_headGlyph hcode) hspecial hprintable

/-! Texts. -/

theorem spells_inner (s : Text) : Spells s.inner s := by
  induction s using glyphInduction with
  | nil => exact .nil
  | cons b tail rest hbytes htail ih =>
    have hhead := spells_quoteGlyph b (tail ++ rest)
    rw [inner, glyphs_cons_append hbytes, List.flatMap_cons, ← List.cons_append]
    rw [hbytes] at hhead
    exact hhead.append ih

/-- The closing quote of quoted text is found whatever follows. -/
theorem takeQuoted_inner (s rest : Text) :
    takeQuoted (s.inner ++ quote :: rest) = some (s.inner, rest) := by
  rw [(spells_inner s).take, takeQuoted]
  simp

/-- Quoted text is read back as it was. -/
theorem unquote?_inner (s : Text) : unquote? (s.inner.length + 1) s.inner = some s := by
  obtain ⟨steps, hsteps, hread⟩ := (spells_inner s).read
  obtain ⟨spare, hspare⟩ := Nat.exists_eq_add_of_le hsteps
  have hfinal := hread (spare + 1) []
  rw [List.append_nil, unquote?, Option.map_some, List.append_nil] at hfinal
  rw [hspare, show steps + spare + 1 = spare + 1 + steps by omega, hfinal]

theorem lf_not_mem_quoted (s : Text) : lf ∉ s.quoted := by
  have hinner := (spells_inner s).lf_not_mem
  rw [quoted_eq]
  simp [hinner, quote, lf]

end DocScribe.Text
