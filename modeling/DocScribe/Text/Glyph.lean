import DocScribe.Text.Basic

/-!
# Glyphs

A glyph is one character as it stands in a text: the bytes of a UTF-8 sequence, or a single stray
byte that belongs to none. `glyphs` cuts a text into its glyphs without losing a byte
(`flatMap_bytes_glyphs`), so a count or a cut by characters is a count or a cut of that list. A
stray byte counts as the replacement character U+FFFD.
-/

namespace DocScribe.Text

/-- The UTF-8 bytes of a code point; surrogates and numbers above U+10FFFF give U+FFFD. -/
def encode (code : Nat) : Text :=
  if code < 0x80 then [.ofNat code]
  else if code < 0x800 then [.ofNat (0xc0 + code / 64), .ofNat (0x80 + code % 64)]
  else if (0xd800 ≤ code && code ≤ 0xdfff) || 0x10ffff < code then [0xef, 0xbf, 0xbd]
  else if code < 0x10000 then
    [.ofNat (0xe0 + code / 4096), .ofNat (0x80 + code / 64 % 64), .ofNat (0x80 + code % 64)]
  else
    [.ofNat (0xf0 + code / 262144), .ofNat (0x80 + code / 4096 % 64),
      .ofNat (0x80 + code / 64 % 64), .ofNat (0x80 + code % 64)]

/-- The code point that a stray byte counts as. -/
def replacement : Nat := 0xfffd

/-- One character of a text: its bytes, and its code point unless it is a stray byte. -/
structure Glyph where
  bytes : Text
  code? : Option Nat
deriving DecidableEq, Repr

/-- The code point, U+FFFD for a stray byte. -/
def Glyph.code (g : Glyph) : Nat :=
  g.code?.getD replacement

/-- The bytes of a well-formed character, or those of U+FFFD for a stray byte. -/
def Glyph.repaired (g : Glyph) : Text :=
  if g.code?.isSome then g.bytes else encode replacement

/-- A byte that continues a UTF-8 sequence. -/
def isContinuation (b : UInt8) : Bool :=
  0x80 ≤ b && b ≤ 0xbf

/-- The six low bits of a continuation byte. -/
def payload (b : UInt8) : Nat :=
  b.toNat % 64

/-- The glyph that starts with byte `b` when `rest` follows it. A sequence is shortest-form UTF-8
without surrogates and at most U+10FFFF. -/
def headGlyph (b : UInt8) (rest : Text) : Glyph :=
  if b < 0x80 then ⟨[b], some b.toNat⟩
  else if 0xc2 ≤ b && b ≤ 0xdf then
    match rest with
    | c :: _ =>
      if isContinuation c then ⟨[b, c], some (b.toNat % 32 * 64 + payload c)⟩ else ⟨[b], none⟩
    | [] => ⟨[b], none⟩
  else if 0xe0 ≤ b && b ≤ 0xef then
    match rest with
    | c :: d :: _ =>
      let lo : UInt8 := if b == 0xe0 then 0xa0 else 0x80
      let hi : UInt8 := if b == 0xed then 0x9f else 0xbf
      if lo ≤ c && c ≤ hi && isContinuation d then
        ⟨[b, c, d], some (b.toNat % 16 * 4096 + payload c * 64 + payload d)⟩
      else ⟨[b], none⟩
    | _ => ⟨[b], none⟩
  else if 0xf0 ≤ b && b ≤ 0xf4 then
    match rest with
    | c :: d :: e :: _ =>
      let lo : UInt8 := if b == 0xf0 then 0x90 else 0x80
      let hi : UInt8 := if b == 0xf4 then 0x8f else 0xbf
      if lo ≤ c && c ≤ hi && isContinuation d && isContinuation e then
        ⟨[b, c, d, e],
          some (b.toNat % 8 * 262144 + payload c * 4096 + payload d * 64 + payload e)⟩
      else ⟨[b], none⟩
    | _ => ⟨[b], none⟩
  else ⟨[b], none⟩

/-- The glyphs of the text after its first `skip` bytes. -/
def glyphsAfter : (skip : Nat) → Text → List Glyph
  | _, [] => []
  | skip + 1, _ :: s => glyphsAfter skip s
  | 0, b :: s =>
    let g := headGlyph b s
    g :: glyphsAfter (g.bytes.length - 1) s

/-- The glyphs of the text, in order. -/
def glyphs (s : Text) : List Glyph :=
  glyphsAfter 0 s

/-- How many characters the text has. -/
def glyphCount (s : Text) : Nat :=
  s.glyphs.length

/-- The bytes of a list of glyphs. -/
def ofGlyphs (gs : List Glyph) : Text :=
  gs.flatMap Glyph.bytes

/-- Whether the text is well-formed UTF-8. -/
def isUtf8 (s : Text) : Bool :=
  s.glyphs.all fun g => g.code?.isSome

/-- The text with every stray byte replaced by U+FFFD. -/
def repaired (s : Text) : Text :=
  s.glyphs.flatMap Glyph.repaired

/-- The longest start of the text whose characters all satisfy `p`. -/
def takeGlyphs (p : Nat → Bool) (s : Text) : Text :=
  ofGlyphs (s.glyphs.takeWhile fun g => p g.code)

/-- A glyph starts with the byte it is read at, and the rest of it stands in the text. -/
theorem exists_headGlyph_bytes (b : UInt8) (rest : Text) :
    ∃ k, (headGlyph b rest).bytes = b :: rest.take k ∧ k ≤ rest.length := by
  refine ⟨(headGlyph b rest).bytes.length - 1, ?_⟩
  unfold headGlyph
  dsimp only
  repeat' split
  all_goals simp

theorem glyphsAfter_eq (skip : Nat) (s : Text) : glyphsAfter skip s = glyphs (s.drop skip) := by
  induction s generalizing skip with
  | nil => cases skip <;> rfl
  | cons b s ih =>
    cases skip with
    | zero => rfl
    | succ k => simpa [glyphsAfter] using ih k

theorem glyphs_cons (b : UInt8) (s : Text) :
    glyphs (b :: s) =
      headGlyph b s :: glyphs (s.drop ((headGlyph b s).bytes.length - 1)) := by
  rw [glyphs, glyphsAfter, glyphsAfter_eq]

/-- Cutting a text into glyphs loses no byte. -/
theorem flatMap_bytes_glyphs (s : Text) : ofGlyphs s.glyphs = s := by
  induction h : s.length using Nat.strongRecOn generalizing s with
  | ind n ih =>
    cases s with
    | nil => rfl
    | cons b s =>
      have hlt : (s.drop ((headGlyph b s).bytes.length - 1)).length < n := by
        simp at h ⊢; omega
      have hrec := ih _ hlt _ rfl
      obtain ⟨k, hk, hle⟩ := exists_headGlyph_bytes b s
      have hlen : (headGlyph b s).bytes.length - 1 = k := by rw [hk]; simp; omega
      rw [glyphs_cons]
      rw [hlen] at hrec ⊢
      simp only [ofGlyphs, List.flatMap_cons] at hrec ⊢
      rw [hrec, hk]
      simp

end DocScribe.Text
