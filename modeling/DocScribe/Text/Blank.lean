import DocScribe.Text.Glyph

/-!
# Blanks

The 25 white-space characters and the trimming of texts. `blankWidth` says how many bytes the white
space at the head of a text takes, so trimming works on bytes and never splits a character.
-/

namespace DocScribe.Text

/-- The bytes taken by the white-space character at the head of the text, 0 if there is none. The
characters are U+0009 to U+000D, U+0020, U+0085, U+00A0, U+1680, U+2000 to U+200A, U+2028, U+2029,
U+202F, U+205F and U+3000. -/
def blankWidth : Text → Nat
  | 0x09 :: _ => 1
  | 0x0a :: _ => 1
  | 0x0b :: _ => 1
  | 0x0c :: _ => 1
  | 0x0d :: _ => 1
  | 0x20 :: _ => 1
  | 0xc2 :: 0x85 :: _ => 2
  | 0xc2 :: 0xa0 :: _ => 2
  | 0xe1 :: 0x9a :: 0x80 :: _ => 3
  | 0xe2 :: 0x80 :: b :: _ =>
    if (0x80 ≤ b && b ≤ 0x8a) || b == 0xa8 || b == 0xa9 || b == 0xaf then 3 else 0
  | 0xe2 :: 0x81 :: 0x9f :: _ => 3
  | 0xe3 :: 0x80 :: 0x80 :: _ => 3
  | _ => 0

/-- The text after its first `skip` bytes and the white space that follows them. -/
def trimAfter : (skip : Nat) → Text → Text
  | _, [] => []
  | skip + 1, _ :: s => trimAfter skip s
  | 0, b :: s =>
    match blankWidth (b :: s) with
    | 0 => b :: s
    | w + 1 => trimAfter w s

/-- The text without the white space at its start. -/
def trimStart (s : Text) : Text :=
  trimAfter 0 s

/-- Whether the text is made of white space only. -/
def isBlank (s : Text) : Bool :=
  s.trimStart.isEmpty

/-- The text without the white space at its end. -/
def trimEnd : Text → Text
  | [] => []
  | b :: s => if isBlank (b :: s) then [] else b :: trimEnd s

/-- The text without the white space at both ends. -/
def trim (s : Text) : Text :=
  s.trimStart.trimEnd

/-- The white space at the start of the text. -/
def indent (s : Text) : Text :=
  s.take (s.length - s.trimStart.length)

theorem trimAfter_suffix (skip : Nat) (s : Text) : trimAfter skip s <:+ s := by
  induction s generalizing skip with
  | nil => cases skip <;> exact List.suffix_refl _
  | cons b s ih =>
    cases skip with
    | succ k => exact (ih k).trans (List.suffix_cons b s)
    | zero =>
      simp only [trimAfter]
      split
      · exact List.suffix_refl _
      · exact (ih _).trans (List.suffix_cons b s)

theorem trimStart_suffix (s : Text) : s.trimStart <:+ s :=
  trimAfter_suffix 0 s

/-- A text is its indentation and what trimming leaves. -/
theorem indent_append_trimStart (s : Text) : s.indent ++ s.trimStart = s := by
  obtain ⟨front, h⟩ := s.trimStart_suffix
  have hlen : s.length = front.length + s.trimStart.length := by
    rw [← List.length_append, h]
  have htake : s.take front.length = front := by
    conv => lhs; rw [← h]
    simp
  rw [indent, hlen, Nat.add_sub_cancel, htake, h]

theorem trimEnd_append_blank (s : Text) : ∃ t, isBlank t = true ∧ s.trimEnd ++ t = s := by
  induction s with
  | nil => exact ⟨[], rfl, rfl⟩
  | cons b s ih =>
    unfold trimEnd
    split
    · next h => exact ⟨b :: s, h, rfl⟩
    · obtain ⟨t, ht, hs⟩ := ih
      exact ⟨t, ht, by simp [hs]⟩

end DocScribe.Text
