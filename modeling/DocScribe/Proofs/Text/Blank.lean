import DocScribe.Text.Blank
import Mathlib.Data.List.Basic

/-!
# White space

A blank text holds no ASCII byte that means anything in code (`isBlankByte`), and the indentation
of a text is blank by itself, so it can be put before another text. What is appended to a text
after a byte that no white space has leaves its indentation alone, unless the text is blank
(`indent_append_cons`). A trimmed text does not end in a carriage return.
-/

namespace DocScribe.Text

/-- A byte of a white-space character: an ASCII blank, or a byte outside ASCII. -/
def isBlankByte (b : UInt8) : Bool :=
  (0x09 ≤ b && b ≤ 0x0d) || b == 0x20 || 0x80 ≤ b

/-- The white-space character at the head of a text: its bytes are blank, and it is read from them
whatever follows. -/
theorem blankWidth_spec {s : Text} (h : blankWidth s ≠ 0) :
    blankWidth s ≤ s.length ∧ (∀ b ∈ s.take (blankWidth s), isBlankByte b = true) ∧
      ∀ other, blankWidth (s.take (blankWidth s) ++ other) = blankWidth s := by
  fun_cases blankWidth s with
  | case10 b rest hb =>
    have hlow : 0x80 ≤ b := by
      simp only [Bool.or_eq_true, Bool.and_eq_true, decide_eq_true_eq, beq_iff_eq] at hb
      rcases hb with ((⟨hlow, -⟩ | rfl) | rfl) | rfl
      · exact hlow
      all_goals decide
    refine ⟨by simp, ?_, fun other => if_pos hb⟩
    simp [isBlankByte, hlow]
  | case11 b rest hb => simp [blankWidth, hb] at h
  | case14 => simp_all [blankWidth]
  | _ => exact ⟨by simp, by simp [isBlankByte], fun other => rfl⟩

theorem length_trimAfter_le (skip : Nat) (s : Text) :
    (trimAfter skip s).length ≤ s.length - skip := by
  induction s generalizing skip with
  | nil => cases skip <;> simp [trimAfter]
  | cons b s ih =>
    cases skip with
    | succ k =>
      have hrest := ih k
      rw [trimAfter, List.length_cons]
      omega
    | zero =>
      rw [trimAfter]
      split
      · simp
      · have hrest := ih (by assumption)
        rw [List.length_cons]
        omega

theorem exists_cons_of_append_eq_cons {front back s : Text} {b : UInt8}
    (h : front ++ back = b :: s) (hback : back.length ≤ s.length) :
    ∃ rest, front = b :: rest ∧ rest ++ back = s := by
  rcases List.append_eq_cons_iff.1 h with ⟨-, rfl⟩ | ⟨rest, rfl, rfl⟩
  · rw [List.length_cons] at hback
    omega
  · exact ⟨rest, rfl, rfl⟩

theorem trimAfter_of_blankWidth {b : UInt8} {s : Text} {w : Nat}
    (h : blankWidth (b :: s) = w + 1) : trimAfter 0 (b :: s) = trimAfter w s := by
  simp only [trimAfter, h]

/-- What trimming takes off is blank and is trimmed to nothing by itself. -/
theorem trimAfter_front {skip : Nat} {s front : Text} (hfront : front ++ trimAfter skip s = s)
    (hskip : skip ≤ s.length) (hbytes : ∀ b ∈ s.take skip, isBlankByte b = true) :
    trimAfter skip front = [] ∧ ∀ b ∈ front, isBlankByte b = true := by
  induction s generalizing skip front with
  | nil =>
    obtain rfl : front = [] := (List.append_eq_nil_iff.1 hfront).1
    cases skip <;> simp [trimAfter]
  | cons b s ih =>
    cases skip with
    | succ k =>
      rw [trimAfter] at hfront
      rw [List.take_succ_cons, List.forall_mem_cons] at hbytes
      obtain ⟨rest, rfl, hrest⟩ := exists_cons_of_append_eq_cons hfront
        (Nat.le_trans (length_trimAfter_le k s) (Nat.sub_le _ _))
      obtain ⟨htrim, hblank⟩ := ih hrest (by simpa using hskip) hbytes.2
      exact ⟨htrim, List.forall_mem_cons.2 ⟨hbytes.1, hblank⟩⟩
    | zero =>
      cases hwidth : blankWidth (b :: s) with
      | zero =>
        rw [trimAfter, hwidth] at hfront
        obtain rfl : front = [] := List.append_left_eq_self.1 hfront
        simp [trimAfter]
      | succ w =>
        -- The character read here lies in `front` as a whole, so it is read there too.
        obtain ⟨hle, hchar, hlocal⟩ := blankWidth_spec (s := b :: s) (by omega)
        rw [hwidth, List.take_succ_cons] at hchar hlocal
        rw [hwidth, List.length_cons] at hle
        rw [List.forall_mem_cons] at hchar
        rw [trimAfter_of_blankWidth hwidth] at hfront
        have hlen := length_trimAfter_le w s
        obtain ⟨rest, rfl, hrest⟩ := exists_cons_of_append_eq_cons hfront (by omega)
        obtain ⟨htrim, hblank⟩ := ih hrest (by omega) hchar.2
        have hfirst : rest = s.take w ++ rest.drop w := by
          have hlenrest := congrArg List.length hrest
          rw [List.length_append] at hlenrest
          rw [← hrest, List.take_append_of_le_length (by omega), List.take_append_drop]
        have hread : blankWidth (b :: rest) = w + 1 := by
          rw [hfirst]
          exact hlocal (rest.drop w)
        refine ⟨?_, List.forall_mem_cons.2 ⟨hchar.1, hblank⟩⟩
        rw [trimAfter_of_blankWidth hread, htrim]

theorem indent_blank (s : Text) :
    isBlank s.indent = true ∧ ∀ b ∈ s.indent, isBlankByte b = true := by
  have hfront : s.indent ++ trimAfter 0 s = s := s.indent_append_trimStart
  obtain ⟨htrim, hbytes⟩ := trimAfter_front hfront (Nat.zero_le _) (by simp)
  exact ⟨by rw [isBlank, trimStart, htrim, List.isEmpty_nil], hbytes⟩

theorem isBlankByte_of_isBlank {s : Text} (h : isBlank s = true) {b : UInt8} (hb : b ∈ s) :
    isBlankByte b = true := by
  rw [isBlank, List.isEmpty_iff] at h
  have hindent := s.indent_append_trimStart
  rw [h, List.append_nil] at hindent
  exact s.indent_blank.2 b (hindent.symm ▸ hb)

theorem isBlank_cons_of_ascii {b : UInt8} {s : Text} (hb : blankWidth (b :: s) = 1) :
    isBlank (b :: s) = isBlank s := by
  rw [isBlank, isBlank, trimStart, trimStart, trimAfter_of_blankWidth hb]

/-- A byte that no white space has completes no white-space character. -/
theorem blankWidth_append_cons (s : Text) {b : UInt8} (hb : isBlankByte b = false) (t : Text) :
    blankWidth (s ++ b :: t) = blankWidth s := by
  by_cases hwidth : blankWidth (s ++ b :: t) = 0
  · rw [hwidth]
    by_contra hno
    obtain ⟨hle, -, hlocal⟩ := blankWidth_spec (s := s) (Ne.symm hno)
    have hread := hlocal (s.drop (blankWidth s) ++ b :: t)
    rw [← List.append_assoc, List.take_append_drop, hwidth] at hread
    exact hno hread
  · obtain ⟨hle, hbytes, hlocal⟩ := blankWidth_spec hwidth
    -- The character read here ends before `b`, so it is read off `s` alone.
    have hshort : blankWidth (s ++ b :: t) ≤ s.length := by
      by_contra hlong
      have hmem : b ∈ (s ++ b :: t).take (blankWidth (s ++ b :: t)) := by
        rw [List.take_append, List.mem_append]
        obtain ⟨k, hk⟩ := Nat.exists_eq_add_of_lt (Nat.not_le.1 hlong)
        rw [show blankWidth (s ++ b :: t) - s.length = k + 1 by omega]
        exact .inr List.mem_cons_self
      rw [hbytes b hmem] at hb
      cases hb
    have hread := hlocal (s.drop (blankWidth (s ++ b :: t)))
    rw [List.take_append_of_le_length hshort, List.take_append_drop] at hread
    exact hread.symm

theorem trimAfter_append_cons {skip : Nat} {s : Text} (hs : trimAfter skip s ≠ []) {b : UInt8}
    (hb : isBlankByte b = false) (t : Text) :
    trimAfter skip (s ++ b :: t) = trimAfter skip s ++ b :: t := by
  induction s generalizing skip with
  | nil => cases skip <;> exact absurd rfl hs
  | cons c s ih =>
    cases skip with
    | succ k => exact ih hs
    | zero =>
      have hwidth := blankWidth_append_cons (c :: s) hb t
      rw [List.cons_append] at hwidth ⊢
      cases hfirst : blankWidth (c :: s) with
      | zero => simp only [trimAfter, hwidth, hfirst, List.cons_append]
      | succ w =>
        rw [trimAfter_of_blankWidth hfirst] at hs ⊢
        rw [trimAfter_of_blankWidth (hwidth.trans hfirst)]
        exact ih hs

/-- What follows a text that is not blank does not add to its indentation. -/
theorem indent_append_cons {s : Text} (hs : isBlank s = false) {b : UInt8}
    (hb : isBlankByte b = false) (t : Text) : indent (s ++ b :: t) = indent s := by
  have hne : trimAfter 0 s ≠ [] := fun hnil => by
    rw [isBlank, trimStart, hnil] at hs
    cases hs
  have htrim : trimStart (s ++ b :: t) = trimStart s ++ b :: t := trimAfter_append_cons hne hb t
  rw [indent, indent, htrim, List.length_append, List.length_append, Nat.add_sub_add_right,
    List.take_append_of_le_length (Nat.sub_le _ _)]

/-- A trimmed text does not end in a carriage return. -/
theorem getLast?_trimEnd_ne_cr (s : Text) : s.trimEnd.getLast? ≠ some cr := by
  induction s with
  | nil => simp [trimEnd]
  | cons b s ih =>
    rw [trimEnd]
    split
    · simp
    · next hblank =>
      cases hs : trimEnd s with
      | nil =>
        rw [List.getLast?_singleton]
        intro hb
        obtain ⟨t, ht, hts⟩ := trimEnd_append_blank s
        rw [hs, List.nil_append] at hts
        rw [Option.some.inj hb, isBlank_cons_of_ascii rfl, ← hts] at hblank
        exact hblank ht
      | cons c rest =>
        rw [hs] at ih
        rwa [List.getLast?_cons_cons]

theorem mem_of_mem_trim {s : Text} {b : UInt8} (h : b ∈ s.trim) : b ∈ s := by
  obtain ⟨t, -, ht⟩ := trimEnd_append_blank s.trimStart
  have hstart : b ∈ s.trimStart := by
    rw [← ht]
    exact List.mem_append_left t h
  exact s.trimStart_suffix.mem hstart

end DocScribe.Text
