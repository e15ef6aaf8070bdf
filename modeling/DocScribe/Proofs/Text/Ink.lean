import DocScribe.Proofs.Text.Pieces
import DocScribe.Proofs.Text.Trim

/-!
# The ink of a text

The ink of a text is what is left of it without white space. A white-space character has no byte
but its first that can start a character (`isContinuation_of_mem_take`), so a text may be cut before
such a byte and its parts be looked at one by one (`ink_append`, `isBlank_append`). Trimming takes
no ink away (`ink_trim`), and a second trimming takes nothing away (`trim_trim`).
-/

namespace DocScribe.Text

/-- The text after its first `skip` bytes, without white space. -/
def inkAfter : (skip : Nat) → Text → Text
  | _, [] => []
  | skip + 1, _ :: s => inkAfter skip s
  | 0, b :: s =>
    match blankWidth (b :: s) with
    | 0 => b :: inkAfter 0 s
    | w + 1 => inkAfter w s

/-- The text without white space. -/
def ink (s : Text) : Text :=
  inkAfter 0 s

/-! White space at the head of a text. -/

theorem blankWidth_append_of_ne_zero {s : Text} (h : blankWidth s ≠ 0) (t : Text) :
    blankWidth (s ++ t) = blankWidth s := by
  obtain ⟨-, -, hlocal⟩ := blankWidth_spec h
  have hread := hlocal (s.drop (blankWidth s) ++ t)
  rwa [← List.append_assoc, List.take_append_drop] at hread

theorem isContinuation_of_mem_tail {s : Text} :
    ∀ c ∈ (s.take (blankWidth s)).tail, isContinuation c = true := by
  fun_cases blankWidth s with
  | case10 c rest hc =>
    have hcontinues : isContinuation c = true := by
      simp only [Bool.or_eq_true, Bool.and_eq_true, decide_eq_true_eq, beq_iff_eq] at hc
      rcases hc with ((⟨hlow, hhigh⟩ | rfl) | rfl) | rfl
      · exact isContinuation_of_le (UInt8.le_refl _) (by decide) hlow hhigh
      all_goals rfl
    simpa using ⟨rfl, hcontinues⟩
  | _ => simp [isContinuation]

theorem isContinuation_of_mem_take {b : UInt8} {s : Text} {w : Nat}
    (h : blankWidth (b :: s) = w + 1) : ∀ c ∈ s.take w, isContinuation c = true := by
  have htail := isContinuation_of_mem_tail (s := b :: s)
  rwa [h, List.take_succ_cons, List.tail_cons] at htail

/-- A byte that can start a character completes no white space. -/
theorem blankWidth_append {s : Text} (hs : s ≠ []) {b : UInt8} (hb : isContinuation b = false)
    (t : Text) : blankWidth (s ++ b :: t) = blankWidth s := by
  by_cases hwidth : blankWidth s = 0
  · obtain ⟨c, s, rfl⟩ := List.exists_cons_of_ne_nil hs
    rw [hwidth]
    by_contra hno
    obtain ⟨w, hw⟩ := Nat.exists_eq_succ_of_ne_zero hno
    rw [List.cons_append] at hw
    obtain ⟨hle, -, hlocal⟩ := blankWidth_spec (s := c :: (s ++ b :: t)) (by omega)
    rw [hw, List.take_succ_cons] at hlocal
    -- The character read here ends before `b`, so it is read off the text before it alone.
    have hshort : w ≤ s.length := by
      by_contra hlong
      have hmem : b ∈ (s ++ b :: t).take w := by
        obtain ⟨k, hk⟩ := Nat.exists_eq_add_of_lt (Nat.not_le.1 hlong)
        rw [List.take_append, List.mem_append, show w - s.length = k + 1 by omega]
        exact .inr List.mem_cons_self
      rw [isContinuation_of_mem_take hw b hmem] at hb
      cases hb
    have hread := hlocal (s.drop w)
    rw [List.take_append_of_le_length hshort, List.cons_append, List.take_append_drop,
      hwidth] at hread
    cases hread
  · exact blankWidth_append_of_ne_zero hwidth _

theorem isContinuation_of_blankWidth {b : UInt8} {s : Text} (h : blankWidth (b :: s) ≠ 0) :
    isContinuation b = false := by
  by_contra hcontinues
  rw [Bool.not_eq_false] at hcontinues
  exact h (blankWidth_cons_of_isContinuation hcontinues s)

theorem le_length_of_blankWidth {b : UInt8} {s : Text} {w : Nat}
    (h : blankWidth (b :: s) = w + 1) : w ≤ s.length := by
  obtain ⟨hle, -, -⟩ := blankWidth_spec (s := b :: s) (by omega)
  rw [h, List.length_cons] at hle
  omega

/-- Goes through a text, over a white-space character or a byte of ink at a time. -/
theorem blankInduction {motive : Text → Prop} (nil : motive [])
    (ink : ∀ b s, blankWidth (b :: s) = 0 → motive s → motive (b :: s))
    (blank : ∀ b s w, blankWidth (b :: s) = w + 1 → motive (s.drop w) → motive (b :: s))
    (s : Text) : motive s := by
  induction h : s.length using Nat.strongRecOn generalizing s with
  | ind n ih =>
    cases s with
    | nil => exact nil
    | cons b s =>
      rw [List.length_cons] at h
      cases hwidth : blankWidth (b :: s) with
      | zero => exact ink b s hwidth (ih s.length (by omega) s rfl)
      | succ w =>
        refine blank b s w hwidth (ih (s.drop w).length ?_ _ rfl)
        rw [List.length_drop]
        omega

/-! The ink of a text, one step at a time. -/

theorem inkAfter_eq_drop (skip : Nat) (s : Text) : inkAfter skip s = ink (s.drop skip) :=
  eq_drop_of_skips (fun skip => by cases skip <;> rfl) (fun _ _ _ => rfl) skip s

theorem trimAfter_eq_drop (skip : Nat) (s : Text) :
    trimAfter skip s = trimStart (s.drop skip) :=
  eq_drop_of_skips (fun skip => by cases skip <;> rfl) (fun _ _ _ => rfl) skip s

section Step

variable {b : UInt8} {s : Text}

theorem ink_cons (h : blankWidth (b :: s) = 0) : ink (b :: s) = b :: ink s := by
  simp only [ink, inkAfter, h]

variable {w : Nat} (h : blankWidth (b :: s) = w + 1)
include h

theorem ink_cons_blank : ink (b :: s) = ink (s.drop w) := by
  rw [← inkAfter_eq_drop]
  simp only [ink, inkAfter, h]

theorem trimStart_cons_blank : trimStart (b :: s) = trimStart (s.drop w) := by
  rw [← trimAfter_eq_drop, trimStart, trimAfter_of_blankWidth h]

theorem trim_cons_blank : trim (b :: s) = trim (s.drop w) := by
  rw [trim, trimStart_cons_blank h, trim]

theorem isBlank_cons_blank : isBlank (b :: s) = isBlank (s.drop w) := by
  rw [isBlank, trimStart_cons_blank h, isBlank]

end Step

theorem isBlank_iff_ink {s : Text} : isBlank s = true ↔ ink s = [] := by
  induction s using blankInduction with
  | nil => exact iff_of_true rfl rfl
  | ink b s h ih => simp [isBlank_cons_of_blankWidth h, ink_cons h]
  | blank b s w h ih => rw [isBlank_cons_blank h, ink_cons_blank h, ih]

theorem blankWidth_trimStart (s : Text) : blankWidth (trimStart s) = 0 := by
  induction s using blankInduction with
  | nil => rfl
  | ink b s h ih => rwa [trimStart_of_blankWidth h]
  | blank b s w h ih => rwa [trimStart_cons_blank h]

theorem ink_trimStart (s : Text) : ink (trimStart s) = ink s := by
  induction s using blankInduction with
  | nil => rfl
  | ink b s h ih => rw [trimStart_of_blankWidth h]
  | blank b s w h ih => rw [trimStart_cons_blank h, ih, ink_cons_blank h]

/-! Cutting a text before a byte that can start a character. -/

section Cut

variable {b : UInt8} (hb : isContinuation b = false)
include hb

theorem ink_append (s t : Text) : ink (s ++ b :: t) = ink s ++ ink (b :: t) := by
  induction s using blankInduction with
  | nil => rfl
  | ink c s h ih =>
    have hwidth := blankWidth_append (List.cons_ne_nil c s) hb t
    rw [h, List.cons_append] at hwidth
    rw [List.cons_append, ink_cons hwidth, ih, ink_cons h, List.cons_append]
  | blank c s w h ih =>
    have hwidth := blankWidth_append (List.cons_ne_nil c s) hb t
    rw [h, List.cons_append] at hwidth
    rw [List.cons_append, ink_cons_blank hwidth,
      List.drop_append_of_le_length (le_length_of_blankWidth h), ih, ink_cons_blank h]

theorem isBlank_append (s t : Text) :
    isBlank (s ++ b :: t) = true ↔ isBlank s = true ∧ isBlank (b :: t) = true := by
  rw [isBlank_iff_ink, ink_append hb, List.append_eq_nil_iff, isBlank_iff_ink, isBlank_iff_ink]

variable {t : Text} (ht : isBlank (b :: t) = true)
include ht

theorem trimEnd_append_blank_cons (s : Text) : trimEnd (s ++ b :: t) = trimEnd s := by
  induction s with
  | nil =>
    rw [List.nil_append, trimEnd.eq_def]
    exact if_pos ht
  | cons c s ih =>
    have hiff := isBlank_append hb (c :: s) t
    rw [ht, and_iff_left rfl, List.cons_append] at hiff
    rw [List.cons_append, trimEnd, trimEnd, ih]
    by_cases hblank : isBlank (c :: s) = true
    · rw [if_pos (hiff.2 hblank), if_pos hblank]
    · rw [if_neg (mt hiff.1 hblank), if_neg hblank]

/-- White space behind a text is trimmed as if it were not there. -/
theorem trim_append_blank (s : Text) : trim (s ++ b :: t) = trim s := by
  induction s using blankInduction with
  | nil =>
    rw [isBlank, List.isEmpty_iff] at ht
    rw [List.nil_append, trim, ht]
    rfl
  | ink c s h ih =>
    have hwidth := blankWidth_append (List.cons_ne_nil c s) hb t
    rw [h] at hwidth
    rw [trim, trimStart_of_blankWidth hwidth, trimEnd_append_blank_cons hb ht, trim,
      trimStart_of_blankWidth h]
  | blank c s w h ih =>
    have hwidth := blankWidth_append (List.cons_ne_nil c s) hb t
    rw [h, List.cons_append] at hwidth
    rw [List.cons_append, trim_cons_blank hwidth,
      List.drop_append_of_le_length (le_length_of_blankWidth h), ih, trim_cons_blank h]

end Cut

/-! Trimming. -/

/-- What is trimmed off the end of a text is nothing, or starts at a character. -/
theorem exists_trimEnd_append (s : Text) :
    ∃ t, s = trimEnd s ++ t ∧
      (t = [] ∨ ∃ b rest, t = b :: rest ∧ isContinuation b = false ∧ isBlank t = true) := by
  obtain ⟨t, hblank, hs⟩ := trimEnd_append_blank s
  refine ⟨t, hs.symm, ?_⟩
  cases t with
  | nil => exact .inl rfl
  | cons b rest =>
    have hwidth : blankWidth (b :: rest) ≠ 0 := fun hwidth => by
      rw [isBlank_cons_of_blankWidth hwidth] at hblank
      cases hblank
    exact .inr ⟨b, rest, rfl, isContinuation_of_blankWidth hwidth, hblank⟩

theorem ink_trimEnd (s : Text) : ink (trimEnd s) = ink s := by
  obtain ⟨t, hs, rfl | ⟨b, rest, rfl, hb, hblank⟩⟩ := exists_trimEnd_append s
  · rw [List.append_nil] at hs
    rw [← hs]
  · conv => rhs; rw [hs, ink_append hb, isBlank_iff_ink.1 hblank, List.append_nil]

theorem ink_trim (s : Text) : ink (trim s) = ink s := by
  rw [trim, ink_trimEnd, ink_trimStart]

theorem trimEnd_trimEnd (s : Text) : trimEnd (trimEnd s) = trimEnd s := by
  obtain ⟨t, hs, rfl | ⟨b, rest, rfl, hb, hblank⟩⟩ := exists_trimEnd_append s
  · rw [List.append_nil] at hs
    rw [← hs, ← hs]
  · conv => rhs; rw [hs, trimEnd_append_blank_cons hb hblank]

theorem blankWidth_trimEnd {s : Text} (h : blankWidth s = 0) : blankWidth (trimEnd s) = 0 := by
  by_contra hno
  obtain ⟨t, -, hs⟩ := trimEnd_append_blank s
  have hread := blankWidth_append_of_ne_zero hno t
  rw [hs, h] at hread
  exact hno hread.symm

theorem trim_trim (s : Text) : trim (trim s) = trim s := by
  have hstart : blankWidth (trim s) = 0 := blankWidth_trimEnd (blankWidth_trimStart s)
  conv => lhs; rw [trim, trimStart_of_blankWidth hstart, trim, trimEnd_trimEnd]
  rfl

/-- A trimmed text without ink is empty. -/
theorem trim_eq_nil_iff {s : Text} : trim s = [] ↔ ink s = [] := by
  constructor
  · intro h
    rw [← ink_trim, h]
    rfl
  · intro h
    have hblank := isBlank_iff_ink.2 h
    rw [isBlank, List.isEmpty_iff] at hblank
    rw [trim, hblank]
    rfl

theorem ink_append_lf (s t : Text) : ink (s ++ [lf] ++ t) = ink s ++ ink t := by
  rw [List.append_assoc]
  exact ink_append (by decide) s t

theorem flatMap_ink_splitOnByte (s : Text) : (splitOnByte lf s).flatMap ink = ink s := by
  rw [← splitOn_singleton]
  have hne : [lf] ≠ [] := List.cons_ne_nil lf []
  induction s using splitInduction hne with
  | absent s h => rw [splitOn_of_absent h, List.flatMap_singleton]
  | cut line rest first ih =>
    rw [splitOn_of_first hne first, List.flatMap_cons, ih, ink_append_lf]

theorem ink_replaceAll_crlf (s : Text) : ink (replaceAll [cr, lf] [lf] s) = ink s := by
  refine replaceAll_crlf_invariant ink_append_lf (fun line => ?_) s
  rw [ink_append (by decide)]
  exact List.append_nil _

end DocScribe.Text
