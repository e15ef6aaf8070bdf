import DocScribe.Proofs.Text.Lines
import DocScribe.Source.Declaration
import Mathlib.Data.List.Basic

/-!
# The word `for` in an impl header

`SplitsAtFor` says that a text is cut in two by `for` as a word of its own: no ASCII word character
stands right before or right after it. The reader finds nothing iff there is no such cut
(`beforeForIn?_eq_none_iff`), and the first one otherwise (`beforeForIn?_eq_some_of_first`). Where
two texts are joined and a word character is missing on one side of the seam, no new `for` arises
(`HasFor.of_append`).
-/

namespace DocScribe.Source

open Text

/-- Whether a word character stands at the end of the text, and if the text is empty, before it. -/
def endsInWord (inWord : Bool) (s : Text) : Bool :=
  (s.getLast?.map isWordByte).getD inWord

/-- Whether a word character stands at the start of the text. -/
def startsInWord (s : Text) : Bool :=
  (s.head?.map isWordByte).getD false

/-- The word `for` stands between `front` and `back`, where `inWord` says that a word character
stands before the text. -/
structure SplitsAtFor (inWord : Bool) (s front back : Text) : Prop where
  eq_append : s = front ++ (("for" : Text) ++ back)
  before : endsInWord inWord front = false
  after : startsInWord back = false

/-- The text holds the word `for`. -/
def HasFor (s : Text) : Prop :=
  ∃ front back, SplitsAtFor false s front back

theorem endsInWord_cons (inWord : Bool) (b : UInt8) (s : Text) :
    endsInWord inWord (b :: s) = endsInWord (isWordByte b) s := by
  rw [endsInWord, endsInWord, List.getLast?_cons]
  cases s.getLast? <;> rfl

theorem endsInWord_append_of_ne_nil (inWord : Bool) (s : Text) {t : Text} (ht : t ≠ []) :
    endsInWord inWord (s ++ t) = endsInWord false t := by
  rw [endsInWord, endsInWord, List.getLast?_append_of_ne_nil s ht]
  cases hlast : t.getLast? with
  | none => exact absurd (List.getLast?_eq_none_iff.1 hlast) ht
  | some b => rfl

theorem startsInWord_append_of_ne_nil {s : Text} (hs : s ≠ []) (t : Text) :
    startsInWord (s ++ t) = startsInWord s := by
  obtain ⟨b, rest, rfl⟩ := List.exists_cons_of_ne_nil hs
  rfl

theorem isWordByte_of_mem_for {b : UInt8} (h : b ∈ ("for" : Text)) : isWordByte b = true := by
  change b ∈ [0x66, 0x6f, 0x72] at h
  simp only [List.mem_cons, List.not_mem_nil, or_false] at h
  rcases h with rfl | rfl | rfl <;> rfl

theorem endsInWord_of_append_eq_for {s t : Text} (h : s ++ t = ("for" : Text)) (hs : s ≠ [])
    (inWord : Bool) : endsInWord inWord s = true := by
  have hmem : s.getLast hs ∈ ("for" : Text) := by
    rw [← h]
    exact List.mem_append_left t (List.getLast_mem hs)
  rw [endsInWord, List.getLast?_eq_some_getLast hs]
  exact isWordByte_of_mem_for hmem

theorem startsInWord_of_append_eq_for {s t : Text} (h : s ++ t = ("for" : Text)) (ht : t ≠ []) :
    startsInWord t = true := by
  obtain ⟨b, rest, rfl⟩ := List.exists_cons_of_ne_nil ht
  refine isWordByte_of_mem_for ?_
  rw [← h]
  exact List.mem_append_right s List.mem_cons_self

/-! What the reader finds. -/

theorem splitsAtFor_cons_iff {inWord : Bool} {b c : UInt8} {s front back : Text} :
    SplitsAtFor inWord (b :: s) (c :: front) back ↔
      c = b ∧ SplitsAtFor (isWordByte b) s front back := by
  constructor
  · rintro ⟨heq, hbefore, hafter⟩
    rw [List.cons_append, List.cons.injEq] at heq
    obtain ⟨rfl, hs⟩ := heq
    rw [endsInWord_cons] at hbefore
    exact ⟨rfl, hs, hbefore, hafter⟩
  · rintro ⟨rfl, hs, hbefore, hafter⟩
    refine ⟨by rw [hs, List.cons_append], ?_, hafter⟩
    rw [endsInWord_cons]
    exact hbefore

theorem splitsAtFor_nil_iff {inWord : Bool} {s back : Text} :
    SplitsAtFor inWord s [] back ↔
      dropStart? "for" s = some back ∧ inWord = false ∧ startsInWord back = false := by
  rw [dropStart?_eq_some_iff]
  constructor
  · rintro ⟨heq, hbefore, hafter⟩
    exact ⟨heq, hbefore, hafter⟩
  · rintro ⟨heq, hbefore, hafter⟩
    exact ⟨heq, hbefore, hafter⟩

/-- **The step** of the reader: the word stands here, or the reader goes on after one byte. -/
theorem beforeForIn?_cons (inWord : Bool) (b : UInt8) (s : Text) :
    ((∃ back, SplitsAtFor inWord (b :: s) [] back) ∧ beforeForIn? inWord (b :: s) = some []) ∨
      ((∀ back, ¬ SplitsAtFor inWord (b :: s) [] back) ∧
        beforeForIn? inWord (b :: s) = (beforeForIn? (isWordByte b) s).map (b :: ·)) := by
  simp only [splitsAtFor_nil_iff, beforeForIn?]
  cases inWord with
  | true => exact .inr ⟨by simp, rfl⟩
  | false =>
    cases hdrop : dropStart? "for" (b :: s) with
    | none => exact .inr ⟨by simp, rfl⟩
    | some back =>
      cases back with
      | nil => exact .inl ⟨⟨[], rfl, rfl, rfl⟩, rfl⟩
      | cons c rest =>
        by_cases hc : isWordByte c = true
        · refine .inr ⟨?_, by simp [hc]⟩
          rintro back ⟨hback, -, hafter⟩
          cases hback
          rw [startsInWord, List.head?_cons, Option.map_some, Option.getD_some, hc] at hafter
          cases hafter
        · rw [Bool.not_eq_true] at hc
          exact .inl ⟨⟨c :: rest, rfl, rfl, hc⟩, by simp [hc]⟩

/-- The reader finds nothing iff the word does not stand in the text. -/
theorem beforeForIn?_eq_none_iff {inWord : Bool} {s : Text} :
    beforeForIn? inWord s = none ↔ ∀ front back, ¬ SplitsAtFor inWord s front back := by
  induction s generalizing inWord with
  | nil =>
    refine iff_of_true rfl fun front back splits => ?_
    have hlength := congrArg List.length splits.eq_append
    rw [List.length_append, List.length_append] at hlength
    have hfor : ("for" : Text).length = 3 := rfl
    rw [List.length_nil] at hlength
    omega
  | cons b s ih =>
    rcases beforeForIn?_cons inWord b s with ⟨⟨back, hhere⟩, hfound⟩ | ⟨hhere, hrest⟩
    · rw [hfound]
      refine iff_of_false (by simp) fun h => h [] back hhere
    · rw [hrest, Option.map_eq_none_iff, ih]
      constructor
      · intro hs front back splits
        cases front with
        | nil => exact hhere back splits
        | cons c front => exact hs front back (splitsAtFor_cons_iff.1 splits).2
      · intro hs front back splits
        exact hs (b :: front) back (splitsAtFor_cons_iff.2 ⟨rfl, splits⟩)

/-- The reader gives what precedes the first such word. -/
theorem beforeForIn?_eq_some_of_first {inWord : Bool} {s front back : Text}
    (splits : SplitsAtFor inWord s front back)
    (first : ∀ other rest, SplitsAtFor inWord s other rest → front.length ≤ other.length) :
    beforeForIn? inWord s = some front := by
  induction s generalizing inWord front with
  | nil =>
    have hnone : beforeForIn? inWord [] = none := rfl
    exact absurd splits (beforeForIn?_eq_none_iff.1 hnone front back)
  | cons b s ih =>
    rcases beforeForIn?_cons inWord b s with ⟨⟨rest, hhere⟩, hfound⟩ | ⟨hhere, hrest⟩
    · have hlength := first [] rest hhere
      rw [hfound, List.eq_nil_of_length_eq_zero (Nat.le_zero.1 hlength)]
    · cases front with
      | nil => exact absurd splits (hhere back)
      | cons c front =>
        obtain ⟨rfl, hsplits⟩ := splitsAtFor_cons_iff.1 splits
        rw [hrest, ih hsplits, Option.map_some]
        intro other rest hother
        have hlength := first (c :: other) rest (splitsAtFor_cons_iff.2 ⟨rfl, hother⟩)
        simpa using hlength

/-- A text without the word, before the word itself, is what the reader gives. -/
theorem beforeFor?_of_not_hasFor {s front back : Text} (splits : SplitsAtFor false s front back)
    (absent : ¬ HasFor front) : beforeFor? s = some front := by
  refine beforeForIn?_eq_some_of_first splits fun other rest hother => ?_
  by_contra hshort
  rw [Nat.not_le] at hshort
  have heq := splits.eq_append.symm.trans hother.eq_append
  rcases List.append_eq_append_iff.1 heq with ⟨a, hother', -⟩ | ⟨a, hfront, hrest⟩
  · have hlength := congrArg List.length hother'
    rw [List.length_append] at hlength
    omega
  · -- The earlier word ends before `front` does, or it runs into the end of `front`.
    have ha : a ≠ [] := by
      rintro rfl
      rw [List.append_nil] at hfront
      rw [hfront] at hshort
      exact Nat.lt_irrefl _ hshort
    rcases List.append_eq_append_iff.1 hrest with ⟨c, hac, hc⟩ | ⟨c, hac, -⟩
    · refine absent ⟨other, c, by rw [hfront, hac], hother.before, ?_⟩
      by_cases hnil : c = []
      · rw [hnil]
        rfl
      · have hafter := hother.after
        rwa [hc, startsInWord_append_of_ne_nil hnil] at hafter
    · have hbefore := splits.before
      rw [hfront, endsInWord_append_of_ne_nil false other ha,
        endsInWord_of_append_eq_for hac.symm ha] at hbefore
      cases hbefore

/-! Where the word can stand. -/

theorem not_hasFor_of_not_mem {s : Text} (h : (0x66 : UInt8) ∉ s) : ¬ HasFor s := by
  rintro ⟨front, back, splits⟩
  refine h ?_
  rw [splits.eq_append]
  exact List.mem_append_right front (List.mem_append_left back (by decide))

/-- No new word arises at a seam where a word character is missing on one side. -/
theorem HasFor.of_append {s t : Text} (h : HasFor (s ++ t))
    (seam : endsInWord false s = false ∨ startsInWord t = false) : HasFor s ∨ HasFor t := by
  obtain ⟨front, back, heq, hbefore, hafter⟩ := h
  rcases List.append_eq_append_iff.1 heq with ⟨a, hfront, ht⟩ | ⟨a, hs, hword⟩
  · -- The word lies in `t` as a whole.
    refine .inr ⟨a, back, ht, ?_, hafter⟩
    by_cases hnil : a = []
    · rw [hnil]
      rfl
    · rwa [hfront, endsInWord_append_of_ne_nil false s hnil] at hbefore
  · by_cases hnil : a = []
    · refine .inr ⟨[], back, ?_, rfl, hafter⟩
      rw [hnil, List.nil_append] at hword
      exact hword.symm
    · rcases List.append_eq_append_iff.1 hword with ⟨c, hac, hback⟩ | ⟨c, hac, ht⟩
      · -- The word lies in `s` as a whole.
        refine .inl ⟨front, c, by rw [hs, hac], hbefore, ?_⟩
        by_cases hempty : c = []
        · rw [hempty]
          rfl
        · rwa [hback, startsInWord_append_of_ne_nil hempty] at hafter
      · by_cases hempty : c = []
        · refine .inl ⟨front, [], ?_, hbefore, rfl⟩
          rw [hs, hac, hempty, List.append_nil, List.append_nil]
        · -- The word lies across the seam, so word characters stand on both sides.
          rcases seam with hleft | hright
          · rw [hs, endsInWord_append_of_ne_nil false front hnil,
              endsInWord_of_append_eq_for hac.symm hnil] at hleft
            cases hleft
          · rw [ht, startsInWord_append_of_ne_nil hempty,
              startsInWord_of_append_eq_for hac.symm hempty] at hright
            cases hright

theorem beforeFor?_eq_none_iff {s : Text} : beforeFor? s = none ↔ ¬ HasFor s := by
  rw [beforeFor?, beforeForIn?_eq_none_iff]
  constructor
  · rintro h ⟨front, back, splits⟩
    exact h front back splits
  · intro h front back splits
    exact h ⟨front, back, splits⟩

instance (s : Text) : Decidable (HasFor s) :=
  decidable_of_iff (¬ beforeFor? s = none) (by rw [beforeFor?_eq_none_iff, Classical.not_not])

end DocScribe.Source
