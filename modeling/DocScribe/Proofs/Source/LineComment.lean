import DocScribe.Proofs.Source.BlockComment
import Mathlib.Order.Bounds.Basic
import Mathlib.Order.Nat

/-!
# Where a line comment starts

A comment should start at the first two slashes without a backslash right before them (`Unescaped`).
The search does look for these, but it passes over an escaped pair as a whole, and so over two
slashes that start inside the pair (`BehindEscape`). `isFirst_startsComment` says exactly where it
stops, and `commentStart?_isFirst_iff` on which lines that is the first unescaped pair.
-/

namespace DocScribe.Source

/-- Two slashes from index `i` on, and no backslash right before them. -/
def Unescaped (s : Text) (i : Nat) : Prop :=
  s[i]? = some Text.slash ∧ s[i + 1]? = some Text.slash ∧
    (i = 0 ∨ s[i - 1]? ≠ some Text.backslash)

/-- A backslash and a slash right before index `i`. -/
def BehindEscape (s : Text) (i : Nat) : Prop :=
  2 ≤ i ∧ s[i - 2]? = some Text.backslash ∧ s[i - 1]? = some Text.slash

/-- Two slashes from index `i` on of which neither is escaped. -/
def StartsComment (s : Text) (i : Nat) : Prop :=
  Unescaped s i ∧ ¬ BehindEscape s i

instance (s : Text) (i : Nat) : Decidable (Unescaped s i) :=
  inferInstanceAs (Decidable (_ ∧ _ ∧ (_ ∨ _)))

instance (s : Text) (i : Nat) : Decidable (BehindEscape s i) :=
  inferInstanceAs (Decidable (_ ∧ _ ∧ _))

/-- The least index with the property, or nothing if there is none. -/
def IsFirst (P : Nat → Prop) : Option Nat → Prop
  | some i => IsLeast {j | P j} i
  | none => ∀ j, ¬ P j

/-- What is first among indexes counted from `k` on is first among all if there are none below. -/
theorem IsFirst.shift {P Q : Nat → Prop} {found : Option Nat} (first : IsFirst Q found) {k : Nat}
    (below : ∀ j < k, ¬ P j) (above : ∀ j, P (j + k) ↔ Q j) : IsFirst P (found.map (· + k)) := by
  have counted : ∀ j, P j → ∃ m, j = m + k ∧ Q m := by
    intro j hj
    have hkj : k ≤ j := Nat.le_of_not_lt fun hlt => below j hlt hj
    have hsum : j - k + k = j := Nat.sub_add_cancel hkj
    exact ⟨j - k, hsum.symm, (above _).1 (hsum.symm ▸ hj)⟩
  cases found with
  | none =>
    intro j hj
    obtain ⟨m, -, hm⟩ := counted j hj
    exact first m hm
  | some i =>
    refine ⟨(above i).2 first.1, fun j hj => ?_⟩
    obtain ⟨m, rfl, hm⟩ := counted j hj
    exact Nat.add_le_add_right (first.2 hm) k

/-! The search and the property, byte by byte. -/

theorem slash_ne_backslash : Text.slash ≠ Text.backslash := by
  decide

theorem lineMark_isPrefix_iff {s : Text} :
    lineMark <+: s ↔ s[0]? = some Text.slash ∧ s[1]? = some Text.slash := by
  match s with
  | [] => simp
  | [b] => simp [List.cons_prefix_cons]
  | b :: c :: s => simp [List.cons_prefix_cons, eq_comm (a := Text.slash)]

/-- A backslash before the text matters to two slashes at its start only. -/
theorem commentStartFrom_of_not_isPrefix {s : Text} (h : ¬ lineMark <+: s) (escaped : Bool) :
    commentStartFrom escaped s = commentStart? s := by
  match s with
  | [] => cases escaped <;> rfl
  | [b] => cases escaped <;> rfl
  | b :: c :: s =>
    have hpair : ¬ (b == Text.slash && c == Text.slash) = true := by
      rw [lineMark_isPrefix_iff] at h
      simpa using h
    rw [commentStart?, commentStartFrom, commentStartFrom, if_neg hpair, if_neg hpair]

theorem commentStart?_escaped (s : Text) :
    commentStart? (Text.backslash :: Text.slash :: Text.slash :: s) =
      (commentStart? s).map (· + 3) := by
  have hback : commentStart? (Text.backslash :: Text.slash :: Text.slash :: s) =
      (commentStartFrom true (Text.slash :: Text.slash :: s)).map (· + 1) := rfl
  have hpair : commentStartFrom true (Text.slash :: Text.slash :: s) =
      (commentStart? s).map (· + 2) := rfl
  rw [hback, hpair, Option.map_map]
  rfl

theorem commentStart?_cons {b : UInt8} {s : Text} (hpair : ¬ lineMark <+: b :: s)
    (hescape : b = Text.backslash → ¬ lineMark <+: s) :
    commentStart? (b :: s) = (commentStart? s).map (· + 1) := by
  cases s with
  | nil => rfl
  | cons c s =>
    have hno : ¬ (b == Text.slash && c == Text.slash) = true := by
      rw [lineMark_isPrefix_iff] at hpair
      simpa using hpair
    rw [commentStart?, commentStartFrom, if_neg hno]
    cases hb : b == Text.backslash with
    | true => rw [commentStartFrom_of_not_isPrefix (hescape (eq_of_beq hb))]
    | false => rfl

theorem startsComment_zero_iff {s : Text} : StartsComment s 0 ↔ lineMark <+: s := by
  simp [StartsComment, Unescaped, BehindEscape, lineMark_isPrefix_iff]

/-- After an escaped pair everything is as at the start of a line. -/
theorem startsComment_escaped_iff {s : Text} {i : Nat} :
    StartsComment (Text.backslash :: Text.slash :: Text.slash :: s) (i + 3) ↔
      StartsComment s i := by
  match i with
  | 0 => simp [StartsComment, Unescaped, BehindEscape, slash_ne_backslash]
  | 1 => simp [StartsComment, Unescaped, BehindEscape, slash_ne_backslash]
  | i + 2 => simp [StartsComment, Unescaped, BehindEscape]

theorem not_startsComment_escaped {s : Text} {i : Nat} (hi : i < 3) :
    ¬ StartsComment (Text.backslash :: Text.slash :: Text.slash :: s) i := by
  match i with
  | 0 => simp [StartsComment, Unescaped, slash_ne_backslash.symm]
  | 1 => simp [StartsComment, Unescaped]
  | 2 => simp [StartsComment, BehindEscape]

/-- A byte in front changes nothing, unless it escapes two slashes. -/
theorem startsComment_cons_iff {b : UInt8} {s : Text}
    (hescape : b = Text.backslash → ¬ lineMark <+: s) {i : Nat} :
    StartsComment (b :: s) (i + 1) ↔ StartsComment s i := by
  rw [lineMark_isPrefix_iff] at hescape
  match i with
  | 0 =>
    have hfirst : s[0]? = some Text.slash → s[1]? = some Text.slash → b ≠ Text.backslash :=
      fun h0 h1 hb => hescape hb ⟨h0, h1⟩
    simpa [StartsComment, Unescaped, BehindEscape] using hfirst
  | 1 =>
    have hsecond : s[1]? = some Text.slash → s[2]? = some Text.slash →
        s[0]? ≠ some Text.backslash → b = Text.backslash → s[0]? ≠ some Text.slash :=
      fun h1 _ _ hb h0 => hescape hb ⟨h0, h1⟩
    simpa [StartsComment, Unescaped, BehindEscape] using hsecond
  | i + 2 => simp [StartsComment, Unescaped, BehindEscape]

/-- Goes through a text as the search does: up to two slashes, and past an escaped pair at once. -/
theorem searchInduction {motive : Text → Prop} (nil : motive [])
    (found : ∀ s, lineMark <+: s → motive s)
    (escaped : ∀ s, motive s → motive (Text.backslash :: Text.slash :: Text.slash :: s))
    (cons : ∀ b s, ¬ lineMark <+: b :: s → (b = Text.backslash → ¬ lineMark <+: s) → motive s →
      motive (b :: s)) (s : Text) : motive s := by
  induction h : s.length using Nat.strongRecOn generalizing s with
  | ind n ih =>
    cases s with
    | nil => exact nil
    | cons b s =>
      by_cases hpair : lineMark <+: b :: s
      · exact found _ hpair
      · by_cases hescape : b = Text.backslash ∧ lineMark <+: s
        · obtain ⟨rfl, rest, rfl⟩ := hescape
          refine escaped rest (ih rest.length ?_ rest rfl)
          simp only [List.length_cons, List.length_append] at h
          omega
        · rw [not_and] at hescape
          refine cons b s hpair hescape (ih s.length ?_ s rfl)
          rw [List.length_cons] at h
          omega

/-- **The search stops at the first two slashes of which neither is escaped.** -/
theorem isFirst_startsComment (line : Text) :
    IsFirst (StartsComment line) (commentStart? line) := by
  induction line using searchInduction with
  | nil => exact fun j hj => by simp [StartsComment, Unescaped] at hj
  | found s hpair =>
    have hzero : commentStart? s = some 0 := by
      obtain ⟨rest, rfl⟩ := hpair
      rfl
    rw [hzero]
    exact ⟨startsComment_zero_iff.2 hpair, fun j _ => Nat.zero_le j⟩
  | escaped s ih =>
    rw [commentStart?_escaped]
    exact ih.shift (fun j hj => not_startsComment_escaped hj) fun j => startsComment_escaped_iff
  | cons b s hpair hescape ih =>
    rw [commentStart?_cons hpair hescape]
    refine ih.shift (fun j hj => ?_) fun j => startsComment_cons_iff hescape
    obtain rfl := Nat.lt_one_iff.1 hj
    exact mt startsComment_zero_iff.1 hpair

/-- **A line comment starts at the first unescaped pair of slashes exactly if** that does not start
inside an escaped pair; in any case it starts at the first pair of which neither slash is
escaped. -/
theorem commentStart?_isFirst_iff (line : Text) :
    (IsFirst (Unescaped line) (commentStart? line) ↔
      ∀ i, IsLeast {j | Unescaped line j} i → ¬ BehindEscape line i) ∧
    IsFirst (StartsComment line) (commentStart? line) := by
  have first := isFirst_startsComment line
  refine ⟨⟨fun plain i hi hbehind => ?_, fun clear => ?_⟩, first⟩
  · cases hstart : commentStart? line with
    | none =>
      rw [hstart] at plain
      exact plain i hi.1
    | some k =>
      rw [hstart] at plain first
      obtain rfl : k = i := IsLeast.unique plain hi
      exact first.1.2 hbehind
  · -- The first unescaped pair is then one that the search stops at, and no earlier one is.
    have least : ∀ j, Unescaped line j → ∃ i ≤ j, StartsComment line i := by
      intro j hj
      have hi := Nat.isLeast_find ⟨j, hj⟩
      exact ⟨_, hi.2 hj, hi.1, clear _ hi⟩
    cases hstart : commentStart? line with
    | none =>
      rw [hstart] at first
      intro j hj
      obtain ⟨i, -, hi⟩ := least j hj
      exact first i hi
    | some k =>
      rw [hstart] at first
      refine ⟨first.1.1, fun j hj => ?_⟩
      obtain ⟨i, hij, hi⟩ := least j hj
      exact Nat.le_trans (first.2 hi) hij

/-- An escaped pair of slashes, and a comment. -/
def escapedPair : Text := "let re = \"\\//\"; // real"

theorem escapedPair_isFirst :
    IsLeast {j | Unescaped escapedPair j} 16 ∧ ¬ BehindEscape escapedPair 16 ∧
      IsFirst (Unescaped escapedPair) (commentStart? escapedPair) := by
  have hpair : Unescaped escapedPair 16 := by decide
  have hnone : ∀ j < 16, ¬ Unescaped escapedPair j := by decide
  have hleast : IsLeast {j | Unescaped escapedPair j} 16 :=
    ⟨hpair, fun j hj => Nat.le_of_not_lt fun hlt => hnone j hlt hj⟩
  have hclear : ¬ BehindEscape escapedPair 16 := by decide
  refine ⟨hleast, hclear, (commentStart?_isFirst_iff escapedPair).1.2 fun i hi => ?_⟩
  rwa [hi.unique hleast]

/-- An escaped slash, a comment right behind it, and an opening brace in the comment. -/
def slashEscaped : Text := "\\/// \x7b"

/-- The comment is missed, and its brace is counted. -/
theorem slashEscaped_not_isFirst :
    Unescaped slashEscaped 2 ∧ commentStart? slashEscaped = none ∧
      ¬ IsFirst (Unescaped slashEscaped) (commentStart? slashEscaped) ∧
      opens slashEscaped = 1 := by
  have hstart : commentStart? slashEscaped = none := by decide
  have hpair : Unescaped slashEscaped 2 := by decide
  refine ⟨hpair, hstart, fun first => ?_, by decide⟩
  rw [hstart] at first
  exact first 2 hpair

end DocScribe.Source
