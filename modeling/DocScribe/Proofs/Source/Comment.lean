import DocScribe.Proofs.Text.Blank
import DocScribe.Proofs.Text.Lines
import DocScribe.Source.Comment

/-!
# Lines without code

A line whose code is blank opens and closes no brace. An indented `//` comment is such a line: the
indentation holds no slash and no backslash, so the comment starts right after it. More generally a
`//` comment after any text that neither a slash nor a backslash ends is no code of its line
(`stripComments_append_comment`).
-/

namespace DocScribe.Source

/-- Whether comments leave anything but white space of the line. -/
def hasCode (line : Text) : Bool :=
  !(stripComments line).isBlank

theorem hasCode_of_isCommentOnly {line : Text} (h : isCommentOnly line = true) :
    hasCode line = false := by
  simp only [isCommentOnly, Bool.and_eq_true] at h
  simp [hasCode, h.2]

theorem countByte_of_not_hasCode {line : Text} (h : hasCode line = false) {b : UInt8}
    (hb : Text.isBlankByte b = false) : (stripComments line).countByte b = 0 := by
  simp only [hasCode, Bool.not_eq_false'] at h
  refine List.count_eq_zero.2 fun hmem => ?_
  rw [Text.isBlankByte_of_isBlank h hmem] at hb
  cases hb

theorem opens_of_not_hasCode {line : Text} (h : hasCode line = false) : opens line = 0 :=
  countByte_of_not_hasCode h (by decide)

theorem closes_of_not_hasCode {line : Text} (h : hasCode line = false) : closes line = 0 :=
  countByte_of_not_hasCode h (by decide)

theorem balance_of_not_hasCode {line : Text} (h : hasCode line = false) : balance line = 0 := by
  rw [balance, opens_of_not_hasCode h, closes_of_not_hasCode h, Int.sub_self]

/-- A byte that neither starts nor escapes a comment. -/
def isPlain (b : UInt8) : Prop :=
  b ≠ Text.slash ∧ b ≠ Text.backslash

theorem isPlain_of_isBlankByte {b : UInt8} (h : Text.isBlankByte b = true) : isPlain b := by
  constructor
  all_goals
    rintro rfl
    revert h
    decide

/-- A line comment after plain bytes starts right after them. -/
theorem commentStartFrom_plain_append {front : Text} (plain : ∀ b ∈ front, isPlain b)
    (rest : Text) :
    commentStartFrom false (front ++ Text.slash :: Text.slash :: rest) = some front.length := by
  induction front with
  | nil => simp [commentStartFrom]
  | cons b front ih =>
    obtain ⟨hb, hfront⟩ := List.forall_mem_cons.1 plain
    obtain ⟨c, tail, htail⟩ : ∃ c tail, front ++ Text.slash :: Text.slash :: rest = c :: tail :=
      List.exists_cons_of_ne_nil (by simp)
    have hrec := ih hfront
    rw [htail] at hrec
    have hslash : (b == Text.slash) = false := beq_eq_false_iff_ne.2 hb.1
    have hescape : (b == Text.backslash) = false := beq_eq_false_iff_ne.2 hb.2
    rw [List.cons_append, htail, commentStartFrom]
    simp [hslash, hescape, hrec]

theorem stripComments_plain_append {front : Text} (plain : ∀ b ∈ front, isPlain b)
    (rest : Text) : stripComments (front ++ Text.slash :: Text.slash :: rest) = front := by
  have hblock : Text.cut? "/*" front = none := by
    refine Text.cut?_of_absent fun hoccurs => ?_
    exact (plain Text.slash (hoccurs.mem List.mem_cons_self)).1 rfl
  have hline : cutLineComment (front ++ Text.slash :: Text.slash :: rest) = front := by
    simp only [cutLineComment, commentStart?, commentStartFrom_plain_append plain, List.take_left]
  rw [stripComments, hline, cutBlockComment, hblock]

/-- A line comment after white space is a line without code. -/
theorem isCommentOnly_blank_append {front : Text} (hblank : front.isBlank = true) (rest : Text) :
    isCommentOnly (front ++ Text.slash :: Text.slash :: rest) = true := by
  have plain : ∀ b ∈ front, isPlain b := fun b hb =>
    isPlain_of_isBlankByte (Text.isBlankByte_of_isBlank hblank hb)
  have hslash : ¬ (front ++ Text.slash :: Text.slash :: rest).isBlank = true := fun h => by
    have hbyte := Text.isBlankByte_of_isBlank h (List.mem_append_right front List.mem_cons_self)
    revert hbyte
    decide
  rw [isCommentOnly, stripComments_plain_append plain, hblank, Bool.and_true]
  simpa using hslash

/-- A slash would join the comment that follows, and a backslash would escape it. -/
def EndsPlain (s : Text) : Prop :=
  ∀ b, s.getLast? = some b → isPlain b

instance (b : UInt8) : Decidable (isPlain b) :=
  inferInstanceAs (Decidable (b ≠ Text.slash ∧ b ≠ Text.backslash))

instance (s : Text) : Decidable (EndsPlain s) :=
  decidable_of_iff (s.getLast?.all (fun b => isPlain b) = true)
    (by simp [EndsPlain, Option.all_eq_true])

theorem EndsPlain.of_cons {b : UInt8} {s : Text} (h : EndsPlain (b :: s)) : EndsPlain s := by
  cases s with
  | nil =>
    intro c hc
    cases hc
  | cons d s =>
    intro c hc
    exact h c (by rw [List.getLast?_cons_cons, hc])

theorem length_le_of_commentStartFrom {escaped : Bool} {s : Text} {i : Nat}
    (h : commentStartFrom escaped s = some i) : i ≤ s.length := by
  fun_induction commentStartFrom escaped s generalizing i with
  | case1 => cases h
  | case2 => cases h
  | case3 b c s hslash ih =>
    obtain ⟨j, hj, rfl⟩ := Option.map_eq_some_iff.1 h
    have hle := ih hj
    simp only [List.length_cons]
    omega
  | case4 =>
    cases h
    exact Nat.zero_le _
  | case5 escaped b c s hslash ih =>
    obtain ⟨j, hj, rfl⟩ := Option.map_eq_some_iff.1 h
    have hle := ih hj
    simp only [List.length_cons] at hle ⊢
    omega

/-- The first comment is the one that the text has by itself, or else the one that follows it. -/
theorem commentStartFrom_append_comment {escaped : Bool} {s : Text} (ends : EndsPlain s)
    (hescaped : s = [] → escaped = false) (comment : Text) :
    commentStartFrom escaped (s ++ Text.slash :: Text.slash :: comment) =
      some ((commentStartFrom escaped s).getD s.length) := by
  fun_induction commentStartFrom escaped s with
  | case1 escaped =>
    rw [hescaped rfl]
    rfl
  | case2 escaped b =>
    have hb := ends b rfl
    have hslash : (b == Text.slash) = false := beq_eq_false_iff_ne.2 hb.1
    have hback : (b == Text.backslash) = false := beq_eq_false_iff_ne.2 hb.2
    simp [commentStartFrom, hslash, hback]
  | case3 b c s hslash ih =>
    -- The escaped slashes do not end the text, so the step of two stays inside it.
    have hc : c = Text.slash := by simpa using (Bool.and_eq_true_iff.1 hslash).2
    have hs : s ≠ [] := by
      rintro rfl
      exact (ends c rfl).1 hc
    have hrest := ih ends.of_cons.of_cons fun hnil => absurd hnil hs
    rw [List.cons_append, List.cons_append, commentStartFrom, if_pos hslash, if_pos rfl, hrest]
    cases commentStartFrom false s <;> rfl
  | case4 escaped b c s hslash hno =>
    rw [List.cons_append, List.cons_append, commentStartFrom, if_pos hslash, if_neg hno]
    rfl
  | case5 escaped b c s hslash ih =>
    have hrest := ih ends.of_cons fun hnil => absurd hnil (List.cons_ne_nil c s)
    rw [List.cons_append] at hrest
    rw [List.cons_append, List.cons_append, commentStartFrom, if_neg hslash, hrest]
    cases commentStartFrom (b == Text.backslash) (c :: s) <;> rfl

theorem cutLineComment_eq_take (s : Text) :
    cutLineComment s = s.take ((commentStart? s).getD s.length) := by
  rw [cutLineComment]
  cases commentStart? s with
  | none => exact (List.take_length).symm
  | some i => rfl

/-- **A trailing comment is no code**, whatever it holds and whatever stands before it. -/
theorem stripComments_append_comment {s : Text} (ends : EndsPlain s) (comment : Text) :
    stripComments (s ++ Text.slash :: Text.slash :: comment) = stripComments s := by
  have hstart : commentStart? (s ++ Text.slash :: Text.slash :: comment) =
      some ((commentStart? s).getD s.length) :=
    commentStartFrom_append_comment ends (fun _ => rfl) comment
  have hle : (commentStart? s).getD s.length ≤ s.length := by
    cases hs : commentStart? s with
    | none => exact Nat.le_refl _
    | some i => exact length_le_of_commentStartFrom hs
  have hcut : cutLineComment (s ++ Text.slash :: Text.slash :: comment) = cutLineComment s := by
    rw [cutLineComment_eq_take, cutLineComment_eq_take, hstart, Option.getD_some,
      List.take_append_of_le_length hle]
  rw [stripComments, hcut, stripComments]

/-- Comments leave nothing of a blank line. -/
theorem isBlank_of_hasCode {line : Text} (h : hasCode line = true) : line.isBlank = false := by
  by_contra hblank
  rw [Bool.not_eq_false] at hblank
  have plain : ∀ b ∈ line, isPlain b := fun b hb =>
    isPlain_of_isBlankByte (Text.isBlankByte_of_isBlank hblank hb)
  have ends : EndsPlain line := fun b hb => plain b (List.mem_of_getLast? hb)
  rw [hasCode, ← stripComments_append_comment ends [], stripComments_plain_append plain,
    hblank] at h
  cases h

end DocScribe.Source
