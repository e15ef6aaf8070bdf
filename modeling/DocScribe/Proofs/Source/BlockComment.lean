import DocScribe.Proofs.Source.Comment
import DocScribe.Proofs.Text.Pieces
import DocScribe.Source.Declaration

/-!
# Block comments on one line

The search for a line comment comes first and does not know of block comments. Where it finds
nothing in the inside of a block, the block is cut out and the code around it is joined; where it
finds a `//` there, the line ends at that `//`, the code behind the block is lost and the text in
front of the `//` counts as code (`stripComments_block`).
-/

namespace DocScribe.Source

/-- What starts a line comment. -/
abbrev lineMark : Text := [Text.slash, Text.slash]

/-- What opens a block comment. -/
abbrev openMark : Text := [Text.slash, 0x2a]

/-- What closes a block comment. -/
abbrev closeMark : Text := [0x2a, Text.slash]

/-! The search for a line comment, along a text that is put together. -/

theorem commentStartFrom_of_absent {s : Text} (h : ¬ lineMark <:+: s) (escaped : Bool) :
    commentStartFrom escaped s = none := by
  fun_induction commentStartFrom escaped s with
  | case1 => rfl
  | case2 => rfl
  | case3 b c s hslash ih =>
    simp only [Bool.and_eq_true, beq_iff_eq] at hslash
    obtain ⟨rfl, rfl⟩ := hslash
    exact absurd (List.prefix_append lineMark s).isInfix h
  | case4 escaped b c s hslash hescaped =>
    simp only [Bool.and_eq_true, beq_iff_eq] at hslash
    obtain ⟨rfl, rfl⟩ := hslash
    exact absurd (List.prefix_append lineMark s).isInfix h
  | case5 escaped b c s hslash ih =>
    rw [ih fun hin => h (hin.trans (List.suffix_cons b (c :: s)).isInfix), Option.map_none]

/-- A comment that is found in a text is found whatever follows the text. -/
theorem commentStartFrom_append {escaped : Bool} {s : Text} {i : Nat}
    (h : commentStartFrom escaped s = some i) (rest : Text) :
    commentStartFrom escaped (s ++ rest) = some i := by
  fun_induction commentStartFrom escaped s generalizing i with
  | case1 => cases h
  | case2 => cases h
  | case3 b c s hslash ih =>
    obtain ⟨j, hj, rfl⟩ := Option.map_eq_some_iff.1 h
    rw [List.cons_append, List.cons_append, commentStartFrom, if_pos hslash, if_pos rfl, ih hj,
      Option.map_some]
  | case4 escaped b c s hslash hescaped =>
    rw [List.cons_append, List.cons_append, commentStartFrom, if_pos hslash, if_neg hescaped, h]
  | case5 escaped b c s hslash ih =>
    obtain ⟨j, hj, rfl⟩ := Option.map_eq_some_iff.1 h
    have hrest := ih hj
    rw [List.cons_append] at hrest
    rw [List.cons_append, List.cons_append, commentStartFrom, if_neg hslash, hrest,
      Option.map_some]

/-- Behind a plain byte the search starts anew. -/
theorem commentStartFrom_plain_cons {b : UInt8} (hb : isPlain b) (escaped : Bool) (rest : Text) :
    commentStartFrom escaped (b :: rest) = (commentStartFrom false rest).map (· + 1) := by
  have hslash : (b == Text.slash) = false := beq_eq_false_iff_ne.2 hb.1
  have hescape : (b == Text.backslash) = false := beq_eq_false_iff_ne.2 hb.2
  cases rest with
  | nil => rfl
  | cons c rest => rw [commentStartFrom, hslash, hescape, Bool.false_and, if_neg Bool.false_ne_true]

/-- A text without a comment may be followed by a plain byte. -/
theorem commentStartFrom_append_plain {escaped : Bool} {s : Text}
    (h : commentStartFrom escaped s = none) {b : UInt8} (hb : isPlain b) (rest : Text) :
    commentStartFrom escaped (s ++ b :: rest) =
      (commentStartFrom false rest).map (· + (s.length + 1)) := by
  fun_induction commentStartFrom escaped s with
  | case1 => exact commentStartFrom_plain_cons hb _ rest
  | case2 escaped c =>
    have hslash : (b == Text.slash) = false := beq_eq_false_iff_ne.2 hb.1
    rw [List.singleton_append, commentStartFrom, hslash, Bool.and_false,
      if_neg Bool.false_ne_true, commentStartFrom_plain_cons hb, Option.map_map]
    rfl
  | case3 c d s hslash ih =>
    rw [List.cons_append, List.cons_append, commentStartFrom, if_pos hslash, if_pos rfl,
      ih (Option.map_eq_none_iff.1 h), Option.map_map]
    rfl
  | case4 => cases h
  | case5 escaped c d s hslash ih =>
    have hrest := ih (Option.map_eq_none_iff.1 h)
    rw [List.cons_append] at hrest
    rw [List.cons_append, List.cons_append, commentStartFrom, if_neg hslash, hrest,
      Option.map_map]
    rfl

/-! A block and the code around it. -/

/-- The line with a block comment between two parts. -/
def blockLine (before inside after : Text) : Text :=
  before ++ openMark ++ (inside ++ closeMark ++ after)

/-- The block opens and closes where the marks stand, and the parts around it hold no comment, nor
does one arise where they meet the block. -/
structure IsBlock (before inside after : Text) : Prop where
  before_line : ¬ lineMark <:+: before
  before_open : ¬ openMark <:+: before
  before_last : before.getLast? ≠ some Text.slash
  inside_close : ¬ closeMark <:+: inside
  after_line : ¬ lineMark <:+: after
  after_open : ¬ openMark <:+: after
  after_head : after.head? ≠ some Text.slash

theorem isPlain_star : isPlain 0x2a :=
  ⟨by decide, by decide⟩

namespace IsBlock

variable {before inside after : Text} (block : IsBlock before inside after)
include block

theorem lineMark_absent_before : ¬ lineMark <:+: before ++ [Text.slash] := by
  rw [List.infix_concat_iff, not_or]
  refine ⟨?_, block.before_line⟩
  rintro ⟨front, hfront⟩
  rw [List.append_cons] at hfront
  refine block.before_last ?_
  rw [← (List.append_inj' hfront rfl).1, List.getLast?_concat]

theorem lineMark_absent_after : ¬ lineMark <:+: Text.slash :: after := by
  rw [List.infix_cons_iff, not_or]
  refine ⟨?_, block.after_line⟩
  rintro ⟨rest, hrest⟩
  refine block.after_head ?_
  rw [← (List.cons.inj hrest).2]
  rfl

/-- A line comment starts in the inside of the block, if there is one. -/
theorem commentStart?_eq :
    commentStart? (blockLine before inside after) =
      (commentStart? inside).map (· + (before.length + 2)) := by
  have hbefore : commentStartFrom false (before ++ [Text.slash]) = none :=
    commentStartFrom_of_absent block.lineMark_absent_before false
  have hline : blockLine before inside after =
      (before ++ [Text.slash]) ++ 0x2a :: (inside ++ 0x2a :: (Text.slash :: after)) := by
    simp [blockLine]
  have hinside : commentStartFrom false (inside ++ 0x2a :: (Text.slash :: after)) =
      commentStart? inside := by
    cases h : commentStart? inside with
    | none =>
      rw [commentStartFrom_append_plain h isPlain_star,
        commentStartFrom_of_absent block.lineMark_absent_after, Option.map_none]
    | some i => exact commentStartFrom_append h _
  rw [commentStart?, hline, commentStartFrom_append_plain hbefore isPlain_star, hinside,
    List.length_append, List.length_singleton]

theorem cut?_openMark (rest : Text) :
    Text.cut? "/*" (before ++ openMark ++ rest) = some (before, rest) :=
  Text.cut?_of_first (List.cons_ne_nil _ _) (Text.beforeFirst_pair (by decide) block.before_open)
    rest

theorem stripComments_of_none (h : commentStart? inside = none) :
    stripComments (blockLine before inside after) = before ++ after := by
  have hline : cutLineComment (blockLine before inside after) = blockLine before inside after := by
    rw [cutLineComment, block.commentStart?_eq, h, Option.map_none]
  have hclose : Text.cut? "*/" (inside ++ closeMark ++ after) = some (inside, after) :=
    Text.cut?_of_first (List.cons_ne_nil _ _)
      (Text.beforeFirst_pair (by decide) block.inside_close) after
  rw [stripComments, hline, blockLine, cutBlockComment, block.cut?_openMark]
  dsimp only
  rw [hclose]

theorem stripComments_of_some {i : Nat} (h : commentStart? inside = some i) :
    stripComments (blockLine before inside after) = before ++ openMark ++ inside.take i := by
  have hle : i ≤ inside.length := length_le_of_commentStartFrom h
  have hline : cutLineComment (blockLine before inside after) =
      before ++ openMark ++ inside.take i := by
    rw [cutLineComment_eq_take, block.commentStart?_eq, h, Option.map_some, Option.getD_some,
      blockLine, List.take_append, List.take_of_length_le (by simp), List.append_assoc inside,
      show i + (before.length + 2) - (before ++ openMark).length = i by simp,
      List.take_append_of_le_length hle]
  have hclose : Text.cut? "*/" (inside.take i) = none :=
    Text.cut?_of_absent fun hin =>
      block.inside_close (hin.trans (List.take_prefix i inside).isInfix)
  rw [stripComments, hline, cutBlockComment, block.cut?_openMark]
  dsimp only
  rw [hclose]

end IsBlock

/-- **A block comment is cut out of its line exactly if no line comment is found inside it**, and
then the code around it is read as one. If one is found, the line ends there, and what stands before
it in the block stays. -/
theorem stripComments_block {before inside after : Text} (block : IsBlock before inside after) :
    (stripComments (blockLine before inside after) = before ++ after ↔
      commentStart? inside = none) ∧
    (commentStart? inside = none →
      codeKind (blockLine before inside after) = classify (before ++ after) ∧
      opens (blockLine before inside after) =
        before.countByte Text.openBrace + after.countByte Text.openBrace ∧
      closes (blockLine before inside after) =
        before.countByte Text.closeBrace + after.countByte Text.closeBrace) ∧
    ∀ i, commentStart? inside = some i →
      stripComments (blockLine before inside after) = before ++ openMark ++ inside.take i := by
  refine ⟨⟨fun hcut => ?_, block.stripComments_of_none⟩, fun h => ?_,
    fun i => block.stripComments_of_some⟩
  · cases h : commentStart? inside with
    | none => rfl
    | some i =>
      rw [block.stripComments_of_some h, List.append_assoc] at hcut
      have hafter : openMark ++ inside.take i = after := List.append_cancel_left hcut
      exact absurd (hafter ▸ (List.prefix_append openMark _).isInfix) block.after_open
  · rw [codeKind, opens, closes, block.stripComments_of_none h]
    exact ⟨rfl, List.count_append, List.count_append⟩

/-- A parameter with a note on it, in which a `//` is escaped. -/
def escapedNote : Text := " was \\// or \x7d "

theorem escapedNote_cut_out :
    IsBlock "fn f(" escapedNote "x: u8) \x7b" ∧ commentStart? escapedNote = none ∧
    stripComments (blockLine "fn f(" escapedNote "x: u8) \x7b") =
      ("fn f(" : Text) ++ ("x: u8) \x7b" : Text) := by
  have block : IsBlock "fn f(" escapedNote "x: u8) \x7b" := by
    constructor <;> decide
  exact ⟨block, by decide, (stripComments_block block).1.2 (by decide)⟩

/-- A structure that is commented out, with a `//` behind its name. -/
def oldStructure : Text := " struct Hidden // old "

/-- The line declares a function, but its code is lost and the structure in the block is read as its
code. -/
theorem oldStructure_hides_function :
    IsBlock [] oldStructure " fn f() \x7b" ∧
    stripComments (blockLine [] oldStructure " fn f() \x7b") ≠ [] ++ (" fn f() \x7b" : Text) ∧
    stripComments (blockLine [] oldStructure " fn f() \x7b") = "/* struct Hidden " ∧
    codeKind (blockLine [] oldStructure " fn f() \x7b") = .struct ∧
    codeName (blockLine [] oldStructure " fn f() \x7b") .struct = "Hidden" ∧
    opens (blockLine [] oldStructure " fn f() \x7b") = 0 ∧
    classify " fn f() \x7b" = .function := by
  refine ⟨by constructor <;> decide, ?_, ?_, ?_, ?_, ?_, ?_⟩
  all_goals decide +kernel

end DocScribe.Source
