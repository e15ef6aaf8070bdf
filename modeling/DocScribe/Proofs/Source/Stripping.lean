import DocScribe.Proofs.Source.LineComment

/-!
# Stripping a line twice

Cutting a block out of a line joins two texts that did not meet before. No line comment starts where
they meet: what follows the block does not begin with a slash, since with the last slash of the
block that would have been a line comment itself (`commentStart?_join_of_block`). So the code of a
line holds no line comment, and stripping it again can only cut out the next block.
-/

namespace DocScribe.Source

/-! Line comments in a text that is put together. -/

theorem commentStart?_eq_none_of_append {s t : Text} (h : commentStart? (s ++ t) = none) :
    commentStart? s = none := by
  cases hs : commentStart? s with
  | none => rfl
  | some i =>
    rw [commentStart?, commentStartFrom_append hs] at h
    cases h

theorem lineMark_isPrefix_of_append {s t : Text} (ht : t.head? ≠ some Text.slash)
    (h : lineMark <+: s ++ t) : lineMark <+: s := by
  match s with
  | [] =>
    obtain ⟨rest, rfl⟩ := h
    exact absurd rfl ht
  | [b] =>
    obtain ⟨rest, hrest⟩ := h
    obtain rfl := (List.cons.inj hrest).2
    exact absurd rfl ht
  | b :: c :: s =>
    rw [lineMark_isPrefix_iff] at h ⊢
    exact h

/-- No comment arises where a text is continued by one that does not start with a slash. -/
theorem commentStart?_append {s t : Text} (hs : commentStart? s = none)
    (ht : commentStart? t = none) (hhead : t.head? ≠ some Text.slash) :
    commentStart? (s ++ t) = none := by
  induction s using searchInduction with
  | nil => exact ht
  | found s hpair =>
    obtain ⟨rest, rfl⟩ := hpair
    cases hs
  | escaped s ih =>
    rw [commentStart?_escaped, Option.map_eq_none_iff] at hs
    exact (commentStart?_escaped (s ++ t)).trans (Option.map_eq_none_iff.2 (ih hs))
  | cons b s hpair hescape ih =>
    rw [commentStart?_cons hpair hescape, Option.map_eq_none_iff] at hs
    have hpair' : ¬ lineMark <+: b :: (s ++ t) := fun h =>
      hpair (lineMark_isPrefix_of_append (s := b :: s) hhead h)
    have hescape' : b = Text.backslash → ¬ lineMark <+: s ++ t := fun hb h =>
      hescape hb (lineMark_isPrefix_of_append hhead h)
    have hcons := commentStart?_cons hpair' hescape'
    rw [ih hs, Option.map_none] at hcons
    exact hcons

/-- Behind a plain byte a line without a comment has none. -/
theorem commentStart?_eq_none_of_plain {s t : Text} {b : UInt8} (hb : isPlain b)
    (h : commentStart? (s ++ b :: t) = none) : commentStart? t = none := by
  have hs := commentStart?_eq_none_of_append h
  rw [commentStart?, commentStartFrom_append_plain hs hb, Option.map_eq_none_iff] at h
  exact h

/-- **The seam**: a line without a line comment has none after a block is cut out of it. -/
theorem commentStart?_join_of_block {before inside after : Text}
    (h : commentStart? (blockLine before inside after) = none) :
    commentStart? (before ++ after) = none := by
  have hfront : commentStart? before = none := by
    rw [blockLine, List.append_assoc] at h
    exact commentStart?_eq_none_of_append h
  have hline : blockLine before inside after =
      (before ++ Text.slash :: 0x2a :: inside) ++ 0x2a :: (Text.slash :: after) := by
    simp [blockLine]
  rw [hline] at h
  have hclose : commentStart? (Text.slash :: after) = none :=
    commentStart?_eq_none_of_plain isPlain_star h
  have hpair : ¬ lineMark <+: Text.slash :: after := by
    rintro ⟨rest, hrest⟩
    rw [← hrest] at hclose
    cases hclose
  have hhead : after.head? ≠ some Text.slash := by
    intro hslash
    obtain ⟨rest, rfl⟩ := List.head?_eq_some_iff.1 hslash
    exact hpair ⟨rest, rfl⟩
  rw [commentStart?_cons hpair fun h => absurd h slash_ne_backslash, Option.map_eq_none_iff]
    at hclose
  exact commentStart?_append hfront hclose hhead

theorem cutLineComment_of_none {line : Text} (h : commentStart? line = none) :
    cutLineComment line = line := by
  rw [cutLineComment, h]

theorem commentStart?_cutLineComment (line : Text) :
    commentStart? (cutLineComment line) = none := by
  cases hline : commentStart? line with
  | none => rw [cutLineComment_of_none hline, hline]
  | some i =>
    rw [cutLineComment, hline]
    dsimp only
    cases hcut : commentStart? (line.take i) with
    | none => rfl
    | some j =>
      -- It would be the one where the line was cut, but the slash there is gone.
      have hagain := commentStartFrom_append hcut (line.drop i)
      rw [List.take_append_drop] at hagain
      obtain rfl : i = j := Option.some.inj (hline.symm.trans hagain)
      have first := isFirst_startsComment (line.take i)
      rw [hcut] at first
      have hslash := first.1.1.1
      simp at hslash

/-! Cutting a block out. -/

/-- A block opens and closes on the line. -/
def HasBlock (line : Text) : Prop :=
  ∃ before inside after, line = blockLine before inside after

/-- `rest` is the line without its first block. -/
def CutsBlock (line rest : Text) : Prop :=
  ∃ before inside after, line = blockLine before inside after ∧
    Text.BeforeFirst openMark before ∧ Text.BeforeFirst closeMark inside ∧ rest = before ++ after

theorem CutsBlock.hasBlock {line rest : Text} (h : CutsBlock line rest) : HasBlock line := by
  obtain ⟨before, inside, after, hline, -, -, -⟩ := h
  exact ⟨before, inside, after, hline⟩

theorem CutsBlock.ne {line rest : Text} (h : CutsBlock line rest) : rest ≠ line := by
  obtain ⟨before, inside, after, rfl, -, -, rfl⟩ := h
  intro heq
  have hlength := congrArg List.length heq
  simp only [blockLine, List.length_append, List.length_cons] at hlength
  omega

theorem cutBlockComment_cases (line : Text) :
    (cutBlockComment line = line ∧ ¬ HasBlock line) ∨ CutsBlock line (cutBlockComment line) := by
  by_cases hopen : openMark <:+: line
  · obtain ⟨before, rest, rfl, first⟩ := Text.exists_beforeFirst (List.cons_ne_nil _ _) hopen
    have hcut : Text.cut? "/*" (before ++ openMark ++ rest) = some (before, rest) :=
      Text.cut?_of_first (List.cons_ne_nil _ _) first rest
    by_cases hclose : closeMark <:+: rest
    · obtain ⟨inside, after, rfl, last⟩ := Text.exists_beforeFirst (List.cons_ne_nil _ _) hclose
      have hrest : Text.cut? "*/" (inside ++ closeMark ++ after) = some (inside, after) :=
        Text.cut?_of_first (List.cons_ne_nil _ _) last after
      refine .inr ⟨before, inside, after, rfl, first, last, ?_⟩
      rw [cutBlockComment, hcut]
      dsimp only
      rw [hrest]
    · refine .inl ⟨?_, ?_⟩
      · have hrest : Text.cut? "*/" rest = none := Text.cut?_of_absent hclose
        rw [cutBlockComment, hcut]
        dsimp only
        rw [hrest]
      · rintro ⟨front, inside, after, hline⟩
        refine hclose (List.IsInfix.trans ?_ (first.isSuffix hline).isInfix)
        exact ⟨inside, after, rfl⟩
  · refine .inl ⟨?_, ?_⟩
    · have hline : Text.cut? "/*" line = none := Text.cut?_of_absent hopen
      rw [cutBlockComment, hline]
    · rintro ⟨before, inside, after, rfl⟩
      exact hopen ⟨before, _, rfl⟩

theorem commentStart?_stripComments (line : Text) :
    commentStart? (stripComments line) = none := by
  have hline := commentStart?_cutLineComment line
  rw [stripComments]
  rcases cutBlockComment_cases (cutLineComment line) with ⟨hsame, -⟩ | hcut
  · rw [hsame, hline]
  · obtain ⟨before, inside, after, hblock, -, -, hjoin⟩ := hcut
    rw [hjoin]
    rw [hblock] at hline
    exact commentStart?_join_of_block hline

/-- **Code holds no line comment**: stripping it again cuts out one more block, if there is one, and
changes nothing exactly if there is none. -/
theorem stripComments_again (line : Text) :
    commentStart? (stripComments line) = none ∧
    (stripComments (stripComments line) = stripComments line ∨
      CutsBlock (stripComments line) (stripComments (stripComments line))) ∧
    (stripComments (stripComments line) = stripComments line ↔
      ¬ HasBlock (stripComments line)) := by
  have hnone := commentStart?_stripComments line
  have hagain : stripComments (stripComments line) = cutBlockComment (stripComments line) := by
    rw [stripComments.eq_def (stripComments line), cutLineComment_of_none hnone]
  rw [hagain]
  refine ⟨hnone, ?_⟩
  rcases cutBlockComment_cases (stripComments line) with ⟨hsame, hno⟩ | hcut
  · exact ⟨.inl hsame, fun _ => hno, fun _ => hsame⟩
  · exact ⟨.inr hcut, fun hsame => absurd hsame hcut.ne, fun hno => absurd hcut.hasBlock hno⟩

-- A block that opens with the last byte before the first one.
example : stripComments "\\//* x */* y */" = "\\/* y */" := by
  decide

end DocScribe.Source
