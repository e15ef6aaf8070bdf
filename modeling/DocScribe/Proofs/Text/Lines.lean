import DocScribe.Text.Basic

/-!
# Cutting and joining texts

Splitting at a byte and joining with it are inverse to each other, so every text is its complete
lines (`terminate`) followed by one open line. `crlf_infix_iff` reads the line ends of a text off
its pieces: CR LF occurs iff a piece other than the last ends in a carriage return.
-/

namespace DocScribe.Text

/-! Known starts and ends. -/

theorem dropStart?_eq_some_iff {start s rest : Text} :
    dropStart? start s = some rest ↔ s = start ++ rest := by
  induction start generalizing s with
  | nil =>
    rw [dropStart?, Option.some_inj, List.nil_append]
  | cons b start ih =>
    cases s with
    | nil => simp [dropStart?]
    | cons c s =>
      rw [dropStart?, List.cons_append, List.cons.injEq, ← ih]
      by_cases hbc : b = c
      · simp [hbc]
      · simp [hbc, Ne.symm hbc]

theorem startsWith_iff {s start : Text} : startsWith s start = true ↔ start <+: s := by
  rw [startsWith, Option.isSome_iff_exists]
  constructor
  · rintro ⟨rest, h⟩
    exact ⟨rest, (dropStart?_eq_some_iff.1 h).symm⟩
  · rintro ⟨rest, h⟩
    exact ⟨rest, dropStart?_eq_some_iff.2 h.symm⟩

theorem dropEnd?_eq_some_iff {tail s front : Text} :
    dropEnd? tail s = some front ↔ s = front ++ tail := by
  rw [dropEnd?, Option.map_eq_some_iff]
  constructor
  · rintro ⟨rest, h, rfl⟩
    have hrev := congrArg List.reverse (dropStart?_eq_some_iff.1 h)
    simpa using hrev
  · intro h
    exact ⟨front.reverse, dropStart?_eq_some_iff.2 (by rw [h, List.reverse_append]),
      List.reverse_reverse front⟩

theorem trimStartOf_append (start rest : Text) : trimStartOf start (start ++ rest) = rest := by
  rw [trimStartOf, dropStart?_eq_some_iff.2 rfl, Option.getD_some]

theorem trimStartOf_of_not_isPrefix {start s : Text} (h : ¬ start <+: s) :
    trimStartOf start s = s := by
  rw [trimStartOf]
  cases hdrop : dropStart? start s with
  | none => rfl
  | some rest => exact absurd ⟨rest, (dropStart?_eq_some_iff.1 hdrop).symm⟩ h

theorem trimEndOf_append (front tail : Text) : trimEndOf tail (front ++ tail) = front := by
  rw [trimEndOf, dropEnd?_eq_some_iff.2 rfl, Option.getD_some]

theorem trimEndOf_of_not_suffix {tail s : Text} (h : ¬ tail <:+ s) : trimEndOf tail s = s := by
  rw [trimEndOf]
  cases hdrop : dropEnd? tail s with
  | none => rfl
  | some front => exact absurd ⟨front, (dropEnd?_eq_some_iff.1 hdrop).symm⟩ h

/-! Occurrences of a separator. -/

theorem includes_iff {s sep : Text} : includes s sep = true ↔ sep <:+: s := by
  induction s with
  | nil => cases sep <;> simp [includes, cut?]
  | cons c s ih =>
    rw [List.infix_cons_iff, ← ih, ← startsWith_iff, includes, includes, startsWith, cut?]
    cases dropStart? sep (c :: s) with
    | none => simp
    | some rest => simp

theorem cut?_of_absent {s sep : Text} (h : ¬ sep <:+: s) : cut? sep s = none := by
  rw [← Option.not_isSome_iff_eq_none]
  exact mt includes_iff.1 h

theorem splitOn_of_absent {sep s : Text} (h : ¬ sep <:+: s) : splitOn sep s = [s] := by
  induction s with
  | nil => rfl
  | cons c s ih =>
    rw [List.infix_cons_iff, not_or] at h
    have hrest := ih h.2
    rw [splitOn] at hrest
    rw [splitOn, splitAfter, if_neg (fun hstart => h.1 (startsWith_iff.1 hstart)), hrest]

theorem replaceAll_of_absent {old s : Text} (new : Text) (h : ¬ old <:+: s) :
    replaceAll old new s = s := by
  rw [replaceAll, splitOn_of_absent h, join]

theorem splitOnByte_ne_nil (sep : UInt8) (s : Text) : splitOnByte sep s ≠ [] := by
  cases s with
  | nil => simp [splitOnByte]
  | cons c s =>
    rw [splitOnByte]
    split
    · simp
    · split <;> simp

theorem splitOn_singleton (sep : UInt8) (s : Text) : splitOn [sep] s = splitOnByte sep s := by
  induction s with
  | nil => rfl
  | cons c s ih =>
    rw [splitOn] at ih
    rw [splitOn, splitAfter, splitOnByte, List.length_singleton, Nat.sub_self, ih]
    have hstart : startsWith (c :: s) [sep] = true ↔ (c == sep) = true := by
      rw [startsWith_iff, beq_iff_eq, List.cons_prefix_cons, eq_comm]
      simp
    simp only [hstart]

theorem splitOnByte_eq_splitOn (sep : UInt8) (s : Text) :
    splitOnByte sep s = List.splitOn sep s := by
  induction s with
  | nil => rfl
  | cons c s ih =>
    rw [splitOnByte, List.splitOn_cons_eq_if_modifyHead, ih]
    split
    · rfl
    · split
      · next h => exact absurd h (List.splitOn_ne_nil sep s)
      · next h => rw [h, List.modifyHead_cons]

theorem not_mem_of_mem_splitOnByte {sep : UInt8} {s piece : Text} (h : piece ∈ splitOnByte sep s) :
    sep ∉ piece := by
  induction s generalizing piece with
  | nil => simp_all [splitOnByte]
  | cons c s ih =>
    rw [splitOnByte] at h
    split at h
    · rcases List.mem_cons.1 h with rfl | hmem
      · exact List.not_mem_nil
      · exact ih hmem
    · next hc =>
      split at h
      · next hnil => exact absurd hnil (splitOnByte_ne_nil sep s)
      · next first pieces hsplit =>
        rw [hsplit] at ih
        rcases List.mem_cons.1 h with rfl | hmem
        · have hfirst := ih List.mem_cons_self
          have hne : ¬ sep = c := fun h => hc (beq_iff_eq.2 h.symm)
          exact fun hin => (List.mem_cons.1 hin).elim hne hfirst
        · exact ih (List.mem_cons_of_mem first hmem)

/-! Joining. -/

theorem join_eq_intercalate (sep : Text) (pieces : List Text) :
    join sep pieces = sep.intercalate pieces := by
  induction pieces with
  | nil => rfl
  | cons piece pieces ih =>
    cases pieces with
    | nil => simp [join]
    | cons next pieces => rw [join, ih, List.intercalate_cons_cons]; simp

theorem join_splitOnByte (sep : UInt8) (s : Text) : join [sep] (splitOnByte sep s) = s := by
  rw [join_eq_intercalate, splitOnByte_eq_splitOn, List.intercalate_splitOn]

theorem splitOnByte_join {sep : UInt8} {pieces : List Text} (hne : pieces ≠ [])
    (free : ∀ piece ∈ pieces, sep ∉ piece) : splitOnByte sep (join [sep] pieces) = pieces := by
  rw [join_eq_intercalate, splitOnByte_eq_splitOn, List.splitOn_intercalate sep free hne]

/-- What is computed after some bytes that are skipped is computed of the rest of the text. -/
theorem eq_drop_of_skips {α : Type} {f : Nat → Text → α} (nil : ∀ skip, f skip [] = f 0 [])
    (skips : ∀ skip b s, f (skip + 1) (b :: s) = f skip s) (skip : Nat) (s : Text) :
    f skip s = f 0 (s.drop skip) := by
  induction s generalizing skip with
  | nil => rw [List.drop_nil, nil]
  | cons b s ih =>
    cases skip with
    | zero => rfl
    | succ k => exact (skips k b s).trans (ih k)

theorem splitAfter_eq_drop (sep : Text) (skip : Nat) (s : Text) :
    splitAfter sep skip s = splitOn sep (s.drop skip) :=
  eq_drop_of_skips (fun skip => by cases skip <;> rfl) (fun _ _ _ => rfl) skip s

/-- A piece in which the separator cannot begin is cut off at the first separator. -/
theorem splitOn_append_sep {c : UInt8} {cs piece : Text} (free : c ∉ piece) (rest : Text) :
    splitOn (c :: cs) (piece ++ (c :: cs) ++ rest) = piece :: splitOn (c :: cs) rest := by
  induction piece with
  | nil =>
    have hstart : startsWith (c :: (cs ++ rest)) (c :: cs) = true :=
      startsWith_iff.2 ⟨rest, by simp⟩
    rw [List.nil_append, List.cons_append, splitOn, splitAfter, if_pos hstart, List.length_cons,
      Nat.add_sub_cancel, splitAfter_eq_drop, List.drop_left]
  | cons b piece ih =>
    obtain ⟨hb, hpiece⟩ := not_or.1 (mt List.mem_cons.2 free)
    have hstart : ¬ startsWith (b :: (piece ++ (c :: cs) ++ rest)) (c :: cs) = true := by
      rw [startsWith_iff, List.cons_prefix_cons]
      exact fun h => hb h.1
    have hrest := ih hpiece
    rw [splitOn] at hrest
    rw [List.cons_append, List.cons_append, splitOn, splitAfter, if_neg hstart, hrest]

theorem splitOn_join {c : UInt8} {cs : Text} {pieces : List Text} (hne : pieces ≠ [])
    (free : ∀ piece ∈ pieces, c ∉ piece) :
    splitOn (c :: cs) (join (c :: cs) pieces) = pieces := by
  induction pieces with
  | nil => exact absurd rfl hne
  | cons piece pieces ih =>
    obtain ⟨hpiece, hrest⟩ := List.forall_mem_cons.1 free
    cases pieces with
    | nil =>
      refine splitOn_of_absent fun hinfix => hpiece ?_
      exact hinfix.mem List.mem_cons_self
    | cons next pieces =>
      rw [join, splitOn_append_sep hpiece, ih (List.cons_ne_nil next pieces) hrest]
      intro h
      cases h

/-! Complete lines. -/

/-- The lines one after another, each followed by `sep`. -/
def terminate (sep : Text) (lines : List Text) : Text :=
  lines.flatMap (· ++ sep)

theorem terminate_append (sep : Text) (front back : List Text) :
    terminate sep (front ++ back) = terminate sep front ++ terminate sep back :=
  List.flatMap_append

theorem join_append (sep : Text) (front : List Text) {back : List Text} (hback : back ≠ []) :
    join sep (front ++ back) = terminate sep front ++ join sep back := by
  induction front with
  | nil => rfl
  | cons piece front ih =>
    obtain ⟨next, rest, hcons⟩ := List.exists_cons_of_ne_nil
      (List.append_ne_nil_of_right_ne_nil front hback)
    rw [hcons] at ih
    rw [List.cons_append, hcons, join, ih]
    simp [terminate]
    intro h
    cases h

theorem join_concat (sep : Text) (front : List Text) (last : Text) :
    join sep (front ++ [last]) = terminate sep front ++ last :=
  join_append sep front (List.cons_ne_nil last [])

theorem terminate_eq_join_append (sep : Text) {lines : List Text} (hne : lines ≠ []) :
    terminate sep lines = join sep lines ++ sep := by
  rw [← List.dropLast_concat_getLast hne, terminate_append, join_concat]
  simp [terminate]

theorem splitOnByte_terminate {sep : UInt8} {lines : List Text}
    (free : ∀ line ∈ lines, sep ∉ line) :
    splitOnByte sep (terminate [sep] lines) = lines ++ [[]] := by
  have hfree : ∀ piece ∈ lines ++ [[]], sep ∉ piece := by
    intro piece hmem
    rcases List.mem_append.1 hmem with hline | hnil
    · exact free piece hline
    · rw [List.mem_singleton.1 hnil]
      exact List.not_mem_nil
  have hsplit := splitOnByte_join (List.append_ne_nil_of_right_ne_nil lines (by simp)) hfree
  rwa [join_concat, List.append_nil] at hsplit

/-- Replacing the byte that ends each line. -/
theorem replaceAll_terminate {sep : UInt8} (new : Text) {lines : List Text}
    (free : ∀ line ∈ lines, sep ∉ line) :
    replaceAll [sep] new (terminate [sep] lines) = terminate new lines := by
  rw [replaceAll, splitOn_singleton, splitOnByte_terminate free, join_concat, List.append_nil]

theorem countByte_terminate {sep : UInt8} {lines : List Text}
    (free : ∀ line ∈ lines, sep ∉ line) :
    (terminate [sep] lines).countByte sep = lines.length := by
  induction lines with
  | nil => rfl
  | cons line lines ih =>
    obtain ⟨hline, hlines⟩ := List.forall_mem_cons.1 free
    have hrest := ih hlines
    rw [countByte, terminate] at hrest
    rw [countByte, terminate, List.flatMap_cons, List.count_append, List.count_append,
      List.count_eq_zero.2 hline, hrest, List.count_singleton_self, List.length_cons]
    omega

/-- Complete lines end as their separator does. -/
theorem getLast?_terminate {sep : Text} (hsep : sep ≠ []) {lines : List Text} (hne : lines ≠ []) :
    (terminate sep lines).getLast? = sep.getLast? := by
  rw [← List.dropLast_concat_getLast hne, terminate_append, terminate, terminate,
    List.flatMap_singleton, ← List.append_assoc, List.getLast?_append,
    List.getLast?_eq_some_getLast hsep, Option.some_or]

/-- A text is its complete lines and one open line. -/
theorem exists_splitOnByte_eq_concat (sep : UInt8) (s : Text) :
    ∃ front last, splitOnByte sep s = front ++ [last] ∧ s = terminate [sep] front ++ last := by
  have hne := splitOnByte_ne_nil sep s
  have hsplit := (List.dropLast_concat_getLast hne).symm
  refine ⟨(splitOnByte sep s).dropLast, (splitOnByte sep s).getLast hne, hsplit, ?_⟩
  rw [← join_concat, ← hsplit, join_splitOnByte]

/-- A piece before a separator, in its place. -/
theorem exists_of_mem_dropLast_splitOnByte {sep : UInt8} {s piece : Text}
    (h : piece ∈ (splitOnByte sep s).dropLast) :
    ∃ front rest, s = terminate [sep] front ++ piece ++ sep :: rest := by
  obtain ⟨front, last, hsplit, hs⟩ := exists_splitOnByte_eq_concat sep s
  rw [hsplit, List.dropLast_concat] at h
  obtain ⟨before, after, rfl⟩ := List.append_of_mem h
  refine ⟨before, terminate [sep] after ++ last, ?_⟩
  rw [hs, terminate_append]
  simp [terminate]

/-- What stands before a separator ends in another byte iff the line does. -/
theorem getLast?_terminate_append_iff {sep b : UInt8} (hb : b ≠ sep) {front : List Text}
    {last : Text} : (terminate [sep] front ++ last).getLast? = some b ↔ last.getLast? = some b := by
  by_cases hlast : last = []
  · rw [hlast, List.append_nil]
    by_cases hfront : front = []
    · rw [hfront]
      rfl
    · rw [getLast?_terminate (List.cons_ne_nil sep []) hfront]
      simpa using hb.symm
  · rw [List.getLast?_append, List.getLast?_eq_some_getLast hlast, Option.some_or]

/-- The last piece of a text that does not end in the separator ends as the text does. -/
theorem exists_mem_splitOnByte_concat {sep b : UInt8} (hb : b ≠ sep) (s : Text) :
    ∃ piece ∈ splitOnByte sep (s ++ [b]), piece.getLast? = some b := by
  obtain ⟨front, last, hsplit, hs⟩ := exists_splitOnByte_eq_concat sep (s ++ [b])
  refine ⟨last, hsplit ▸ List.mem_append_right front List.mem_cons_self, ?_⟩
  rw [← getLast?_terminate_append_iff hb, ← hs, List.getLast?_concat]

theorem splitOnByte_append_cons (sep : UInt8) (front rest : Text) :
    splitOnByte sep (front ++ sep :: rest) = splitOnByte sep front ++ splitOnByte sep rest := by
  simp only [splitOnByte_eq_splitOn]
  exact List.splitOn_append_cons_self front rest

theorem mem_dropLast_of_mem_splitOnByte {sep : UInt8} {front rest piece : Text}
    (h : piece ∈ splitOnByte sep front) :
    piece ∈ (splitOnByte sep (front ++ sep :: rest)).dropLast := by
  rw [splitOnByte_append_cons, List.dropLast_append_of_ne_nil (splitOnByte_ne_nil sep rest)]
  exact List.mem_append_left _ h

/-- CR LF occurs iff some line feed follows a carriage return. -/
theorem crlf_infix_iff {s : Text} :
    [cr, lf] <:+: s ↔ ∃ piece ∈ (splitOnByte lf s).dropLast, piece.getLast? = some cr := by
  constructor
  · rintro ⟨front, rest, rfl⟩
    obtain ⟨piece, hmem, hlast⟩ := exists_mem_splitOnByte_concat (show cr ≠ lf by decide) front
    refine ⟨piece, ?_, hlast⟩
    rw [show front ++ [cr, lf] ++ rest = (front ++ [cr]) ++ lf :: rest by simp]
    exact mem_dropLast_of_mem_splitOnByte hmem
  · rintro ⟨piece, hmem, hlast⟩
    obtain ⟨front, rest, rfl⟩ := exists_of_mem_dropLast_splitOnByte hmem
    obtain ⟨stem, rfl⟩ := List.getLast?_eq_some_iff.1 hlast
    exact ⟨terminate [lf] front ++ stem, rest, by simp⟩

/-- Every line feed follows a carriage return iff every complete line ends in one. -/
theorem forall_lf_iff {s : Text} :
    (∀ front rest, s = front ++ lf :: rest → front.getLast? = some cr) ↔
      ∀ piece ∈ (splitOnByte lf s).dropLast, piece.getLast? = some cr := by
  constructor
  · intro h piece hmem
    obtain ⟨front, rest, hs⟩ := exists_of_mem_dropLast_splitOnByte hmem
    exact (getLast?_terminate_append_iff (show cr ≠ lf by decide)).1 (h _ rest hs)
  · rintro h front rest rfl
    obtain ⟨lines, last, hsplit, hfront⟩ := exists_splitOnByte_eq_concat lf front
    have hlast : last ∈ splitOnByte lf front := by
      rw [hsplit]
      exact List.mem_append_right lines List.mem_cons_self
    rw [hfront]
    rw [getLast?_terminate_append_iff (show cr ≠ lf by decide)]
    exact h last (mem_dropLast_of_mem_splitOnByte hlast)

theorem mem_of_mem_trimEndOf {tail s : Text} {b : UInt8} (h : b ∈ trimEndOf tail s) : b ∈ s := by
  by_cases hs : tail <:+ s
  · obtain ⟨front, rfl⟩ := hs
    rw [trimEndOf_append] at h
    exact List.mem_append_left tail h
  · rwa [trimEndOf_of_not_suffix hs] at h

end DocScribe.Text
