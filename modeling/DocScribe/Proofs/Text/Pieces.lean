import DocScribe.Proofs.Text.Lines
import Mathlib.Data.List.Infix

/-!
# The first occurrence of a separator

A text in which a separator occurs is cut at its first occurrence: what comes before is the first
piece and the rest is split again (`splitOn_of_first`). Facts about the pieces of a text are proved
along these cuts (`splitInduction`). Read line by line, replacing CR LF by LF takes one carriage
return off the end of each complete line (`replaceAll_crlf_line`).
-/

namespace DocScribe.Text

/-- In the text with the separator behind it, the separator occurs at the end only. -/
def BeforeFirst (sep piece : Text) : Prop :=
  ¬ sep <:+: (piece ++ sep).dropLast

theorem beforeFirst_singleton_iff {sep : UInt8} {piece : Text} :
    BeforeFirst [sep] piece ↔ sep ∉ piece := by
  rw [BeforeFirst, List.dropLast_concat, List.singleton_infix_iff]

/-- What lies across the end of a text and a separator of two bytes does not start with the second
byte. -/
theorem beforeFirst_pair {x y : UInt8} (hne : x ≠ y) {piece : Text}
    (absent : ¬ [x, y] <:+: piece) : BeforeFirst [x, y] piece := by
  have hinit : (piece ++ [x, y]).dropLast = piece ++ [x] := by
    rw [List.append_cons, List.dropLast_concat]
  rw [BeforeFirst, hinit, List.infix_concat_iff, not_or]
  refine ⟨?_, absent⟩
  rintro ⟨front, hfront⟩
  rw [List.append_cons] at hfront
  exact hne (List.singleton_inj.1 (List.append_inj' hfront rfl).2).symm

/-- The separator does not occur before its first occurrence, whatever follows that. -/
theorem BeforeFirst.not_startsWith {sep : Text} {b : UInt8} {piece : Text}
    (first : BeforeFirst sep (b :: piece)) (rest : Text) :
    ¬ startsWith (b :: (piece ++ sep ++ rest)) sep = true := by
  intro h
  have hhead : sep <+: (b :: piece ++ sep).dropLast := by
    refine List.prefix_of_prefix_length_le (startsWith_iff.1 h) ?_ ?_
    · have hinit : (b :: piece ++ sep).dropLast <+: b :: piece ++ sep := List.dropLast_prefix _
      exact hinit.trans ⟨rest, by simp⟩
    · simp
  exact first hhead.isInfix

/-- Behind the first occurrence of a separator stands all that follows any other occurrence. -/
theorem BeforeFirst.isSuffix {sep piece rest front tail : Text} (first : BeforeFirst sep piece)
    (h : piece ++ sep ++ rest = front ++ sep ++ tail) : tail <:+ rest := by
  have hle : tail.length ≤ rest.length := by
    by_contra hlt
    have hlength := congrArg List.length h
    simp only [List.length_append] at hlength
    have hfront : front ++ sep <+: (piece ++ sep).dropLast := by
      refine List.prefix_of_prefix_length_le ⟨tail, rfl⟩ ?_ ?_
      · rw [← h]
        exact (List.dropLast_prefix _).trans (List.prefix_append _ rest)
      · simp only [List.length_append, List.length_dropLast]
        omega
    exact first ((List.suffix_append front sep).isInfix.trans hfront.isInfix)
  refine List.suffix_of_suffix_length_le ?_ (List.suffix_append (piece ++ sep) rest) hle
  rw [h]
  exact List.suffix_append (front ++ sep) tail

section

variable {sep : Text} (hsep : sep ≠ [])
include hsep

theorem dropLast_append_sep (piece : Text) :
    (piece ++ sep).dropLast = piece ++ sep.dropLast :=
  List.dropLast_append_of_ne_nil hsep

theorem BeforeFirst.absent {piece : Text} (first : BeforeFirst sep piece) :
    ¬ sep <:+: piece := by
  intro h
  refine first (h.trans ?_)
  rw [dropLast_append_sep hsep]
  exact List.infix_append' [] piece sep.dropLast

theorem BeforeFirst.of_append {front piece : Text} (first : BeforeFirst sep (front ++ piece)) :
    BeforeFirst sep piece := by
  intro h
  refine first (h.trans ?_)
  rw [dropLast_append_sep hsep, dropLast_append_sep hsep, List.append_assoc]
  exact (List.suffix_append front _).isInfix

theorem exists_beforeFirst {s : Text} (h : sep <:+: s) :
    ∃ piece rest, s = piece ++ sep ++ rest ∧ BeforeFirst sep piece := by
  induction s with
  | nil => exact absurd (List.infix_nil.1 h) hsep
  | cons b s ih =>
    by_cases hstart : sep <+: b :: s
    · obtain ⟨rest, hrest⟩ := hstart
      refine ⟨[], rest, hrest.symm, fun hno => ?_⟩
      have hlength := hno.length_le
      have hpos := List.length_pos_iff.2 hsep
      rw [List.nil_append, List.length_dropLast] at hlength
      omega
    · obtain ⟨piece, rest, rfl, first⟩ := ih ((List.infix_cons_iff.1 h).resolve_left hstart)
      refine ⟨b :: piece, rest, rfl, fun hno => ?_⟩
      rw [dropLast_append_sep hsep, List.cons_append, List.infix_cons_iff] at hno
      rcases hno with hhead | hin
      · refine hstart (hhead.trans (List.cons_prefix_cons.2 ⟨rfl, ?_⟩))
        rw [List.append_assoc, List.prefix_append_right_inj]
        have hinit : sep.dropLast <+: sep := List.dropLast_prefix sep
        exact hinit.trans (List.prefix_append sep rest)
      · rw [← dropLast_append_sep hsep] at hin
        exact first hin

/-- Goes through a text from one occurrence of a separator to the next. -/
theorem splitInduction {motive : Text → Prop} (absent : ∀ s, ¬ sep <:+: s → motive s)
    (cut : ∀ piece rest, BeforeFirst sep piece → motive rest → motive (piece ++ sep ++ rest))
    (s : Text) : motive s := by
  induction h : s.length using Nat.strongRecOn generalizing s with
  | ind n ih =>
    by_cases hin : sep <:+: s
    · obtain ⟨piece, rest, rfl, first⟩ := exists_beforeFirst hsep hin
      refine cut piece rest first (ih rest.length ?_ rest rfl)
      have hpos := List.length_pos_iff.2 hsep
      rw [List.length_append, List.length_append] at h
      omega
    · exact absent s hin

theorem cut?_of_first {piece : Text} (first : BeforeFirst sep piece) (rest : Text) :
    cut? sep (piece ++ sep ++ rest) = some (piece, rest) := by
  induction piece with
  | nil =>
    obtain ⟨c, cs, rfl⟩ := List.exists_cons_of_ne_nil hsep
    have hdrop : dropStart? (c :: cs) (c :: (cs ++ rest)) = some rest :=
      dropStart?_eq_some_iff.2 rfl
    rw [List.nil_append, List.cons_append, cut?, hdrop]
  | cons b piece ih =>
    have htail : BeforeFirst sep ([b] ++ piece) := first
    have hstart : dropStart? sep (b :: (piece ++ sep ++ rest)) = none := by
      simpa [startsWith] using first.not_startsWith rest
    rw [List.cons_append, List.cons_append, cut?, hstart, ih (htail.of_append hsep),
      Option.map_some]

theorem splitOn_of_first {piece : Text} (first : BeforeFirst sep piece) (rest : Text) :
    splitOn sep (piece ++ sep ++ rest) = piece :: splitOn sep rest := by
  induction piece with
  | nil =>
    obtain ⟨c, cs, rfl⟩ := List.exists_cons_of_ne_nil hsep
    exact splitOn_append_sep List.not_mem_nil rest
  | cons b piece ih =>
    have htail : BeforeFirst sep ([b] ++ piece) := first
    have hrest := ih (htail.of_append hsep)
    rw [splitOn] at hrest
    rw [List.cons_append, List.cons_append, splitOn, splitAfter,
      if_neg (first.not_startsWith rest), hrest]

theorem splitOn_ne_nil (s : Text) : splitOn sep s ≠ [] := by
  induction s using splitInduction hsep with
  | absent s h => simp [splitOn_of_absent h]
  | cut piece rest first ih =>
    rw [splitOn_of_first hsep first]
    exact List.cons_ne_nil _ _

theorem not_infix_of_mem_splitOn {s piece : Text} (h : piece ∈ splitOn sep s) :
    ¬ sep <:+: piece := by
  induction s using splitInduction hsep with
  | absent s habsent =>
    rw [splitOn_of_absent habsent, List.mem_singleton] at h
    rwa [h]
  | cut front rest first ih =>
    rw [splitOn_of_first hsep first] at h
    rcases List.mem_cons.1 h with rfl | hrest
    · exact first.absent hsep
    · exact ih hrest

theorem isInfix_of_mem_splitOn {s piece : Text} (h : piece ∈ splitOn sep s) : piece <:+: s := by
  induction s using splitInduction hsep with
  | absent s habsent =>
    rw [splitOn_of_absent habsent, List.mem_singleton] at h
    rw [h]
  | cut front rest first ih =>
    rw [splitOn_of_first hsep first] at h
    rcases List.mem_cons.1 h with rfl | hrest
    · rw [List.append_assoc]
      exact (List.prefix_append piece (sep ++ rest)).isInfix
    · exact (ih hrest).trans (List.suffix_append (front ++ sep) rest).isInfix

theorem replaceAll_of_first (new : Text) {piece : Text} (first : BeforeFirst sep piece)
    (rest : Text) : replaceAll sep new (piece ++ sep ++ rest) =
      piece ++ new ++ replaceAll sep new rest := by
  obtain ⟨next, pieces, hsplit⟩ := List.exists_cons_of_ne_nil (splitOn_ne_nil hsep rest)
  rw [replaceAll, replaceAll, splitOn_of_first hsep first, hsplit, join]
  intro h
  cases h

theorem replaceAll_cons {b : UInt8} {s : Text} (new : Text)
    (h : ¬ startsWith (b :: s) sep = true) :
    replaceAll sep new (b :: s) = b :: replaceAll sep new s := by
  obtain ⟨piece, pieces, hsplit⟩ := List.exists_cons_of_ne_nil (splitOn_ne_nil hsep s)
  have hcons : splitOn sep (b :: s) = (b :: piece) :: pieces := by
    rw [splitOn] at hsplit
    rw [splitOn, splitAfter, if_neg h, hsplit]
  rw [replaceAll, replaceAll, hcons, hsplit]
  cases pieces <;> rfl

end

/-- A text that starts with the separator does so before any byte that the separator does not
hold. -/
theorem isPrefix_of_append_cons {sep s t : Text} {b : UInt8} (hb : b ∉ sep)
    (h : sep <+: s ++ b :: t) : sep <+: s := by
  rcases List.prefix_or_prefix_of_prefix h (List.prefix_append s (b :: t)) with hsep | ⟨rest, rfl⟩
  · exact hsep
  · cases rest with
    | nil => simp
    | cons c rest =>
      rw [List.prefix_append_right_inj, List.cons_prefix_cons] at h
      exact absurd (List.mem_append_right s (h.1 ▸ List.mem_cons_self)) hb

/-- Occurrences of a separator before and behind a byte that it does not hold. -/
theorem infix_append_cons {sep s t : Text} {b : UInt8} (hsep : sep ≠ []) (hb : b ∉ sep)
    (h : sep <:+: s ++ b :: t) : sep <:+: s ∨ sep <:+: t := by
  induction s with
  | nil =>
    rw [List.nil_append, List.infix_cons_iff] at h
    refine .inr (h.resolve_left fun hstart => ?_)
    obtain ⟨c, rest, rfl⟩ := List.exists_cons_of_ne_nil hsep
    exact hb ((List.cons_prefix_cons.1 hstart).1 ▸ List.mem_cons_self)
  | cons c s ih =>
    rw [List.cons_append, List.infix_cons_iff] at h
    rcases h with hstart | hin
    · exact .inl (isPrefix_of_append_cons (s := c :: s) hb hstart).isInfix
    · exact (ih hin).imp_left fun hin => hin.trans (List.suffix_cons c s).isInfix

/-- A text may be cut before a byte of no separator, since no separator lies across the cut. -/
theorem replaceAll_append_cons {sep : Text} (hsep : sep ≠ []) (new : Text) {b : UInt8}
    (hb : b ∉ sep) (s t : Text) :
    replaceAll sep new (s ++ b :: t) = replaceAll sep new s ++ replaceAll sep new (b :: t) := by
  induction s using splitInduction hsep with
  | absent s h =>
    rw [replaceAll_of_absent new h]
    induction s with
    | nil => rfl
    | cons c s ih =>
      have hstart : ¬ startsWith (c :: (s ++ b :: t)) sep = true := fun hstart =>
        h (isPrefix_of_append_cons (s := c :: s) hb (startsWith_iff.1 hstart)).isInfix
      rw [List.cons_append, replaceAll_cons hsep new hstart, List.cons_append,
        ih fun hin => h (hin.trans (List.suffix_cons c s).isInfix)]
  | cut piece rest first ih =>
    rw [List.append_assoc, replaceAll_of_first hsep new first, ih,
      replaceAll_of_first hsep new first]
    simp only [List.append_assoc]

theorem crlf_ne_nil : [cr, lf] ≠ [] :=
  List.cons_ne_nil cr [lf]

theorem crlf_absent {s : Text} (h : lf ∉ s) : ¬ [cr, lf] <:+: s :=
  fun hin => h (hin.mem (by simp))

/-- A complete line that does not end in a carriage return is kept with its line feed. -/
theorem replaceAll_crlf_append_lf {line : Text} (hlf : lf ∉ line) (hcr : line.getLast? ≠ some cr)
    (rest : Text) : replaceAll [cr, lf] [lf] (line ++ lf :: rest) =
      line ++ lf :: replaceAll [cr, lf] [lf] rest := by
  induction line with
  | nil =>
    refine replaceAll_cons crlf_ne_nil _ ?_
    rw [startsWith_iff, List.cons_prefix_cons]
    exact fun h => absurd h.1 (by decide)
  | cons b line ih =>
    obtain ⟨-, hline⟩ := not_or.1 (mt List.mem_cons.2 hlf)
    have hstart : ¬ startsWith (b :: (line ++ lf :: rest)) [cr, lf] = true := by
      rw [startsWith_iff, List.cons_prefix_cons]
      rintro ⟨rfl, hnext⟩
      cases line with
      | nil => exact hcr rfl
      | cons c line => exact hline ((List.cons_prefix_cons.1 hnext).1 ▸ List.mem_cons_self)
    rw [List.cons_append, replaceAll_cons crlf_ne_nil _ hstart, List.cons_append]
    cases line with
    | nil => rw [ih hline (by simp)]
    | cons c line =>
      rw [List.getLast?_cons_cons] at hcr
      rw [ih hline hcr]

/-- Replacing CR LF by LF takes one carriage return off the end of a complete line. -/
theorem replaceAll_crlf_line {line : Text} (hlf : lf ∉ line) (rest : Text) :
    replaceAll [cr, lf] [lf] (line ++ [lf] ++ rest) =
      trimEndOf [cr] line ++ [lf] ++ replaceAll [cr, lf] [lf] rest := by
  by_cases hcr : line.getLast? = some cr
  · obtain ⟨front, rfl⟩ := List.getLast?_eq_some_iff.1 hcr
    have first : BeforeFirst [cr, lf] front := by
      rw [BeforeFirst, dropLast_append_sep crlf_ne_nil]
      exact crlf_absent hlf
    rw [trimEndOf_append, ← replaceAll_of_first crlf_ne_nil [lf] first]
    simp
  · have hsuffix : ¬ [cr] <:+ line := by
      rintro ⟨front, rfl⟩
      exact hcr List.getLast?_concat
    rw [trimEndOf_of_not_suffix hsuffix, List.append_assoc, List.append_assoc]
    exact replaceAll_crlf_append_lf hlf hcr rest

/-- What is computed line by line and ignores a carriage return at the end of a line is the same of
both kinds of line ends. -/
theorem replaceAll_crlf_invariant {α : Type} {f : Text → List α}
    (append : ∀ line rest, f (line ++ [lf] ++ rest) = f line ++ f rest)
    (returned : ∀ line, f (line ++ [cr]) = f line) (s : Text) :
    f (replaceAll [cr, lf] [lf] s) = f s := by
  have hne : [lf] ≠ [] := List.cons_ne_nil lf []
  have trimmed : ∀ line, f (trimEndOf [cr] line) = f line := by
    intro line
    by_cases hcr : [cr] <:+ line
    · obtain ⟨front, rfl⟩ := hcr
      rw [trimEndOf_append, returned]
    · rw [trimEndOf_of_not_suffix hcr]
  induction s using splitInduction hne with
  | absent s h =>
    rw [List.singleton_infix_iff] at h
    rw [replaceAll_of_absent _ (crlf_absent h)]
  | cut line rest first ih =>
    rw [replaceAll_crlf_line (beforeFirst_singleton_iff.1 first), append, trimmed, ih, append]

end DocScribe.Text
