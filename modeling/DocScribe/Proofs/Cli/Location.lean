import DocScribe.Cli.Location
import DocScribe.Proofs.Number.Integer
import DocScribe.Proofs.Text.Lines

/-!
# Locations are read as they were written

The numbers of a location hold no colon, so its last two parts are the line and the column, and
joining the others gives the path back, whatever colons it holds (`read_text`). What is read from an
argument can always be written (`isWritable_of_read`), so **`parseLocation_text`** tells which
locations come back from their text and that every location that was read does.
-/

namespace DocScribe.Cli

open Number (Fits64 maxInt readDecimal signed)

namespace Location

/-- A location that an argument can write: the path has a byte, and counted from one the line and
the column are positive 64-bit integers. -/
structure IsWritable (l : Location) : Prop where
  path : l.path ≠ []
  line_nonneg : 0 ≤ l.cursor.line
  line_lt : l.cursor.line < maxInt
  column_nonneg : 0 ≤ l.cursor.column
  column_lt : l.cursor.column < maxInt

instance (l : Location) : Decidable l.IsWritable :=
  decidable_of_iff
    (l.path ≠ [] ∧ (0 ≤ l.cursor.line ∧ l.cursor.line < maxInt) ∧
      0 ≤ l.cursor.column ∧ l.cursor.column < maxInt)
    ⟨fun h => ⟨h.1, h.2.1.1, h.2.1.2, h.2.2.1, h.2.2.2⟩,
      fun h => ⟨h.path, ⟨h.line_nonneg, h.line_lt⟩, h.column_nonneg, h.column_lt⟩⟩

/-! Numbers. -/

theorem number?_eq_some_iff {part : Text} {n : Int} :
    number? part = some n ↔ readDecimal part = .ok n := by
  rw [number?]
  cases readDecimal part <;> simp

theorem number?_signed {n : Int} (h : Fits64 n) : number? (signed n) = some n :=
  number?_eq_some_iff.2 (Number.readDecimal_signed h)

/-- The number counted from one. -/
theorem wrap_succ {n : Int} (hnonneg : 0 ≤ n) (hlt : n < maxInt) :
    Fits64 (n + 1) ∧ Number.wrap (n + 1) = n + 1 := by
  have hfits : Fits64 (n + 1) := by
    rw [Fits64, Number.minInt]
    omega
  exact ⟨hfits, Number.wrap_eq_self_iff.2 hfits⟩

/-- All numbers that are taken from parts fit into 64 bits. -/
theorem fits64_takeNumbers {count : Nat} {parts : List Text} {numbers : List Int}
    (h : ∀ n ∈ numbers, Fits64 n) : ∀ n ∈ (takeNumbers count parts numbers).1, Fits64 n := by
  fun_induction takeNumbers count parts numbers with
  | case1 => exact h
  | case2 numbers count part next parts n hn ih =>
    refine ih (List.forall_mem_cons.2 ⟨?_, h⟩)
    exact Number.bounds_of_readDecimal (number?_eq_some_iff.1 hn)
  | case3 => exact h
  | case4 => exact h

/-! Reading. -/

theorem splitOnByte_signed (n : Int) : (signed n).splitOnByte 0x3a = [signed n] := by
  have hfree : ∀ piece ∈ [signed n], 0x3a ∉ piece := by
    intro piece hpiece
    rw [List.mem_singleton.1 hpiece]
    exact Number.not_mem_signed (by decide) (by decide) n
  exact Text.splitOnByte_join (List.cons_ne_nil _ _) hfree

/-- The two numbers at the end are taken, and the path is left with its colons. -/
theorem takeNumbers_text (path : Text) {line column : Int} (hline : Fits64 line)
    (hcolumn : Fits64 column) :
    takeNumbers 2
      ((path ++ 0x3a :: (signed line ++ 0x3a :: signed column)).splitOnByte 0x3a).reverse [] =
      ([line, column], (path.splitOnByte 0x3a).reverse) := by
  have hparts : (path ++ 0x3a :: (signed line ++ 0x3a :: signed column)).splitOnByte 0x3a =
      path.splitOnByte 0x3a ++ [signed line, signed column] := by
    rw [Text.splitOnByte_append_cons, Text.splitOnByte_append_cons, splitOnByte_signed,
      splitOnByte_signed, List.singleton_append]
  have hne : (path.splitOnByte 0x3a).reverse ≠ [] := by
    simpa using Text.splitOnByte_ne_nil 0x3a path
  rw [hparts, List.reverse_append]
  -- A part is taken only where another one is left, which the path has.
  obtain ⟨last, front, hpath⟩ := List.exists_cons_of_ne_nil hne
  rw [hpath]
  simp only [List.reverse_cons, List.reverse_nil, List.nil_append, List.cons_append, takeNumbers,
    number?_signed hline, number?_signed hcolumn]

theorem text_eq {l : Location} (writable : l.IsWritable) :
    l.text = l.path ++ 0x3a :: (signed (l.cursor.line + 1) ++ 0x3a :: signed (l.cursor.column + 1))
      := by
  rw [text, positionText, (wrap_succ writable.line_nonneg writable.line_lt).2,
    (wrap_succ writable.column_nonneg writable.column_lt).2]

theorem read_text {l : Location} (writable : l.IsWritable) : read l.text = .ok l := by
  obtain ⟨path, line, column⟩ := l
  have hline : 0 ≤ line := writable.line_nonneg
  have hcolumn : 0 ≤ column := writable.column_nonneg
  have hpositive : ¬ (decide (line + 1 < 1) || decide (column + 1 < 1)) = true := by
    simp only [Bool.or_eq_true, decide_eq_true_eq, not_or]
    omega
  rw [text_eq writable, read,
    takeNumbers_text path (wrap_succ hline writable.line_lt).1
      (wrap_succ hcolumn writable.column_lt).1]
  dsimp only
  rw [List.reverse_reverse, Text.join_splitOnByte, if_neg (by simpa using writable.path),
    if_neg hpositive, Int.add_sub_cancel, Int.add_sub_cancel]

/-- What is read from an argument can be written. -/
theorem isWritable_of_read {arg : Text} {l : Location} (h : read arg = .ok l) : l.IsWritable := by
  have hfits := @fits64_takeNumbers 2 (arg.splitOnByte 0x3a).reverse [] nofun
  rw [read] at h
  generalize takeNumbers 2 (arg.splitOnByte 0x3a).reverse [] = taken at h hfits
  obtain ⟨numbers, rest⟩ := taken
  dsimp only at h hfits
  split at h
  · cases h
  · next hpath =>
    have hpath : Text.join [0x3a] rest.reverse ≠ [] := by simpa using hpath
    have hmax : (0 : Int) < maxInt := by decide
    split at h
    · cases h
    · next line =>
      have hline := (hfits line List.mem_cons_self).2
      split at h
      · cases h
      · rw [← Except.ok.inj h]
        exact ⟨hpath, by dsimp only; omega, by dsimp only; omega, Int.le_refl 0, hmax⟩
    · next line column more =>
      have hline := (hfits line List.mem_cons_self).2
      have hcolumn := (hfits column (List.mem_cons_of_mem _ List.mem_cons_self)).2
      split at h
      · cases h
      · next hpositive =>
        simp only [Bool.or_eq_true, decide_eq_true_eq, not_or] at hpositive
        rw [← Except.ok.inj h]
        exact ⟨hpath, by dsimp only; omega, by dsimp only; omega, by dsimp only; omega,
          by dsimp only; omega⟩

end Location

theorem parseLocation_eq_ok_iff {arg : Text} {l : Location} :
    parseLocation arg = .ok l ↔ Location.read arg = .ok l := by
  rw [parseLocation]
  cases Location.read arg <;> simp

/-- A location is read from its text as it is iff its path has a byte and its line and column lie
between 0 and `2^63 - 2`; and any argument that is accepted gives such a location, so reading the
text of what was read gives the same again. -/
theorem parseLocation_text :
    (∀ l : Location, parseLocation l.text = .ok l ↔ l.IsWritable) ∧
      ∀ arg l, parseLocation arg = .ok l → parseLocation l.text = .ok l := by
  have hwrite : ∀ l : Location, l.IsWritable → parseLocation l.text = .ok l :=
    fun l writable => parseLocation_eq_ok_iff.2 (Location.read_text writable)
  have hread : ∀ arg l, parseLocation arg = .ok l → l.IsWritable :=
    fun arg l h => Location.isWritable_of_read (parseLocation_eq_ok_iff.1 h)
  exact ⟨fun l => ⟨hread l.text l, hwrite l⟩, fun arg l h => hwrite l (hread arg l h)⟩

/-- A path that looks like a location comes back with the largest line, and an argument without a
column is completed. -/
theorem parseLocation_text_numbers :
    parseLocation "a.rs:1:2::9223372036854775807:1" =
        .ok ⟨"a.rs:1:2:", ⟨9223372036854775806, 0⟩⟩ ∧
      parseLocation "c:+7" = .ok ⟨"c", ⟨6, 0⟩⟩ ∧
      parseLocation "c:7:1" = .ok ⟨"c", ⟨6, 0⟩⟩ := by
  have hread : parseLocation "c:+7" = .ok ⟨"c", ⟨6, 0⟩⟩ := parseLocation_eq_ok_iff.2 (by decide)
  have htext : Location.text ⟨"a.rs:1:2:", ⟨9223372036854775806, 0⟩⟩ =
      "a.rs:1:2::9223372036854775807:1" := by
    decide +kernel
  have hcompleted : Location.text ⟨"c", ⟨6, 0⟩⟩ = "c:7:1" := by decide +kernel
  refine ⟨?_, hread, ?_⟩
  · rw [← htext]
    exact (parseLocation_text.1 _).2 (by decide)
  · rw [← hcompleted]
    exact parseLocation_text.2 _ _ hread

end DocScribe.Cli
