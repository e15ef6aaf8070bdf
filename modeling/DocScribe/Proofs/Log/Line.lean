import DocScribe.Log.Line
import DocScribe.Proofs.Text.Pieces
import DocScribe.Proofs.Text.Quoted

/-!
# Log lines can be split

`splitLine?` reads the pairs of a line back: a key goes up to its equals sign, a value in quotes up
to the closing quote, any other value up to the next space or the end. It gives the pairs of every
line whose values are texts (`splitLine?_lineText`), whatever bytes the values hold, since a value
with a byte that ends a value is quoted. No value brings a line feed of its own, so a record is one
line.
-/

namespace DocScribe.Log

open Text (lf quote cut? trimStartOf dropStart?)

/-! Reading pairs. -/

/-- The value at the head of a text, and what follows it. -/
def takeValue? : Text → Option (Text × Text)
  | 0x22 :: s =>
    match Template.takeQuoted s with
    | some (raw, rest) => (Template.unquote? (raw.length + 1) raw).map fun value => (value, rest)
    | none => none
  | s =>
    let raw := s.takeWhile fun b => b != 0x20 && b != lf
    some (raw, s.drop raw.length)

/-- The pair at the head of a text, and what follows it. -/
def takePair? (s : Text) : Option ((Text × Text) × Text) :=
  match cut? [0x3d] s with
  | some (key, rest) => (takeValue? rest).map fun p => ((key, p.1), p.2)
  | none => none

/-- The pairs up to the end of the line, each with a space before it. -/
def takePairs? : (fuel : Nat) → Text → Option (List (Text × Text))
  | _, [0x0a] => some []
  | fuel + 1, 0x20 :: s =>
    match takePair? s with
    | some (pair, rest) => (takePairs? fuel rest).map (pair :: ·)
    | none => none
  | _, _ => none

/-- The pairs of a line that starts with `head`. -/
def splitLine? (head line : Text) : Option (List (Text × Text)) :=
  (dropStart? head line).bind fun s => takePairs? s.length (trimStartOf (" |" : Text) s)

/-! Values. -/

/-- A text that a value can stand before: the next pair or the end of the line. -/
def EndsValue (s : Text) : Prop :=
  ∃ b rest, s = b :: rest ∧ (b = 0x20 ∨ b = lf)

/-- A value without quotes holds no byte that ends a value, and no quote. -/
theorem needsQuotes_eq_false {s : Text} (h : needsQuotes s = false) :
    s ≠ [] ∧ 0x20 ∉ s ∧ lf ∉ s ∧ quote ∉ s := by
  simp only [needsQuotes, Bool.or_eq_false_iff, List.isEmpty_eq_false_iff, List.any_eq_false,
    Bool.or_eq_true, beq_iff_eq, not_or] at h
  obtain ⟨hne, hbytes⟩ := h
  refine ⟨hne, fun hmem => ?_, fun hmem => ?_, fun hmem => ?_⟩
  · exact (hbytes _ hmem).1.1.1.1 rfl
  · exact (hbytes _ hmem).1.1.2 rfl
  · exact (hbytes _ hmem).1.2 rfl

theorem takeValue?_quoted (value rest : Text) :
    takeValue? (value.quoted ++ rest) = some (value, rest) := by
  rw [Text.quoted_eq, List.cons_append, List.cons_append, List.append_assoc,
    List.singleton_append, takeValue?, Text.takeQuoted_inner]
  dsimp only
  rw [Text.unquote?_inner, Option.map_some]

theorem takeValue?_raw {value s : Text} (h : needsQuotes value = false) (hs : EndsValue s) :
    takeValue? (value ++ s) = some (value, s) := by
  obtain ⟨hne, hspace, hlf, hquote⟩ := needsQuotes_eq_false h
  obtain ⟨b, rest, rfl, hb⟩ := hs
  have htake : (value ++ b :: rest).takeWhile (fun b => b != 0x20 && b != lf) = value := by
    rw [List.takeWhile_append_of_pos, List.takeWhile_cons_of_neg, List.append_nil]
    · rcases hb with rfl | rfl <;> decide
    · intro c hc
      rw [Bool.and_eq_true, bne_iff_ne, bne_iff_ne]
      exact ⟨fun h => hspace (h ▸ hc), fun h => hlf (h ▸ hc)⟩
  obtain ⟨c, value, rfl⟩ := List.exists_cons_of_ne_nil hne
  have hopen : ∀ s, c :: value ++ b :: rest = quote :: s → False := fun s hs =>
    hquote ((List.cons.inj hs).1 ▸ List.mem_cons_self)
  rw [takeValue?.eq_2 _ hopen, htake, List.drop_left]

theorem takeValue?_quoteIfNeeded (value : Text) {s : Text} (hs : EndsValue s) :
    takeValue? (quoteIfNeeded value ++ s) = some (value, s) := by
  rw [quoteIfNeeded]
  split
  · exact takeValue?_quoted value s
  · next h => exact takeValue?_raw (Bool.eq_false_iff.2 h) hs

theorem lf_not_mem_quoteIfNeeded (value : Text) : lf ∉ quoteIfNeeded value := by
  rw [quoteIfNeeded]
  split
  · exact Text.lf_not_mem_quoted value
  · next h => exact (needsQuotes_eq_false (Bool.eq_false_iff.2 h)).2.2.1

/-! Lines. -/

/-- A key that a line can carry: something without an equals sign or a line feed in it. -/
structure IsKey (key : Text) : Prop where
  ne_nil : key ≠ []
  equals_not_mem : 0x3d ∉ key
  lf_not_mem : lf ∉ key

instance (key : Text) : Decidable (IsKey key) :=
  decidable_of_iff (key ≠ [] ∧ 0x3d ∉ key ∧ lf ∉ key)
    ⟨fun h => ⟨h.1, h.2.1, h.2.2⟩, fun h => ⟨h.ne_nil, h.equals_not_mem, h.lf_not_mem⟩⟩

/-- Texts as attributes. -/
def textAttrs (pairs : List (Text × Text)) : List Attr :=
  pairs.map fun p => (p.1, .string p.2)

theorem pairText_string (key value : Text) :
    pairText (key, .string value) = 0x20 :: (key ++ 0x3d :: quoteIfNeeded value) := by
  rw [pairText, Value.text]
  rfl

theorem takePair?_append {key : Text} (hkey : IsKey key) (value : Text) {s : Text}
    (hs : EndsValue s) :
    takePair? (key ++ 0x3d :: quoteIfNeeded value ++ s) = some ((key, value), s) := by
  have hcut : cut? [0x3d] (key ++ [0x3d] ++ (quoteIfNeeded value ++ s)) =
      some (key, quoteIfNeeded value ++ s) :=
    Text.cut?_of_first (by decide) (Text.beforeFirst_singleton_iff.2 hkey.equals_not_mem) _
  rw [takePair?, show key ++ 0x3d :: quoteIfNeeded value ++ s =
    key ++ [0x3d] ++ (quoteIfNeeded value ++ s) by simp, hcut]
  dsimp only
  rw [takeValue?_quoteIfNeeded value hs, Option.map_some]

theorem endsValue_pairs (pairs : List (Text × Text)) :
    EndsValue ((textAttrs pairs).flatMap pairText ++ [lf]) := by
  cases pairs with
  | nil => exact ⟨lf, [], rfl, .inr rfl⟩
  | cons p pairs => exact ⟨0x20, _, rfl, .inl rfl⟩

theorem takePairs?_flatMap {pairs : List (Text × Text)} (hkeys : ∀ p ∈ pairs, IsKey p.1)
    {fuel : Nat} (hfuel : pairs.length ≤ fuel) :
    takePairs? fuel ((textAttrs pairs).flatMap pairText ++ [lf]) = some pairs := by
  induction pairs generalizing fuel with
  | nil => cases fuel <;> rfl
  | cons p pairs ih =>
    obtain ⟨key, value⟩ := p
    obtain ⟨hkey, hrest⟩ := List.forall_mem_cons.1 hkeys
    cases fuel with
    | zero => cases hfuel
    | succ fuel =>
      have htext : (textAttrs ((key, value) :: pairs)).flatMap pairText ++ [lf] =
          0x20 :: (key ++ 0x3d :: quoteIfNeeded value ++
            ((textAttrs pairs).flatMap pairText ++ [lf])) := by
        rw [textAttrs, List.map_cons, List.flatMap_cons, pairText_string]
        simp [textAttrs]
      rw [htext, takePairs?, takePair?_append hkey value (endsValue_pairs pairs)]
      dsimp only
      rw [ih hrest (Nat.le_of_succ_le_succ hfuel), Option.map_some]

theorem length_le_length_flatMap (pairs : List (Text × Text)) :
    pairs.length ≤ ((textAttrs pairs).flatMap pairText).length := by
  induction pairs with
  | nil => exact Nat.le_refl 0
  | cons p pairs ih =>
    rw [textAttrs, List.map_cons, List.flatMap_cons, List.length_append, pairText_string,
      List.length_cons, List.length_cons, ← textAttrs]
    omega

/-- Attributes that have keys are all written, after a bar if there are any. -/
theorem pairsText_textAttrs {pairs : List (Text × Text)} (hkeys : ∀ p ∈ pairs, IsKey p.1) :
    pairsText (textAttrs pairs) =
      if pairs.isEmpty then [] else (" |" : Text) ++ (textAttrs pairs).flatMap pairText := by
  have hnamed : (textAttrs pairs).filter (fun a => !a.1.isEmpty) = textAttrs pairs := by
    rw [List.filter_eq_self, textAttrs, List.forall_mem_map]
    intro p hp
    simpa using (hkeys p hp).ne_nil
  rw [pairsText, hnamed, show (textAttrs pairs).isEmpty = pairs.isEmpty from List.isEmpty_map]

theorem takePairs?_pairsText {pairs : List (Text × Text)} (hkeys : ∀ p ∈ pairs, IsKey p.1) :
    takePairs? (pairsText (textAttrs pairs) ++ [lf]).length
      (trimStartOf (" |" : Text) (pairsText (textAttrs pairs) ++ [lf])) = some pairs := by
  rw [pairsText_textAttrs hkeys]
  cases pairs with
  | nil => rfl
  | cons p pairs =>
    have hcount := length_le_length_flatMap (p :: pairs)
    rw [if_neg (by simp), List.append_assoc, Text.trimStartOf_append]
    refine takePairs?_flatMap hkeys ?_
    rw [List.length_append, List.length_append]
    omega

/-- What a line says before its pairs. -/
def lineHead (time : Int) (level : Level) (message : Text) : Text :=
  timestamp time ++ (" [" : Text) ++ levelWord level ++ ("] " : Text) ++ message

/-- The record of a message with texts by their keys. -/
def textRecord (time : Int) (level : Level) (message : Text) (pairs : List (Text × Text)) :
    Record :=
  { time, level, message, attrs := textAttrs pairs }

/-- Without bound attributes and open groups a record is written with its own attributes. -/
theorem write_unscoped (record : Record) :
    LineScope.write {} record = lineText record record.attrs := by
  have hresolve : LineScope.resolve {} = id := funext fun attr => if_pos rfl
  rw [LineScope.write, hresolve, List.map_id, List.nil_append]

theorem write_textRecord (time : Int) (level : Level) (message : Text)
    (pairs : List (Text × Text)) :
    LineScope.write {} (textRecord time level message pairs) =
      lineHead time level message ++ (pairsText (textAttrs pairs) ++ [lf]) := by
  rw [write_unscoped, lineText, List.append_assoc]
  rfl

/-- The pairs of a line come back. -/
theorem splitLine?_write (time : Int) (level : Level) (message : Text)
    {pairs : List (Text × Text)} (hkeys : ∀ p ∈ pairs, IsKey p.1) :
    splitLine? (lineHead time level message)
      (LineScope.write {} (textRecord time level message pairs)) = some pairs := by
  rw [splitLine?, write_textRecord, Text.dropStart?_eq_some_iff.2 rfl, Option.bind_some,
    takePairs?_pairsText hkeys]

/-! Line feeds. -/

theorem lf_not_mem_timestamp (time : Int) : lf ∉ timestamp time := by
  have hdigits : ∀ width n, lf ∉ Number.padded width n := Number.not_mem_padded (by decide)
  have hsign : ∀ year : Int, lf ∉ if year < 0 then ("-" : Text) else ("" : Text) := by
    intro year
    split <;> decide
  rw [timestamp]
  simp only [List.mem_append, List.mem_cons, List.not_mem_nil, hdigits, hsign, or_false, false_or]
  decide

theorem lf_not_mem_levelWord (level : Level) : lf ∉ levelWord level := by
  rw [levelWord]
  repeat' split
  all_goals decide

theorem lf_not_mem_lineHead (time : Int) (level : Level) {message : Text} (h : lf ∉ message) :
    lf ∉ lineHead time level message := by
  simp only [lineHead, List.mem_append, lf_not_mem_timestamp, lf_not_mem_levelWord, h, false_or,
    or_false]
  decide

theorem lf_not_mem_pairsText {pairs : List (Text × Text)} (hkeys : ∀ p ∈ pairs, IsKey p.1) :
    lf ∉ pairsText (textAttrs pairs) := by
  rw [pairsText_textAttrs hkeys]
  split
  · exact List.not_mem_nil
  · rw [List.mem_append, List.mem_flatMap, textAttrs]
    rintro (hbar | ⟨attr, hattr, hmem⟩)
    · exact absurd hbar (by decide)
    · obtain ⟨⟨key, value⟩, hp, rfl⟩ := List.mem_map.1 hattr
      rw [pairText_string, List.mem_cons, List.mem_append, List.mem_cons] at hmem
      rcases hmem with hspace | hkey | hequals | hvalue
      · exact absurd hspace (by decide)
      · exact (hkeys _ hp).lf_not_mem hkey
      · exact absurd hequals (by decide)
      · exact lf_not_mem_quoteIfNeeded value hvalue

/-- A record of a message on one line and texts by their keys is written as one line, which tells
the texts and their keys. -/
theorem write_texts (time : Int) (level : Level) {message : Text} (hmessage : lf ∉ message) :
    (∀ pairs, (∀ p ∈ pairs, IsKey p.1) → ∃ body, lf ∉ body ∧
      LineScope.write {} (textRecord time level message pairs) = body ++ [lf]) ∧
    ∀ pairs others, (∀ p ∈ pairs, IsKey p.1) → (∀ p ∈ others, IsKey p.1) →
      LineScope.write {} (textRecord time level message pairs) =
        LineScope.write {} (textRecord time level message others) → pairs = others := by
  constructor
  · intro pairs hkeys
    refine ⟨lineHead time level message ++ pairsText (textAttrs pairs), ?_, ?_⟩
    · rw [List.mem_append, not_or]
      exact ⟨lf_not_mem_lineHead time level hmessage, lf_not_mem_pairsText hkeys⟩
    · rw [write_textRecord, List.append_assoc]
  · intro pairs others hkeys hothers heq
    have hsplit := splitLine?_write time level message hkeys
    rw [heq, splitLine?_write time level message hothers] at hsplit
    exact (Option.some.inj hsplit).symm

/-- A value that looks like the end of its pair and a second pair is not taken for them. -/
theorem write_texts_lookalike :
    (∃ body, lf ∉ body ∧ LineScope.write {} (textRecord 0 Level.warn "request failed"
      [("path", "a b|c=d"), ("reply", [0xff, 0x5c, 0x22, 0x0a]), ("user", "")]) = body ++ [lf]) ∧
    LineScope.write {} (textRecord 0 Level.warn "request failed" [("path", "a user=b")]) ≠
      LineScope.write {} (textRecord 0 Level.warn "request failed"
        [("path", "a"), ("user", "b")]) := by
  have hmessage : lf ∉ ("request failed" : Text) := by decide
  obtain ⟨hline, hinjective⟩ := write_texts 0 Level.warn hmessage
  refine ⟨hline _ (by decide), fun h => ?_⟩
  exact absurd (hinjective _ _ (by decide) (by decide) h) (by decide)

end DocScribe.Log
