import DocScribe.Json.Reader
import DocScribe.Json.Writer
import DocScribe.Proofs.Number.Numeral
import DocScribe.Proofs.Text.Encoding

/-!
# Written JSON is read back

`Parses text depth v` says that a text is read as a value whatever follows it. Strings are read as
they were, with stray bytes replaced (`parses_string`), numerals as their literals
(`parses_numeral`), and an object of several lines as its members, if its values are
(`parses_object`).
-/

namespace DocScribe.Json

open Text (headGlyph headGlyph_cases bytes_headGlyph)

/-! Strings. -/

/-- The code points that are written as four hexadecimal digits. -/
def isSpelt (code : Nat) : Bool :=
  code < 0x20 || [0x2028, 0x2029, 0x3c, 0x3e, 0x26].contains code

theorem lt_of_isSpelt {code : Nat} (h : isSpelt code = true) : code < 0xd800 := by
  rw [isSpelt, Bool.or_eq_true, decide_eq_true_eq, List.contains_iff_mem] at h
  rcases h with h | h
  · omega
  · simp only [List.mem_cons, List.not_mem_nil, or_false] at h
    omega

theorem exists_hex {code : Nat} (h : isSpelt code = true) :
    ∃ a b c d, Number.hex 4 code = [a, b, c, d] ∧ Number.digitsValue? 16 [a, b, c, d] = some code ∧
      pairUnit code = fun s => (code, s) := by
  have hunit := lt_of_isSpelt h
  have hlength : (Number.hex 4 code).length = 4 :=
    Number.length_hex (by decide) (Nat.lt_trans hunit (by decide))
  have hvalue := Number.digitsValue?_hex 4 code
  obtain ⟨a, b, c, d, hhex⟩ : ∃ a b c d, Number.hex 4 code = [a, b, c, d] := by
    match Number.hex 4 code, hlength with
    | [a, b, c, d], _ => exact ⟨a, b, c, d, rfl⟩
  refine ⟨a, b, c, d, hhex, hhex ▸ hvalue, ?_⟩
  funext s
  rw [pairUnit.eq_def, if_neg, if_neg]
  · simp only [Bool.and_eq_true, decide_eq_true_eq]
    omega
  · simp only [Bool.and_eq_true, decide_eq_true_eq]
    omega

theorem readString?_spelt {code : Nat} (h : isSpelt code = true) (fuel : Nat) (acc tail : Text) :
    readString? (fuel + 1) acc ((("\\u" : Text) ++ Number.hex 4 code) ++ tail) =
      readString? fuel ((Text.encode code).reverse ++ acc) tail := by
  obtain ⟨a, b, c, d, hhex, hvalue, hpair⟩ := exists_hex h
  have hunit : readUnit? (a :: b :: c :: d :: tail) = some (code, tail) := by
    rw [readUnit?, hvalue]
    rfl
  have htext : (("\\u" : Text) ++ Number.hex 4 code) ++ tail =
      0x5c :: 0x75 :: a :: b :: c :: d :: tail := by
    rw [hhex]
    rfl
  rw [htext, readString?]
  simp only [hunit, hpair]
  rfl

/-- A character that needs no escape is read as it stands. -/
theorem readString?_plain {b : UInt8} {cont : Text} {code : Nat}
    (hread : ∀ other, headGlyph b (cont ++ other) = ⟨b :: cont, some code⟩)
    (hbytes : b :: cont = Text.encode code) (hquoted : ¬ (code == 0x22 || code == 0x5c) = true)
    (hcontrol : ¬ code < 0x20) (fuel : Nat) (acc tail : Text) :
    readString? (fuel + 1) acc (Text.encode code ++ tail) =
      readString? fuel ((Text.encode code).reverse ++ acc) tail := by
  have hascii : b < 0x80 → code = b.toNat := by
    intro hb
    have hhead := hread []
    rw [Text.headGlyph_of_ascii hb] at hhead
    exact (Option.some.inj (Text.Glyph.mk.inj hhead).2).symm
  simp only [Bool.or_eq_true, beq_iff_eq, not_or] at hquoted
  have hquote : ¬ (b == 0x22) = true := by
    rw [beq_iff_eq]
    rintro rfl
    exact hquoted.1 (hascii (by decide))
  have hbackslash : ¬ (b == 0x5c) = true := by
    rw [beq_iff_eq]
    rintro rfl
    exact hquoted.2 (hascii (by decide))
  have hcontrol : ¬ b < 0x20 := by
    intro hb
    have hb' : b.toNat < 32 := UInt8.lt_iff_toNat_lt.1 hb
    have hcode := hascii (UInt8.lt_trans hb (by decide))
    omega
  have hdrop : (cont ++ tail).drop ((b :: cont).length - 1) = tail := by simp
  rw [← hbytes, List.cons_append, readString?.eq_def]
  dsimp only
  rw [if_neg hquote, if_neg hbackslash, if_neg hcontrol, hread]
  dsimp only
  rw [hdrop]
  rfl

/-- An escaped character is read as the character, or as U+FFFD for a stray byte. -/
theorem readString?_escapeGlyph (escapes : Escapes) (b : UInt8) (s : Text) (fuel : Nat)
    (acc tail : Text) :
    readString? (fuel + 1) acc (escapeGlyph escapes (headGlyph b s) ++ tail) =
      readString? fuel ((headGlyph b s).repaired.reverse ++ acc) tail := by
  rcases headGlyph_cases b s with hstray | ⟨cont, rest, code, rfl, -, hread⟩
  · rw [hstray]
    cases hescapes : escapes.stray with
    | true =>
      simp only [escapeGlyph, hescapes, if_true]
      rfl
    | false =>
      simp only [escapeGlyph, hescapes, Bool.false_eq_true, if_false]
      rfl
  · have hbytes : b :: cont = Text.encode code := by
      have hcode : (headGlyph b (cont ++ rest)).code? = some code := by rw [hread]
      have hbytes := bytes_headGlyph hcode
      rwa [hread] at hbytes
    have hrepaired : (Text.Glyph.mk (b :: cont) (some code)).repaired = Text.encode code := hbytes
    rw [hread, hrepaired, escapeGlyph]
    dsimp only
    rw [hbytes]
    split
    · next h =>
      rw [Bool.or_eq_true, beq_iff_eq, beq_iff_eq] at h
      rcases h with rfl | rfl <;> rfl
    split
    · next h =>
      obtain rfl := beq_iff_eq.1 h
      rfl
    split
    · next h =>
      obtain rfl := beq_iff_eq.1 h
      rfl
    split
    · next h =>
      obtain rfl := beq_iff_eq.1 h
      rfl
    split
    · next h =>
      obtain rfl := beq_iff_eq.1 (Bool.and_eq_true_iff.1 h).1
      rfl
    split
    · next h =>
      obtain rfl := beq_iff_eq.1 (Bool.and_eq_true_iff.1 h).1
      rfl
    split
    · next h =>
      apply readString?_spelt
      simp only [Bool.or_eq_true, Bool.and_eq_true, decide_eq_true_eq, beq_iff_eq] at h
      simp only [isSpelt, Bool.or_eq_true, decide_eq_true_eq, List.contains_iff_mem,
        List.mem_cons, List.not_mem_nil, or_false]
      omega
    · next hquoted hlf hcr htab hback hfeed hspelt =>
      refine readString?_plain hread hbytes hquoted (fun hcontrol => hspelt ?_) fuel acc tail
      simp [hcontrol]

/-- The whole of a quoted text is read back, with stray bytes replaced. -/
theorem readString?_glyphs (escapes : Escapes) (s : Text) {fuel : Nat}
    (hfuel : s.glyphs.length < fuel) (acc rest : Text) :
    readString? fuel acc (s.glyphs.flatMap (escapeGlyph escapes) ++ Text.quote :: rest) =
      some (acc.reverse ++ s.repaired, rest) := by
  induction s using Text.glyphInduction generalizing fuel acc with
  | nil =>
    obtain ⟨fuel, rfl⟩ := Nat.exists_eq_add_one_of_ne_zero (Nat.ne_of_gt hfuel)
    simp [Text.glyphs, Text.glyphsAfter, Text.repaired, readString?]
  | cons b tail back hbytes htail ih =>
    obtain ⟨fuel, rfl⟩ := Nat.exists_eq_add_one_of_ne_zero (Nat.ne_of_gt (Nat.zero_lt_of_lt hfuel))
    rw [Text.glyphs_cons_append hbytes] at hfuel ⊢
    rw [List.flatMap_cons, List.append_assoc, readString?_escapeGlyph,
      ih (by simpa using hfuel), Text.repaired, Text.repaired, Text.glyphs_cons_append hbytes]
    simp

/-! Numerals. -/

/-- What may follow a value: nothing that would go on a number. -/
def Follows (rest : Text) : Prop :=
  ∀ b, rest.head? = some b → Text.isDigitByte b = false ∧ b ≠ 0x2e ∧ b ≠ 0x65 ∧ b ≠ 0x45

theorem takeDigits?_append {ds : Text} (hds : Number.IsDigits ds) (hne : ds ≠ []) {rest : Text}
    (hrest : ∀ b, rest.head? = some b → Text.isDigitByte b = false) :
    takeDigits? (ds ++ rest) = some (ds, rest) := by
  have hstop : rest.takeWhile Text.isDigitByte = [] := by
    cases rest with
    | nil => rfl
    | cons b rest => rw [List.takeWhile_cons_of_neg (by simp [hrest b rfl])]
  have htake : (ds ++ rest).takeWhile Text.isDigitByte = ds := by
    rw [List.takeWhile_append_of_pos hds, hstop, List.append_nil]
  rw [takeDigits?, htake, if_neg (by simpa using hne), List.drop_left]

open Number (Numeral)

theorem takeFraction?_append {fraction : Text} (hfraction : Number.IsDigits fraction) {rest : Text}
    (hrest : ∀ b, rest.head? = some b → Text.isDigitByte b = false ∧ b ≠ 0x2e) :
    takeFraction? (Numeral.fractionText fraction ++ rest) =
      some (Numeral.fractionText fraction, rest) := by
  by_cases hne : fraction = []
  · rw [hne, show Numeral.fractionText [] = [] from rfl, List.nil_append, takeFraction?.eq_def]
    split
    · next tail => exact absurd rfl (hrest 0x2e rfl).2
    · rfl
  · rw [Numeral.fractionText_of_ne_nil hne, List.cons_append, takeFraction?,
      takeDigits?_append hfraction hne fun b hb => (hrest b hb).1]
    rfl

theorem takeExponent?_append {exponent : Option (Bool × Text)}
    (hexponent : ∀ negative digits, exponent = some (negative, digits) →
      Number.IsDigits digits ∧ digits ≠ []) {rest : Text} (hrest : Follows rest) :
    takeExponent? (Numeral.exponentText exponent ++ rest) =
      some (Numeral.exponentText exponent, rest) := by
  cases exponent with
  | none =>
    rw [Numeral.exponentText, List.nil_append, takeExponent?.eq_def]
    split
    · next b tail =>
      obtain ⟨-, -, hlower, hupper⟩ := hrest b rfl
      rw [if_neg (by simp [hlower, hupper])]
    · rfl
  | some e =>
    obtain ⟨negative, digits⟩ := e
    obtain ⟨hdigits, hne⟩ := hexponent negative digits rfl
    have htake := takeDigits?_append hdigits hne fun b hb => (hrest b hb).1
    cases negative <;>
      simp [Numeral.exponentText, takeExponent?, htake]

theorem takeMinus_text {n : Numeral} (wf : n.WellFormed) (rest : Text) :
    takeMinus (n.text ++ rest) = (Numeral.signText n.negative, n.unsigned ++ rest) := by
  obtain ⟨b, s, hcons, hb⟩ := Number.Binary64.exists_unsigned_eq_cons wf
  rw [Numeral.text, hcons]
  cases n.negative with
  | true => rfl
  | false =>
    rw [takeMinus.eq_def]
    split
    · next h =>
      obtain ⟨rfl, -⟩ := List.cons.inj h
      cases hb
    · rfl

theorem takeWhole?_append {n : Numeral} (wf : n.WellFormed) {rest : Text}
    (hrest : ∀ b, rest.head? = some b → Text.isDigitByte b = false) :
    takeWhole? (n.whole ++ rest) = some (n.whole, rest) := by
  rcases wf.whole_head with hzero | hhead
  · rw [hzero]
    rfl
  · have htake := takeDigits?_append wf.whole wf.whole_ne_nil hrest
    rw [takeWhole?.eq_def]
    split
    · next h =>
      rw [← List.head?_append_of_ne_nil _ wf.whole_ne_nil, h] at hhead
      exact absurd rfl hhead
    · exact htake

/-- A numeral is read up to its end. -/
theorem readNumber?_text {n : Numeral} (wf : n.WellFormed) {rest : Text} (hrest : Follows rest) :
    readNumber? (n.text ++ rest) = some (n.text, rest) := by
  have hexponent : ∀ b, (Numeral.exponentText n.exponent ++ rest).head? = some b →
      Text.isDigitByte b = false ∧ b ≠ 0x2e := by
    intro b hb
    cases hnone : n.exponent with
    | none =>
      rw [hnone] at hb
      exact ⟨(hrest b hb).1, (hrest b hb).2.1⟩
    | some e =>
      rw [hnone] at hb
      obtain rfl := Option.some.inj hb
      decide
  have hfraction : ∀ b, (Numeral.fractionText n.fraction ++
      (Numeral.exponentText n.exponent ++ rest)).head? = some b → Text.isDigitByte b = false := by
    intro b hb
    by_cases hne : n.fraction = []
    · rw [hne] at hb
      exact (hexponent b hb).1
    · rw [Numeral.fractionText_of_ne_nil hne] at hb
      obtain rfl := Option.some.inj hb
      decide
  rw [readNumber?, takeMinus_text wf, Numeral.unsigned, List.append_assoc, List.append_assoc]
  dsimp only
  rw [takeWhole?_append wf hfraction]
  dsimp only [Option.bind_eq_bind, Option.bind_some]
  rw [takeFraction?_append wf.fraction hexponent]
  dsimp only [Option.bind_some]
  rw [takeExponent?_append (fun negative digits h => ⟨(wf.exponent negative digits h).1,
    (wf.exponent negative digits h).2.1⟩) hrest]
  simp [Numeral.text, Numeral.unsigned]

/-! Values. -/

/-- A text that starts with no white space and is read as a value whatever follows it. -/
structure Parses (text : Text) (depth : Nat) (v : Json) : Prop where
  visible : ∀ rest, skipSpace (text ++ rest) = text ++ rest
  read : ∀ fuel rest, 2 * text.length ≤ fuel → Follows rest →
    readValue? fuel depth (text ++ rest) = some (v, rest)

theorem skipSpace_cons {b : UInt8} (h : b ∉ [0x20, 0x09, 0x0a, 0x0d]) (s : Text) :
    skipSpace (b :: s) = b :: s := by
  rw [skipSpace, if_neg]
  simpa [and_assoc] using h

theorem quote_append (escapes : Escapes) (s rest : Text) :
    quote escapes s ++ rest =
      Text.quote :: (s.glyphs.flatMap (escapeGlyph escapes) ++ Text.quote :: rest) := by
  simp [quote]

theorem escapeGlyph_ne_nil (escapes : Escapes) {g : Text.Glyph} (hg : g.bytes ≠ []) :
    escapeGlyph escapes g ≠ [] := by
  rw [escapeGlyph]
  cases g.code? with
  | none =>
    dsimp only
    split <;> decide
  | some code =>
    dsimp only
    repeat' split
    all_goals first | exact hg | simp [Text.ofString]

/-- No character is escaped by nothing. -/
theorem length_glyphs_le (escapes : Escapes) (s : Text) :
    s.glyphs.length ≤ (s.glyphs.flatMap (escapeGlyph escapes)).length := by
  induction s using Text.glyphInduction with
  | nil => exact Nat.zero_le _
  | cons b tail rest hbytes htail ih =>
    have hne := escapeGlyph_ne_nil escapes (show (headGlyph b (tail ++ rest)).bytes ≠ [] by
      rw [hbytes]
      simp)
    have hpos := List.length_pos_iff.2 hne
    rw [Text.glyphs_cons_append hbytes, List.flatMap_cons, List.length_append, List.length_cons]
    omega

/-- A quoted name or string is read from its quote on. -/
theorem readString?_quote (escapes : Escapes) (s rest : Text) :
    readString? ((s.glyphs.flatMap (escapeGlyph escapes) ++ Text.quote :: rest).length + 1) []
      (s.glyphs.flatMap (escapeGlyph escapes) ++ Text.quote :: rest) =
      some (s.repaired, rest) := by
  have hlength := length_glyphs_le escapes s
  rw [readString?_glyphs escapes s (by rw [List.length_append]; omega)]
  rfl

theorem parses_string (escapes : Escapes) (s : Text) (depth : Nat) :
    Parses (quote escapes s) depth (.string s.repaired) := by
  constructor
  · intro rest
    rw [quote_append]
    exact skipSpace_cons (by decide) _
  · intro fuel rest hfuel _
    rw [quote_append]
    cases fuel with
    | zero => simp [quote] at hfuel
    | succ fuel =>
      rw [readValue?, readString?_quote]
      rfl

theorem parses_numeral {n : Numeral} (wf : n.WellFormed) (depth : Nat) :
    Parses n.text depth (.number n.text) := by
  obtain ⟨b, s, hcons, hb⟩ : ∃ b s, n.text = b :: s ∧
      (Text.isDigitByte b = true ∨ b = 0x2d) := by
    obtain ⟨b, s, hcons, hb⟩ := Number.Binary64.exists_unsigned_eq_cons wf
    rw [Numeral.text, hcons]
    cases n.negative with
    | true => exact ⟨0x2d, b :: s, rfl, .inr rfl⟩
    | false => exact ⟨b, s, rfl, .inl hb⟩
  have hhead : ∀ c, Text.isDigitByte c = false → c ≠ 0x2d → ∀ rest tail,
      n.text ++ rest ≠ c :: tail := by
    intro c hc hminus rest tail h
    rw [hcons] at h
    rw [(List.cons.inj h).1, hc] at hb
    simp [hminus] at hb
  constructor
  · intro rest
    rw [hcons, List.cons_append]
    refine skipSpace_cons (fun hmem => ?_) _
    simp only [List.mem_cons, List.not_mem_nil, or_false] at hmem
    rcases hmem with rfl | rfl | rfl | rfl <;> simp [Text.isDigitByte] at hb
  · intro fuel rest hfuel hrest
    cases fuel with
    | zero => simp [hcons] at hfuel
    | succ fuel =>
      rw [readValue?.eq_def]
      dsimp only
      split
      · next h => exact absurd h (hhead _ (by decide) (by decide) rest _)
      · next h => exact absurd h (hhead _ (by decide) (by decide) rest _)
      · next h => exact absurd h (hhead _ (by decide) (by decide) rest _)
      · next h => exact absurd h (hhead _ (by decide) (by decide) rest _)
      · next h => exact absurd h (hhead _ (by decide) (by decide) rest _)
      · next h => exact absurd h (hhead _ (by decide) (by decide) rest _)
      · rw [readNumber?_text wf hrest]
        rfl

/-! Objects. -/

/-- Members that are read as others: the names with stray bytes replaced, the values by their
texts. -/
inductive MembersParse (escapes : Escapes) (level depth : Nat) :
    List (Text × Json) → List (Text × Json) → Prop
  | nil : MembersParse escapes level depth [] []
  | cons (name : Text) {v v' : Json} {ms ms' : List (Text × Json)}
      (value : Parses (indentedAt escapes level v) depth v')
      (tail : MembersParse escapes level depth ms ms') :
      MembersParse escapes level depth ((name, v) :: ms) ((name.repaired, v') :: ms')

theorem skipSpace_newline (level : Nat) (s : Text) :
    skipSpace (newline level ++ s) = skipSpace s := by
  have hspaces : ∀ n, skipSpace (List.replicate n 0x20 ++ s) = skipSpace s := by
    intro n
    induction n with
    | zero => rfl
    | succ n ih => rw [List.replicate_succ, List.cons_append, skipSpace, if_pos (by decide), ih]
  rw [newline, List.cons_append, skipSpace, if_pos (by decide), hspaces]

theorem follows_cons {b : UInt8} (h : Text.isDigitByte b = false ∧ b ≠ 0x2e ∧ b ≠ 0x65 ∧ b ≠ 0x45)
    (s : Text) : Follows (b :: s) := by
  intro c hc
  rw [← Option.some.inj hc]
  exact h

theorem follows_newline (level : Nat) (s : Text) : Follows (newline level ++ s) :=
  follows_cons (by decide) _

theorem follows_nil : Follows [] := by
  intro b hb
  cases hb

/-- One member is read, with what decides about the next. -/
theorem readMembers?_member (escapes : Escapes) (name : Text) {text : Text} {depth fuel : Nat}
    {v : Json} (parse : Parses text depth v) (hfuel : 2 * text.length ≤ fuel) {tail : Text}
    (htail : Follows tail) :
    readMembers? (fuel + 1) depth (quote escapes name ++ (": " : Text) ++ text ++ tail) =
      match skipSpace tail with
      | 0x2c :: rest =>
        (readMembers? fuel depth (skipSpace rest)).map fun p => ((name.repaired, v) :: p.1, p.2)
      | 0x7d :: rest => some ([(name.repaired, v)], rest)
      | _ => none := by
  have hcolon : skipSpace ((": " : Text) ++ (text ++ tail)) = 0x3a :: 0x20 :: (text ++ tail) := rfl
  have hvalue : skipSpace (0x20 :: (text ++ tail)) = text ++ tail := parse.visible tail
  rw [List.append_assoc, List.append_assoc, quote_append, readMembers?]
  simp only [readString?_quote, hcolon, hvalue]
  exact parse.read fuel tail hfuel htail ▸ rfl

theorem skipSpace_newline_quote (escapes : Escapes) (level : Nat) (name value tail : Text) :
    skipSpace (newline level ++ quote escapes name ++ (": " : Text) ++ value ++ tail) =
      quote escapes name ++ (": " : Text) ++ value ++ tail := by
  rw [List.append_assoc, List.append_assoc, List.append_assoc, skipSpace_newline, quote_append,
    skipSpace_cons (by decide), ← quote_append, List.append_assoc, List.append_assoc]

/-- The members of an object with their line breaks are read up to the closing brace. -/
theorem readMembers?_indented {escapes : Escapes} {level depth : Nat} {ms ms' : List (Text × Json)}
    (parse : MembersParse escapes level depth ms ms') (hne : ms ≠ []) (outer : Nat) (rest : Text)
    {fuel : Nat} (hfuel : 2 * (indentedMembers escapes level ms).length ≤ fuel) :
    readMembers? fuel depth (skipSpace (indentedMembers escapes level ms ++
      (newline outer ++ 0x7d :: rest))) = some (ms', rest) := by
  induction parse generalizing fuel with
  | nil => exact absurd rfl hne
  | @cons name v v' ms ms' value tail ih =>
    cases tail with
    | nil =>
      simp only [indentedMembers, List.length_append, newline, List.length_cons] at hfuel
      obtain ⟨fuel, rfl⟩ := Nat.exists_eq_add_one_of_ne_zero (show fuel ≠ 0 by omega)
      rw [indentedMembers, skipSpace_newline_quote,
        readMembers?_member escapes name value (by omega) (follows_newline outer _),
        skipSpace_newline, skipSpace_cons (by decide)]
      rfl
    | cons next value' tail' =>
      simp only [indentedMembers, List.length_append, newline, List.length_cons] at hfuel
      obtain ⟨fuel, rfl⟩ := Nat.exists_eq_add_one_of_ne_zero (show fuel ≠ 0 by omega)
      rw [indentedMembers, List.append_assoc (newline level ++ _ ++ _ ++ _), List.cons_append,
        skipSpace_newline_quote,
        readMembers?_member escapes name value (by omega) (follows_cons (by decide) _),
        skipSpace_cons (by decide)]
      have hnext := ih (List.cons_ne_nil _ _) (show _ ≤ fuel by omega)
      exact congrArg (Option.map _) hnext

theorem exists_skipSpace_indentedMembers {escapes : Escapes} {level depth : Nat}
    {ms ms' : List (Text × Json)} (parse : MembersParse escapes level depth ms ms') (hne : ms ≠ [])
    (tail : Text) :
    ∃ s, skipSpace (indentedMembers escapes level ms ++ tail) = Text.quote :: s := by
  cases parse with
  | nil => exact absurd rfl hne
  | cons name value hms =>
    cases hms with
    | nil =>
      rw [indentedMembers, skipSpace_newline_quote, List.append_assoc, List.append_assoc,
        quote_append]
      exact ⟨_, rfl⟩
    | cons =>
      rw [indentedMembers, List.append_assoc (newline level ++ _ ++ _ ++ _),
        skipSpace_newline_quote, List.append_assoc, List.append_assoc, quote_append]
      exact ⟨_, rfl⟩

/-- An object of several lines is read as its members. -/
theorem parses_object {escapes : Escapes} {level depth : Nat} {ms ms' : List (Text × Json)}
    (hne : ms ≠ []) (parse : MembersParse escapes (level + 1) depth ms ms') :
    Parses (indentedAt escapes level (.object ms)) (depth + 1) (.object ms') := by
  have hread := readMembers?_indented parse hne level
  have hopen : ∀ rest, indentedAt escapes level (.object ms) ++ rest =
      0x7b :: (indentedMembers escapes (level + 1) ms ++ (newline level ++ 0x7d :: rest)) := by
    intro rest
    cases parse with
    | nil => exact absurd rfl hne
    | cons => simp [indentedAt]
  constructor
  · intro rest
    rw [hopen]
    exact skipSpace_cons (by decide) _
  · intro fuel rest hfuel _
    have htext := (List.append_nil _).symm.trans (hopen [])
    rw [htext, List.length_cons, List.length_append] at hfuel
    obtain ⟨fuel, rfl⟩ := Nat.exists_eq_add_one_of_ne_zero (show fuel ≠ 0 by omega)
    have hmembers := hread rest (show _ ≤ fuel by omega)
    obtain ⟨s, hs⟩ := exists_skipSpace_indentedMembers parse hne (newline level ++ 0x7d :: rest)
    rw [hopen, readValue?, if_neg (by simp), hs]
    rw [hs] at hmembers
    exact congrArg (Option.map _) hmembers

/-- A document that starts and ends with a value is read as the value. -/
theorem read?_of_parses {text : Text} {v : Json} (parse : Parses text maxDepth v) :
    read? text = some v := by
  have hvisible := parse.visible []
  have hread := parse.read (2 * text.length + 2) [] (by omega) follows_nil
  rw [List.append_nil] at hvisible hread
  rw [read?, hvisible, hread]
  rfl

end DocScribe.Json
