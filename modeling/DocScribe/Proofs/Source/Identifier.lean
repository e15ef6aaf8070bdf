import DocScribe.Proofs.Source.ImplHeader

/-!
# Two readings of an identifier

A keyword is followed by a word of ASCII characters, an impl header by identifiers of any letters.
`declaration id kind` is the simplest line of a kind that is about `id`. A keyword declares under
the ASCII word at the head of `id` (`extractName_declaration`), an impl block under `id` as a whole
(`readsAs_implLine`), so the four lines carry the same name iff `id` is such a word
(`namedAlike_iff`).
-/

namespace DocScribe.Source

open Text

/-- The line that declares `id` as a construct of the kind, or opens its impl block. -/
def declaration (id : Text) : Kind → Text
  | .function => ("fn" : Text) ++ 0x20 :: (id ++ ("() \x7b" : Text))
  | .struct => ("struct" : Text) ++ 0x20 :: (id ++ (" \x7b" : Text))
  | .trait => ("trait" : Text) ++ 0x20 :: (id ++ (" \x7b" : Text))
  | .structImpl => ("impl" : Text) ++ 0x20 :: (id ++ (" \x7b" : Text))
  | _ => []

/-- The kinds that `declaration` has a line for. -/
def declarable : List Kind :=
  [.struct, .trait, .function, .structImpl]

/-- Each line about `id` is of its kind and carries the name `id`. -/
def NamedAlike (id : Text) : Prop :=
  ∀ kind ∈ declarable, classify (declaration id kind) = kind ∧
    extractName (declaration id kind) kind = id

/-! The name after a keyword. -/

theorem isGap_of_isWordByte {b : UInt8} (h : isWordByte b = true) : isGap b = false := by
  have hall : ∀ i : Fin 256, isWordByte (UInt8.ofFin i) = true → isGap (UInt8.ofFin i) = false := by
    decide +kernel
  exact hall b.toFin h

theorem not_isPathChar_of_isGap {b : UInt8} (h : isGap b = true) :
    b < 0x80 ∧ isPathChar b.toNat = false := by
  have hall : ∀ i : Fin 256, isGap (UInt8.ofFin i) = true →
      UInt8.ofFin i < 0x80 ∧ isPathChar (UInt8.ofFin i).toNat = false := by
    decide +kernel
  exact hall b.toFin h

theorem not_isGap_of_isIdent {id : Text} (ident : isIdent id = true) :
    ∀ b ∈ id, isGap b = false := by
  intro b hb
  by_contra hgap
  rw [Bool.not_eq_false] at hgap
  obtain ⟨hascii, hpath⟩ := not_isPathChar_of_isGap hgap
  exact (allCodes_of_isIdent ident).not_mem_of_ascii hascii hpath hb

/-- No keyword starts inside a text without white space. -/
theorem keywordNameFrom?_append {keyword s : Text} (gap : Bool) (hs : ∀ b ∈ s, isGap b = false)
    (rest : Text) :
    keywordNameFrom? keyword gap false (s ++ rest) = keywordNameFrom? keyword gap false rest := by
  induction s with
  | nil => rfl
  | cons b s ih =>
    obtain ⟨hb, hrest⟩ := List.forall_mem_cons.1 hs
    rw [List.cons_append, keywordNameFrom?, hb]
    exact ih hrest

theorem takeWord?_eq_none {s : Text} (h : startsInWord s = false) : takeWord? s = none := by
  cases s with
  | nil => rfl
  | cons b s =>
    have hb : isWordByte b = false := h
    rw [takeWord?, List.takeWhile_cons, hb]
    rfl

theorem startsInWord_of_forall {s : Text} (h : ∀ b ∈ s, isWordByte b = false) :
    startsInWord s = false := by
  cases s with
  | nil => rfl
  | cons b s => exact h b List.mem_cons_self

/-- A keyword gives no name where another word stands. -/
theorem nameAfter?_of_ne {keyword s rest : Text} (hkeyword : IsWord keyword)
    (hs : ∀ b ∈ s, isGap b = false) (hne : keyword ≠ s) (hrest : startsInWord rest = false) :
    nameAfter? keyword true (s ++ rest) = none := by
  rw [nameAfter?]
  cases hdrop : dropStart? keyword (s ++ rest) with
  | none => rfl
  | some after =>
    dsimp only
    rcases List.append_eq_append_iff.1 (dropStart?_eq_some_iff.1 hdrop) with
      ⟨c, hc, hafter⟩ | ⟨c, hc, hafter⟩
    · -- The keyword would run on into `rest`.
      cases c with
      | nil => exact absurd (hc.trans (List.append_nil s)) hne
      | cons b c =>
        have hb := hkeyword.word b (by rw [hc]; simp)
        rw [hafter] at hrest
        exact absurd (hrest.symm.trans hb) Bool.false_ne_true
    · -- The word runs on after the keyword, so there is no gap between them.
      cases c with
      | nil => exact absurd (hc.trans (List.append_nil keyword)).symm hne
      | cons b c =>
        have hb : isGap b = false := hs b (by rw [hc]; simp)
        rw [hafter, List.cons_append, List.dropWhile_cons, hb]
        simp

section Keyword

variable {keyword id tail : Text} (hkeyword : IsWord keyword)
  (hid : ∀ b ∈ id, isGap b = false) (htail : ∀ b ∈ tail, isWordByte b = false)
include hkeyword hid htail

/-- An identifier is no keyword with a name after it: the tail has no name to give. -/
theorem nameAfter?_append_eq_none : nameAfter? keyword true (id ++ tail) = none := by
  by_cases hsame : keyword = id
  · rw [nameAfter?, dropStart?_eq_some_iff.2 (by rw [hsame])]
    have hunnamed : takeWord? (tail.dropWhile isGap) = none := by
      refine takeWord?_eq_none (startsInWord_of_forall fun b hb => ?_)
      exact htail b ((List.dropWhile_suffix isGap).mem hb)
    dsimp only
    rw [hunnamed, ite_self]
  · exact nameAfter?_of_ne hkeyword hid hsame (startsInWord_of_forall htail)

/-- The line of a keyword names what follows the keyword at its start, and nothing else. -/
theorem keywordName?_eq_nameAfter? {own : Text} (hown : IsWord own) :
    keywordName? keyword true (own ++ 0x20 :: (id ++ tail)) =
      nameAfter? keyword true (own ++ 0x20 :: (id ++ tail)) := by
  obtain ⟨b, own, rfl⟩ := List.exists_cons_of_ne_nil hown.ne_nil
  obtain ⟨k, hk⟩ := List.exists_mem_of_ne_nil keyword hkeyword.ne_nil
  obtain ⟨hb, hrest⟩ := List.forall_mem_cons.1 hown.word
  have habsent : k ∉ tail := fun hmem => by
    have hword := hkeyword.word k hk
    rw [htail k hmem] at hword
    cases hword
  have hlater : keywordNameFrom? keyword true true (id ++ tail) = none := by
    cases id with
    | nil => exact keywordNameFrom?_eq_none true true hk habsent
    | cons c id =>
      obtain ⟨hc, hid'⟩ := List.forall_mem_cons.1 hid
      rw [List.cons_append, keywordNameFrom?, if_pos rfl,
        ← List.cons_append, nameAfter?_append_eq_none hkeyword hid htail, hc]
      dsimp only
      rw [keywordNameFrom?_append true hid']
      exact keywordNameFrom?_eq_none true false hk habsent
  have hafter : keywordNameFrom? keyword true false (own ++ 0x20 :: (id ++ tail)) = none := by
    rw [keywordNameFrom?_append true fun c hc => isGap_of_isWordByte (hrest c hc),
      keywordNameFrom?]
    exact hlater
  rw [keywordName?, List.cons_append, keywordNameFrom?, if_pos rfl, isGap_of_isWordByte hb, hafter]
  cases nameAfter? keyword true (b :: (own ++ 0x20 :: (id ++ tail))) <;> rfl

/-- What a keyword declares is the word at the head of the identifier. -/
theorem keywordName?_own (hne : id ≠ []) :
    keywordName? keyword true (keyword ++ 0x20 :: (id ++ tail)) = takeWord? id := by
  have hdrop : (0x20 :: (id ++ tail)).dropWhile isGap = id ++ tail := by
    obtain ⟨b, rest, rfl⟩ := List.exists_cons_of_ne_nil hne
    have hb := hid b List.mem_cons_self
    rw [List.cons_append, List.dropWhile_cons_of_pos rfl, List.dropWhile_cons_of_neg (by simp [hb])]
  have hword : takeWord? (id ++ tail) = takeWord? id := by
    have hstop : tail.takeWhile isWordByte = [] := by
      refine List.takeWhile_eq_nil_iff.2 fun hlen hword => ?_
      rw [htail _ (List.get_mem tail ⟨0, hlen⟩)] at hword
      cases hword
    rw [takeWord?, takeWord?, List.takeWhile_append]
    split
    · next hall =>
      rw [hstop, List.append_nil, (List.takeWhile_prefix isWordByte).eq_of_length hall]
    · rfl
  rw [keywordName?_eq_nameAfter? hkeyword hid htail hkeyword, nameAfter?,
    dropStart?_eq_some_iff.2 rfl]
  dsimp only
  rw [hdrop, hword, if_neg (by simp)]

end Keyword

/-! The four lines. -/

/-- The keywords that a name follows. -/
def keywords : List Text :=
  ["fn", "struct", "trait"]

theorem isWord_of_mem_keywords {keyword : Text} (h : keyword ∈ keywords) : IsWord keyword := by
  simp only [keywords, List.mem_cons, List.not_mem_nil, or_false] at h
  rcases h with rfl | rfl | rfl <;>
    exact ⟨by decide, List.all_eq_true.1 (by decide)⟩

theorem not_isWordByte_parens : ∀ b ∈ ("() \x7b" : Text), isWordByte b = false := by
  have hall : ("() \x7b" : Text).all (fun b => !isWordByte b) = true := by decide
  intro b hb
  have hb := List.all_eq_true.1 hall b hb
  rwa [Bool.not_eq_eq_eq_not, Bool.not_true] at hb

theorem not_isWordByte_brace : ∀ b ∈ (" \x7b" : Text), isWordByte b = false := by
  have hsuffix : (" \x7b" : Text) <:+ ("() \x7b" : Text) := by decide
  exact fun b hb => not_isWordByte_parens b (hsuffix.subset hb)

theorem eq_space_of_mem_gap {b : UInt8} (h : b ∈ (" " : Text)) : b = 0x20 :=
  List.mem_singleton.1 h

theorem stopsPath_brace : StopsPath " \x7b" := by
  decide +kernel

section Lines

variable {id : Text} (ident : isIdent id = true)
include ident

theorem keywordName?_of_mem {keyword tail : Text} (hkeyword : keyword ∈ keywords)
    (htail : ∀ b ∈ tail, isWordByte b = false) :
    keywordName? keyword true (keyword ++ 0x20 :: (id ++ tail)) = takeWord? id :=
  keywordName?_own (isWord_of_mem_keywords hkeyword) (not_isGap_of_isIdent ident) htail
    (ne_nil_of_isIdent ident)

theorem keywordName?_of_ne {keyword own tail : Text} (hkeyword : keyword ∈ keywords)
    (hown : own ∈ keywords) (hne : keyword ≠ own) (htail : ∀ b ∈ tail, isWordByte b = false) :
    keywordName? keyword true (own ++ 0x20 :: (id ++ tail)) = none := by
  have hword := isWord_of_mem_keywords hown
  rw [keywordName?_eq_nameAfter? (isWord_of_mem_keywords hkeyword) (not_isGap_of_isIdent ident)
    htail hword]
  exact nameAfter?_of_ne (isWord_of_mem_keywords hkeyword)
    (fun b hb => isGap_of_isWordByte (hword.word b hb)) hne rfl

/-- A keyword declares under the ASCII word at the head of the identifier. -/
theorem extractName_declaration {kind : Kind}
    (hkind : kind = .function ∨ kind = .struct ∨ kind = .trait) :
    extractName (declaration id kind) kind = id.takeWhile isWordByte := by
  have hword : (takeWord? id).getD [] = id.takeWhile isWordByte := by
    rw [takeWord?]
    split
    · next hempty => exact (List.isEmpty_iff.1 hempty).symm
    · rfl
  rw [← hword]
  rcases hkind with rfl | rfl | rfl
  · exact congrArg (Option.getD · []) (keywordName?_of_mem ident (by decide) not_isWordByte_parens)
  · exact congrArg (Option.getD · []) (keywordName?_of_mem ident (by decide) not_isWordByte_brace)
  · exact congrArg (Option.getD · []) (keywordName?_of_mem ident (by decide) not_isWordByte_brace)

/-- An identifier that starts in an ASCII word is declared by its keyword. -/
theorem classify_declaration {kind : Kind}
    (hkind : kind = .function ∨ kind = .struct ∨ kind = .trait) (hname : takeWord? id = some id) :
    classify (declaration id kind) = kind := by
  have himpl : implHeader? (declaration id kind) = none := by
    rcases hkind with rfl | rfl | rfl <;> rfl
  rw [classify, himpl]
  rcases hkind with rfl | rfl | rfl
  · rw [declaration, functionName?, keywordName?_of_mem ident (by decide) not_isWordByte_parens,
      hname]
    rfl
  · rw [declaration, functionName?, structName?,
      keywordName?_of_ne ident (by decide) (by decide) (by decide) not_isWordByte_brace,
      keywordName?_of_mem ident (by decide) not_isWordByte_brace, hname]
    rfl
  · rw [declaration, functionName?, structName?, traitName?,
      keywordName?_of_ne ident (by decide) (by decide) (by decide) not_isWordByte_brace,
      keywordName?_of_ne ident (by decide) (by decide) (by decide) not_isWordByte_brace,
      keywordName?_of_mem ident (by decide) not_isWordByte_brace, hname]
    rfl

/-- The header of the impl block of an identifier. -/
def blockHeader (hdyn : id ≠ "dyn") : ImplHeader where
  indent := []
  qualifier := []
  generics := []
  gap := " "
  path := ⟨false, [], id, fun _ h => List.mem_singleton.1 h ▸ ident⟩
  tail := " \x7b"
  indent_blank := fun _ h => absurd h List.not_mem_nil
  qualifier_form := .inl rfl
  generics_form := .inl rfl
  gap_blank := fun _ => eq_space_of_mem_gap
  separated := fun _ => List.cons_ne_nil _ _
  path_ne_dyn := hdyn
  tail_stops := stopsPath_brace

/-- An impl block is named by the identifier as a whole. -/
theorem readsAs_implLine (hdyn : id ≠ "dyn") (hfor : ¬ HasFor id) :
    ReadsAs (declaration id .structImpl) .structImpl id := by
  have hlf : lf ∉ declaration id .structImpl := by
    have hid : lf ∉ id := fun h => by
      have hgap := not_isGap_of_isIdent ident lf h
      cases hgap
    have hend : lf ∉ (" \x7b" : Text) := by decide
    have hstart : lf ∉ ("impl" : Text) := by decide
    simp only [declaration, List.mem_append, List.mem_cons, not_or]
    exact ⟨hstart, by decide, hid, hend⟩
  have hheader := (blockHeader ident hdyn).implHeader?_lineOf false []
  rw [List.append_nil] at hheader
  have hempty : ¬ HasFor [] := not_hasFor_of_not_mem (by decide)
  have htail : ¬ HasFor " \x7b" := not_hasFor_of_not_mem (by decide)
  have habsent := (blockHeader ident hdyn).not_hasFor_subject hempty hfor htail false
  have hreads := readsAs_structImpl (hheader hlf) habsent
  rw [(blockHeader ident hdyn).pathName_subject false] at hreads
  exact hreads

end Lines

/-- The word `for` stands in an ASCII word only if it is that word. -/
theorem HasFor.eq_for {id : Text} (h : HasFor id) (hword : ∀ b ∈ id, isWordByte b = true) :
    id = "for" := by
  obtain ⟨front, back, rfl, hbefore, hafter⟩ := h
  have hfront : front = [] := by
    by_contra hne
    rw [endsInWord, List.getLast?_eq_some_getLast hne] at hbefore
    have hlast := hword (front.getLast hne) (List.mem_append_left _ (List.getLast_mem hne))
    exact Bool.false_ne_true (hbefore.symm.trans hlast)
  have hback : back = [] := by
    cases back with
    | nil => rfl
    | cons b back =>
      have hb := hword b (by simp)
      exact absurd (hafter.symm.trans hb) Bool.false_ne_true
  rw [hfront, hback, List.nil_append, List.append_nil]

/-- **When the two readings agree**: after a keyword an identifier is cut at the first byte that is
no ASCII word character, so the four lines carry it as a whole iff it has no such byte. -/
theorem namedAlike_iff {id : Text} (ident : isIdent id = true) (hfor : id ≠ "for")
    (hdyn : id ≠ "dyn") :
    (∀ kind, kind = .function ∨ kind = .struct ∨ kind = .trait →
      extractName (declaration id kind) kind = id.takeWhile isWordByte) ∧
    (¬ HasFor id → ReadsAs (declaration id .structImpl) .structImpl id) ∧
    (NamedAlike id ↔ ∀ b ∈ id, isWordByte b = true) := by
  refine ⟨fun kind hkind => extractName_declaration ident hkind, readsAs_implLine ident hdyn, ?_⟩
  constructor
  · intro named
    have hname := (named .struct (by decide)).2
    rw [extractName_declaration ident (.inr (.inl rfl))] at hname
    exact List.takeWhile_eq_self_iff.1 hname
  · intro hword
    have htake : id.takeWhile isWordByte = id := List.takeWhile_eq_self_iff.2 hword
    have hsome : takeWord? id = some id := by
      rw [takeWord?, htake, if_neg]
      simpa using ne_nil_of_isIdent ident
    have hkeyword : ∀ kind, kind = .function ∨ kind = .struct ∨ kind = .trait →
        classify (declaration id kind) = kind ∧ extractName (declaration id kind) kind = id := by
      intro kind hkind
      rw [extractName_declaration ident hkind, htake]
      exact ⟨classify_declaration ident hkind hsome, rfl⟩
    have himpl := readsAs_implLine ident hdyn fun h => hfor (h.eq_for hword)
    intro kind hkind
    simp only [declarable, List.mem_cons, List.not_mem_nil, or_false] at hkind
    rcases hkind with rfl | rfl | rfl | rfl
    · exact hkeyword .struct (.inr (.inl rfl))
    · exact hkeyword .trait (.inr (.inr rfl))
    · exact hkeyword .function (.inl rfl)
    · exact ⟨himpl.classified, himpl.named⟩

theorem forEach_namedAlike :
    isIdent "for_each2" = true ∧ ("for_each2" : Text) ≠ "for" ∧ ("for_each2" : Text) ≠ "dyn" ∧
      NamedAlike "for_each2" := by
  have ident : isIdent "for_each2" = true := by decide +kernel
  exact ⟨ident, by decide, by decide,
    (namedAlike_iff ident (by decide) (by decide)).2.2.2 (by decide +kernel)⟩

/-- The declaration of a type and its impl block do not carry the same name. -/
theorem umlaut_cut_after_keyword :
    isIdent "Größe" = true ∧ ("Größe" : Text) ≠ "for" ∧ ("Größe" : Text) ≠ "dyn" ∧
    extractName (declaration "Größe" .struct) .struct = "Gr" ∧
    extractName (declaration "Größe" .structImpl) .structImpl = "Größe" ∧
    ¬ NamedAlike "Größe" := by
  have hcut : extractName (declaration "Größe" .struct) .struct = "Gr" := by decide
  refine ⟨by decide +kernel, by decide, by decide, hcut, by decide +kernel, fun named => ?_⟩
  have hname := (named .struct (by decide)).2
  rw [hcut] at hname
  exact absurd hname (by decide)

end DocScribe.Source
