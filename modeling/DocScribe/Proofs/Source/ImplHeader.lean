import DocScribe.Proofs.Source.Declaration
import DocScribe.Proofs.Source.ForWord
import DocScribe.Proofs.Source.Generics
import DocScribe.Proofs.Source.Path

/-!
# Impl headers

An `ImplHeader` is the grammar of a header: blanks, an optional `unsafe`, the keyword, a list of
generic parameters or none, a path, and a tail that the path does not run into. The reader meets the
parts in this order, and each has its own module: what precedes the keyword is passed over
(`implHeader?_eq_some`), the word `for` lies in one part as a whole
(`ImplHeader.not_hasFor_subject`), and what the generic parameters leave is the path
(`pathName_eq_last`). So the line is read as the block that the grammar says, under the last
identifier of the path (`ImplHeader.readsAs_last`).
-/

namespace DocScribe.Source

open Text

/-! What an impl header names. -/

section Names

variable {p : TypePath} {generics gap tail : Text}

/-- The mark of a negative impl. -/
def bang (negative : Bool) : Text :=
  if negative then "!" else []

theorem solid_bang_append (negative : Bool) (p : TypePath) : Solid (bang negative ++ p.text) := by
  cases negative with
  | false => exact p.solid
  | true =>
    have hbang : Solid (bang true) := solid_of_ends rfl rfl rfl rfl
    exact hbang.append p.solid

theorem head?_bang_append_ne (negative : Bool) (p : TypePath) (rest : Text) :
    (bang negative ++ p.text ++ rest).head? ≠ some 0x3c := by
  cases negative with
  | true =>
    intro h
    cases h
  | false =>
    obtain ⟨b, s, hcons⟩ := List.exists_cons_of_ne_nil p.text_ne_nil
    have habsent := p.allCodes.not_mem_of_ascii (b := 0x3c) (by decide) (by decide +kernel)
    rw [bang, if_neg Bool.false_ne_true, List.nil_append, hcons, List.cons_append, List.head?_cons]
    intro h
    cases h
    exact habsent (hcons ▸ List.mem_cons_self)

theorem dropGenerics_of_head? {s : Text} (h : s.head? ≠ some 0x3c) : dropGenerics s = s := by
  unfold dropGenerics
  split
  · exact absurd rfl h
  · rfl

/-- What is left of a header without its generic parameters, its trimmed end apart. -/
theorem exists_dropGenerics_trim (hgenerics : generics = [] ∨ IsGenericList generics)
    (hgap : ∀ b ∈ gap, b = 0x20) (negative : Bool) (p : TypePath) (tail : Text) :
    ∃ rest, rest <+: tail ∧
      dropGenerics (trim (generics ++ (gap ++ (bang negative ++ p.text ++ tail)))) =
        bang negative ++ p.text ++ rest := by
  have solid := solid_bang_append negative p
  rcases hgenerics with rfl | list
  · refine ⟨trimEnd tail, trimEnd_isPrefix tail, ?_⟩
    rw [List.nil_append, trim_spaces_append hgap, solid.trim_append]
    exact dropGenerics_of_head? (head?_bang_append_ne negative p _)
  · -- Both the header and what follows the list are trimmed.
    refine ⟨trimEnd (trimEnd tail), (trimEnd_isPrefix _).trans (trimEnd_isPrefix tail), ?_⟩
    have hleft : trim (afterGenerics 0 false
        (generics ++ (gap ++ (bang negative ++ p.text ++ trimEnd tail)))) =
        bang negative ++ p.text ++ trimEnd (trimEnd tail) := by
      rw [list.afterGenerics_append, trim_spaces_append hgap, solid.trim_append]
    rw [list.solid.trim_append, solid.trimEnd_spaces_append hgap]
    obtain ⟨inner, rfl, -⟩ := list.exists_closesAngles
    exact hleft

theorem TypePath.not_bang_isPrefix (p : TypePath) (rest : Text) :
    ¬ ("!" : Text) <+: p.text ++ rest := by
  obtain ⟨b, s, hcons⟩ := List.exists_cons_of_ne_nil p.text_ne_nil
  have habsent := p.allCodes.not_mem_of_ascii (b := 0x21) (by decide) (by decide +kernel)
  rw [hcons] at habsent ⊢
  intro h
  have hb : (0x21 : UInt8) = b := (List.cons_prefix_cons.1 h).1
  exact habsent (hb ▸ List.mem_cons_self)

theorem TypePath.not_dyn_isPrefix {p : TypePath} (hdyn : p.text ≠ "dyn") {rest : Text}
    (stops : StopsPath rest) : ¬ ("dyn " : Text) <+: p.text ++ rest := by
  rintro ⟨after, h⟩
  -- Otherwise the longest run of path characters would be both the path and `dyn`.
  have hcodes : AllCodes isPathChar "dyn" := by
    unfold AllCodes
    decide
  have hstops : StopsPath (0x20 :: after) := by
    rw [stopsPath_cons_iff, headGlyph_of_ascii (by decide)]
    decide +kernel
  have hread := hcodes.takeGlyphs_append isPathChar_replacement hstops
  rw [show ("dyn" : Text) ++ 0x20 :: after = ("dyn " : Text) ++ after from rfl, h,
    p.takeGlyphs_text_append stops] at hread
  exact hdyn hread

/-- **The name of a header** is the last identifier of the path after the generic parameters. -/
theorem pathName_eq_last (hgenerics : generics = [] ∨ IsGenericList generics)
    (hgap : ∀ b ∈ gap, b = 0x20) (negative : Bool) (hdyn : p.text ≠ "dyn")
    (stops : StopsPath tail) :
    pathName (generics ++ (gap ++ (bang negative ++ p.text ++ tail))) = p.last := by
  obtain ⟨rest, hrest, hdrop⟩ := exists_dropGenerics_trim hgenerics hgap negative p tail
  have hstops := stops.of_isPrefix hrest
  have hbang : trimStartOf "!" (bang negative ++ p.text ++ rest) = p.text ++ rest := by
    cases negative with
    | false => exact trimStartOf_of_not_isPrefix (p.not_bang_isPrefix rest)
    | true => exact trimStartOf_append "!" (p.text ++ rest)
  rw [pathName, hdrop, hbang, trimStartOf_of_not_isPrefix (TypePath.not_dyn_isPrefix hdyn hstops),
    p.solid.trim_append, p.takeGlyphs_text_append (hstops.of_isPrefix (trimEnd_isPrefix rest)),
    p.lastSegment_splitOn_text]

end Names

/-! From the line to the header. -/

/-- Nothing, or `unsafe` and at least one space. -/
def IsQualifier (s : Text) : Prop :=
  s = [] ∨ ∃ spaces, spaces ≠ [] ∧ (∀ b ∈ spaces, b = 0x20) ∧ s = ("unsafe" : Text) ++ spaces

theorem IsQualifier.dropUnsafe_append {qualifier : Text} (h : IsQualifier qualifier)
    (header : Text) :
    dropUnsafe ((qualifier ++ (("impl" : Text) ++ header)).dropWhile isGap) =
      ("impl" : Text) ++ header := by
  rcases h with rfl | ⟨spaces, hspaces, hblank, rfl⟩
  · rfl
  · have hdrop : (spaces ++ (("impl" : Text) ++ header)).dropWhile isGap =
        ("impl" : Text) ++ header := by
      rw [List.dropWhile_append_of_pos]
      · rfl
      · intro b hb
        rw [hblank b hb]
        rfl
    rw [List.append_assoc]
    change dropUnsafe (("unsafe" : Text) ++ (spaces ++ (("impl" : Text) ++ header))) = _
    rw [dropUnsafe, dropStart?_eq_some_iff.2 rfl]
    dsimp only
    rw [hdrop, if_neg]
    -- Without a space after it, `unsafe` would be taken for the start of another word.
    have hlength := List.length_pos_iff.2 hspaces
    simp only [List.length_append, beq_iff_eq]
    omega

/-- What precedes the keyword is passed over. -/
theorem implHeader?_eq_some {indent qualifier header : Text}
    (hindent : ∀ b ∈ indent, b = 0x20 ∨ b = 0x09) (hqualifier : IsQualifier qualifier)
    (hne : header ≠ []) (hstart : startsInWord header = false) (hlf : lf ∉ header) :
    implHeader? (indent ++ (qualifier ++ (("impl" : Text) ++ header))) = some header := by
  have hgaps : ∀ b ∈ indent, isGap b = true := by
    intro b hb
    rcases hindent b hb with rfl | rfl <;> rfl
  obtain ⟨b, rest, rfl⟩ := List.exists_cons_of_ne_nil hne
  have hb : (isWordByte b || b == lf) = false := by
    have hno : b ≠ lf := fun h => hlf (h ▸ List.mem_cons_self)
    rw [Bool.or_eq_false_iff, beq_eq_false_iff_ne]
    exact ⟨hstart, hno⟩
  have htake : (b :: rest).takeWhile (· != lf) = b :: rest := by
    refine List.takeWhile_eq_self_iff.2 fun c hc => ?_
    rw [bne_iff_ne]
    exact fun h => hlf (h ▸ hc)
  rw [implHeader?, List.dropWhile_append_of_pos hgaps, hqualifier.dropUnsafe_append,
    dropStart?_eq_some_iff.2 rfl]
  dsimp only
  rw [hb, if_neg Bool.false_ne_true, htake]

/-- The line is an impl block of the kind and of this name, and has no name as the other kind. -/
structure ReadsAs (line : Text) (kind : Kind) (name : Text) : Prop where
  classified : classify line = kind
  named : extractName line kind = name
  unnamed : ∀ other, other.isImpl = true → other ≠ kind → extractName line other = []

theorem extractName_eq_nil_of_classify {line : Text} {kind : Kind} (h : classify line = kind)
    (other : Kind) (hother : other.isImpl = true) (hne : other ≠ kind) :
    extractName line other = [] := by
  by_contra hname
  exact hne ((classify_of_extractName_ne_nil hother hname).1.symm.trans h)

theorem readsAs_structImpl {line header : Text} (hheader : implHeader? line = some header)
    (hfor : ¬ HasFor header) : ReadsAs line .structImpl (pathName header) := by
  have hnone := beforeFor?_eq_none_iff.2 hfor
  have hkind : classify line = .structImpl := by
    rw [classify, hheader]
    dsimp only
    rw [hnone, Option.isSome_none, if_neg Bool.false_ne_true]
  refine ⟨hkind, ?_, extractName_eq_nil_of_classify hkind⟩
  rw [extractName, hheader]
  dsimp only
  rw [hnone, Option.isSome_none, if_neg Bool.false_ne_true]

theorem readsAs_traitImpl {line header before : Text} (hheader : implHeader? line = some header)
    (hbefore : beforeFor? header = some before) : ReadsAs line .traitImpl (pathName before) := by
  have hkind : classify line = .traitImpl := by
    rw [classify, hheader]
    dsimp only
    rw [hbefore, Option.isSome_some, if_pos rfl]
  refine ⟨hkind, ?_, extractName_eq_nil_of_classify hkind⟩
  rw [extractName, hheader, Option.bind_some, hbefore]

/-! Where the parts of a header meet. -/

theorem isPathChar_of_isWordByte (b : UInt8) (h : isWordByte b = true) :
    b < 0x80 ∧ isPathChar b.toNat = true := by
  have hall : ∀ i : Fin 256, isWordByte (UInt8.ofFin i) = true →
      UInt8.ofFin i < 0x80 ∧ isPathChar (UInt8.ofFin i).toNat = true := by
    decide +kernel
  exact hall b.toFin h

/-- A word character is one of a path. -/
theorem StopsPath.startsInWord {tail : Text} (stops : StopsPath tail) :
    startsInWord tail = false := by
  cases tail with
  | nil => rfl
  | cons b s =>
    by_contra hword
    rw [Bool.not_eq_false] at hword
    obtain ⟨hascii, hpath⟩ := isPathChar_of_isWordByte b hword
    rw [stopsPath_cons_iff, headGlyph_of_ascii hascii] at stops
    exact Bool.false_ne_true (stops.symm.trans hpath)

/-! The grammar. -/

/-- The parts of an impl header up to what follows its path, each in its own form. -/
structure ImplHeader where
  indent : Text
  qualifier : Text
  generics : Text
  gap : Text
  path : TypePath
  tail : Text
  indent_blank : ∀ b ∈ indent, b = 0x20 ∨ b = 0x09
  qualifier_form : IsQualifier qualifier
  generics_form : generics = [] ∨ IsGenericList generics
  gap_blank : ∀ b ∈ gap, b = 0x20
  separated : generics = [] → gap ≠ []
  path_ne_dyn : path.text ≠ "dyn"
  tail_stops : StopsPath tail

namespace ImplHeader

variable (h : ImplHeader)

/-- What stands before the keyword, the keyword, and `rest` after it. -/
def lineOf (rest : Text) : Text :=
  h.indent ++ (h.qualifier ++ (("impl" : Text) ++ rest))

/-- Generic parameters, path and what follows it, with or without the mark of a negative impl. -/
def subject (negative : Bool) : Text :=
  h.generics ++ (h.gap ++ (bang negative ++ h.path.text ++ h.tail))

/-- The line of a header without a trait. -/
def structLine : Text :=
  h.lineOf (h.subject false)

/-- The line of a header that names a trait, implemented for the type in `rest`. -/
def traitLine (negative : Bool) (rest : Text) : Text :=
  h.lineOf (h.subject negative ++ ((" for " : Text) ++ rest))

theorem subject_ne_nil (negative : Bool) : h.subject negative ≠ [] := by
  have hpath := h.path.text_ne_nil
  rw [subject]
  simp [hpath]

theorem startsInWord_subject (negative : Bool) : startsInWord (h.subject negative) = false := by
  rw [subject]
  rcases h.generics_form with hgenerics | list
  · obtain ⟨b, rest, hgap⟩ := List.exists_cons_of_ne_nil (h.separated hgenerics)
    have hb := h.gap_blank b (by rw [hgap]; exact List.mem_cons_self)
    rw [hgenerics, hgap, hb]
    rfl
  · obtain ⟨inner, hgenerics, -⟩ := list.exists_closesAngles
    rw [hgenerics]
    rfl

theorem implHeader?_lineOf (negative : Bool) (rest : Text)
    (hlf : lf ∉ h.lineOf (h.subject negative ++ rest)) :
    implHeader? (h.lineOf (h.subject negative ++ rest)) = some (h.subject negative ++ rest) := by
  refine implHeader?_eq_some h.indent_blank h.qualifier_form
    (List.append_ne_nil_of_left_ne_nil (h.subject_ne_nil negative) rest) ?_ ?_
  · rw [startsInWord_append_of_ne_nil (h.subject_ne_nil negative)]
    exact h.startsInWord_subject negative
  · intro hmem
    exact hlf (List.mem_append_right _ (List.mem_append_right _ (List.mem_append_right _ hmem)))

theorem pathName_subject (negative : Bool) : pathName (h.subject negative) = h.path.last :=
  pathName_eq_last h.generics_form h.gap_blank negative h.path_ne_dyn h.tail_stops

/-- A space before the word `for` does not change the name. -/
theorem pathName_subject_append_space (negative : Bool) :
    pathName (h.subject negative ++ [0x20]) = h.path.last := by
  have hname := pathName_eq_last h.generics_form h.gap_blank negative h.path_ne_dyn
    (h.tail_stops.append_space [])
  rw [← hname, subject]
  simp only [List.append_assoc]

theorem endsInWord_generics : endsInWord false h.generics = false := by
  rcases h.generics_form with hgenerics | list
  · rw [hgenerics]
    rfl
  · rw [endsInWord, list.getLast?]
    rfl

theorem endsInWord_gap : endsInWord false h.gap = false := by
  rw [endsInWord]
  cases hlast : h.gap.getLast? with
  | none => rfl
  | some b =>
    rw [h.gap_blank b (List.mem_of_getLast? hlast)]
    rfl

/-- The parts of a header meet at no two word characters, so the word `for` lies in one of them. -/
theorem not_hasFor_subject (hgenerics : ¬ HasFor h.generics) (hpath : ¬ HasFor h.path.text)
    (htail : ¬ HasFor h.tail) (negative : Bool) : ¬ HasFor (h.subject negative) := by
  have hgap : ¬ HasFor h.gap := by
    refine not_hasFor_of_not_mem fun hmem => ?_
    cases h.gap_blank _ hmem
  have hbang : ¬ HasFor (bang negative) := by
    cases negative <;> exact not_hasFor_of_not_mem (by decide)
  have hends : endsInWord false (bang negative) = false := by
    cases negative <;> rfl
  intro hfor
  -- One seam after the other; the path may end in a word character, but the tail starts with none.
  rcases hfor.of_append (.inl h.endsInWord_generics) with hfor | hfor
  · exact hgenerics hfor
  · rcases hfor.of_append (.inl h.endsInWord_gap) with hfor | hfor
    · exact hgap hfor
    · rcases hfor.of_append (.inr h.tail_stops.startsInWord) with hfor | hfor
      · rcases hfor.of_append (.inl hends) with hfor | hfor
        · exact hbang hfor
        · exact hpath hfor
      · exact htail hfor

/-- What the reader takes for the trait is the header up to the space before the word `for`. -/
theorem beforeFor?_subject {negative : Bool} (absent : ¬ HasFor (h.subject negative))
    (rest : Text) :
    beforeFor? (h.subject negative ++ ((" for " : Text) ++ rest)) =
      some (h.subject negative ++ [0x20]) := by
  have hspace : ¬ HasFor (h.subject negative ++ [0x20]) := by
    intro hfor
    rcases hfor.of_append (.inr rfl) with hfor | hfor
    · exact absent hfor
    · exact not_hasFor_of_not_mem (by decide) hfor
  have splits : SplitsAtFor false (h.subject negative ++ ((" for " : Text) ++ rest))
      (h.subject negative ++ [0x20]) (0x20 :: rest) := by
    refine ⟨?_, endsInWord_append_of_ne_nil false _ (List.cons_ne_nil _ _), rfl⟩
    rw [List.append_assoc]
    rfl
  exact beforeFor?_of_not_hasFor splits hspace

/-- **Impl headers are read by their grammar**: a header without the word `for` is the block of a
type, and one whose first `for` follows the tail is the block of a trait, be it negative or not.
Either is named by the last identifier of its path. -/
theorem readsAs_last :
    (lf ∉ h.structLine → ¬ HasFor (h.subject false) →
      ReadsAs h.structLine .structImpl h.path.last) ∧
    ∀ (negative : Bool) (rest : Text), lf ∉ h.traitLine negative rest →
      ¬ HasFor h.generics → ¬ HasFor h.path.text → ¬ HasFor h.tail →
      ReadsAs (h.traitLine negative rest) .traitImpl h.path.last := by
  constructor
  · intro hlf hfor
    have hheader := h.implHeader?_lineOf false []
    rw [List.append_nil] at hheader
    rw [← h.pathName_subject false]
    exact readsAs_structImpl (hheader hlf) hfor
  · intro negative rest hlf hgenerics hpath htail
    have absent := h.not_hasFor_subject hgenerics hpath htail negative
    rw [← h.pathName_subject_append_space negative]
    exact readsAs_traitImpl (h.implHeader?_lineOf negative _ hlf) (h.beforeFor?_subject absent rest)

/-- A header with every part: `unsafe`, nested parameters with an arrow, and a rooted path. -/
def sample : ImplHeader where
  indent := [0x09]
  qualifier := "unsafe "
  generics := "<T: Fn(u8) -> Vec<u8>>"
  gap := " "
  path := ⟨true, ["crate"], "Größe", by decide⟩
  tail := "<T>"
  indent_blank := fun _ hb => .inr (List.mem_singleton.1 hb)
  qualifier_form := .inr ⟨" ", List.cons_ne_nil _ _, fun _ hb => List.mem_singleton.1 hb, rfl⟩
  generics_form := .inr (by decide)
  gap_blank := fun _ hb => List.mem_singleton.1 hb
  separated := by decide
  path_ne_dyn := by decide
  tail_stops := by decide +kernel

theorem sample_readsAs :
    ReadsAs sample.structLine .structImpl "Größe" ∧
      ReadsAs (sample.traitLine true "T \x7b\x7d") .traitImpl "Größe" :=
  ⟨sample.readsAs_last.1 (by decide) (by decide),
    sample.readsAs_last.2 true "T \x7b\x7d" (by decide) (by decide)
      (by decide) (by decide)⟩

end ImplHeader

end DocScribe.Source
