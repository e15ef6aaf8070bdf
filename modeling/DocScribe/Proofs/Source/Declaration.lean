import DocScribe.Proofs.Source.Comment
import DocScribe.Source.Declaration
import Mathlib.Data.List.TakeWhile

/-!
# What a line can declare

Every form of a declaration holds the letters of its keyword, so a line without code declares
nothing (`codeKind_of_not_hasCode`). The name after a keyword is a word, so what a keyword declares
always has a name (`isWord_extractName`). The name of an impl block is an identifier or missing, and
a line that names a block of one kind is of that kind (`classify_of_extractName_ne_nil`).
-/

namespace DocScribe.Source

theorem nameAfter?_eq_none {keyword s : Text} {b : UInt8} (gap : Bool) (hb : b ∈ keyword)
    (absent : b ∉ s) : nameAfter? keyword gap s = none := by
  rw [nameAfter?]
  cases hdrop : Text.dropStart? keyword s with
  | none => rfl
  | some rest =>
    rw [Text.dropStart?_eq_some_iff.1 hdrop] at absent
    exact absurd (List.mem_append_left rest hb) absent

theorem keywordNameFrom?_eq_none {keyword : Text} {b : UInt8} (gap first : Bool)
    (hb : b ∈ keyword) {s : Text} (absent : b ∉ s) :
    keywordNameFrom? keyword gap first s = none := by
  induction s generalizing first with
  | nil => rfl
  | cons c s ih =>
    have hhere : (if first then nameAfter? keyword gap (c :: s) else none) = none := by
      rw [nameAfter?_eq_none gap hb absent, ite_self]
    rw [keywordNameFrom?, hhere]
    exact ih (isGap c) fun h => absent (List.mem_cons_of_mem c h)

theorem mem_of_mem_dropUnsafe {s : Text} {b : UInt8} (h : b ∈ dropUnsafe s) : b ∈ s := by
  rw [dropUnsafe] at h
  split at h
  · next rest hdrop =>
    dsimp only at h
    split at h
    · exact h
    · rw [Text.dropStart?_eq_some_iff.1 hdrop]
      exact List.mem_append_right _ ((List.dropWhile_suffix _).mem h)
  · exact h

theorem implHeader?_eq_none {b : UInt8} (hb : b ∈ ("impl" : Text)) {s : Text} (absent : b ∉ s) :
    implHeader? s = none := by
  rw [implHeader?]
  cases hdrop : Text.dropStart? "impl" (dropUnsafe (s.dropWhile isGap)) with
  | none => rfl
  | some rest =>
    have hmem : b ∈ dropUnsafe (s.dropWhile isGap) := by
      rw [Text.dropStart?_eq_some_iff.1 hdrop]
      exact List.mem_append_left rest hb
    exact absurd ((List.dropWhile_suffix _).mem (mem_of_mem_dropUnsafe hmem)) absent

theorem classify_of_isBlank {s : Text} (h : s.isBlank = true) : classify s = .unknown := by
  have absent : ∀ b, Text.isBlankByte b = false → b ∉ s := by
    intro b hb hmem
    rw [Text.isBlankByte_of_isBlank h hmem] at hb
    cases hb
  have unnamed : ∀ (keyword : Text) (gap : Bool) (b : UInt8), b ∈ keyword →
      Text.isBlankByte b = false → keywordName? keyword gap s = none :=
    fun keyword gap b hb hblank => keywordNameFrom?_eq_none gap true hb (absent b hblank)
  rw [classify, implHeader?_eq_none (b := 0x69) (by decide) (absent _ (by decide)),
    functionName?, unnamed _ _ 0x66 (by decide) (by decide),
    structName?, unnamed _ _ 0x73 (by decide) (by decide),
    traitName?, unnamed _ _ 0x74 (by decide) (by decide),
    macroName?, unnamed _ _ 0x6d (by decide) (by decide)]
  rfl

/-- A line without code declares nothing. -/
theorem codeKind_of_not_hasCode {line : Text} (h : hasCode line = false) :
    codeKind line = .unknown := by
  rw [hasCode, Bool.not_eq_false'] at h
  exact classify_of_isBlank h

/-- A text of one or more ASCII word characters. -/
structure IsWord (s : Text) : Prop where
  ne_nil : s ≠ []
  word : ∀ b ∈ s, Text.isWordByte b = true

theorem isWord_of_takeWord? {s name : Text} (h : takeWord? s = some name) : IsWord name := by
  simp only [takeWord?] at h
  split at h
  · cases h
  · next hword =>
    cases h
    exact ⟨fun hnil => hword (List.isEmpty_iff.2 hnil), fun b hb => List.mem_takeWhile_imp hb⟩

theorem isWord_of_nameAfter? {keyword s name : Text} {gap : Bool}
    (h : nameAfter? keyword gap s = some name) : IsWord name := by
  rw [nameAfter?] at h
  split at h
  · cases h
  · dsimp only at h
    split at h
    · cases h
    · exact isWord_of_takeWord? h

theorem isWord_of_keywordNameFrom? {keyword s name : Text} {gap first : Bool}
    (h : keywordNameFrom? keyword gap first s = some name) : IsWord name := by
  induction s generalizing first with
  | nil => cases h
  | cons b s ih =>
    rw [keywordNameFrom?] at h
    split at h
    · next found hfound =>
      cases h
      split at hfound
      · exact isWord_of_nameAfter? hfound
      · cases hfound
    · exact ih h

theorem isWord_getD_keywordName? {keyword line : Text} {gap : Bool}
    (h : (keywordName? keyword gap line).isSome = true) :
    IsWord ((keywordName? keyword gap line).getD []) := by
  obtain ⟨name, hname⟩ := Option.isSome_iff_exists.1 h
  rw [hname, Option.getD_some]
  exact isWord_of_keywordNameFrom? hname

/-- What a keyword declares has a name, which is a word. -/
theorem isWord_extractName {line : Text} {kind : Kind}
    (hkind : kind = .function ∨ kind = .struct ∨ kind = .trait ∨ kind = .macroRules)
    (declares : classify line = kind) : IsWord (extractName line kind) := by
  rw [classify] at declares
  rcases hkind with rfl | rfl | rfl | rfl
  all_goals
    refine isWord_getD_keywordName? ?_
    grind [functionName?, structName?, traitName?, macroName?]

/-- A function, a structure or a trait that a line declares has a name. -/
theorem codeName_ne_nil {line : Text} {kind : Kind}
    (hkind : kind = .function ∨ kind = .struct ∨ kind = .trait) (declares : codeKind line = kind) :
    codeName line kind ≠ [] := by
  refine (isWord_extractName ?_ declares).ne_nil
  rcases hkind with h | h | h
  · exact .inl h
  · exact .inr (.inl h)
  · exact .inr (.inr (.inl h))

theorem classify_eq_unknown_iff {line : Text} :
    classify line = .unknown ↔ implHeader? line = none ∧ functionName? line = none ∧
      structName? line = none ∧ traitName? line = none ∧ macroName? line = none := by
  rw [classify]
  cases implHeader? line with
  | some header =>
    dsimp only
    split <;> simp
  | none =>
    cases functionName? line <;> cases structName? line <;> cases traitName? line <;>
      cases macroName? line <;> simp

/-- A line that names anything declares something. -/
theorem classify_ne_unknown {line : Text} {kind : Kind} (h : extractName line kind ≠ []) :
    classify line ≠ .unknown := by
  intro hunknown
  obtain ⟨himpl, hfunction, hstruct, htrait, hmacro⟩ := classify_eq_unknown_iff.1 hunknown
  cases kind <;> simp_all [extractName]

/-! Names of impl blocks. -/

theorem isIdent_lastSegment {segments : List Text} (h : lastSegment segments ≠ []) :
    isIdent (lastSegment segments) = true := by
  induction segments with
  | nil => exact absurd rfl h
  | cons segment segments ih =>
    rw [lastSegment] at h ⊢
    split
    · next hident => exact hident
    · next hident =>
      rw [if_neg hident] at h
      split
      · next hempty =>
        rw [if_pos hempty] at h
        exact ih h
      · next hempty =>
        rw [if_neg hempty] at h
        exact absurd rfl h

/-- A line that names an impl block of a kind is of that kind, and the name is read off a path. -/
theorem classify_of_extractName_ne_nil {line : Text} {kind : Kind} (hkind : kind.isImpl = true)
    (h : extractName line kind ≠ []) :
    classify line = kind ∧ ∃ header, extractName line kind = pathName header := by
  have absent : ¬ ([] : Text) ≠ [] := fun h => h rfl
  cases kind with
  | structImpl =>
    rw [extractName] at h ⊢
    rw [classify]
    cases hheader : implHeader? line with
    | none =>
      rw [hheader] at h
      exact absurd h absent
    | some header =>
      rw [hheader] at h
      dsimp only at h ⊢
      by_cases hfor : (beforeFor? header).isSome = true
      · rw [if_pos hfor] at h
        exact absurd h absent
      · rw [if_neg hfor, if_neg hfor]
        exact ⟨rfl, header, rfl⟩
  | traitImpl =>
    rw [extractName] at h ⊢
    rw [classify]
    cases hheader : implHeader? line with
    | none =>
      rw [hheader] at h
      exact absurd h absent
    | some header =>
      rw [hheader, Option.bind_some] at h
      rw [Option.bind_some]
      dsimp only
      cases hbefore : beforeFor? header with
      | none =>
        rw [hbefore] at h
        exact absurd h absent
      | some before => exact ⟨rfl, before, rfl⟩
  | _ => cases hkind

/-- The name of an impl block is an identifier. -/
theorem isIdent_extractName {line : Text} {kind : Kind} (hkind : kind.isImpl = true)
    (h : extractName line kind ≠ []) : isIdent (extractName line kind) = true := by
  obtain ⟨-, header, hname⟩ := classify_of_extractName_ne_nil hkind h
  rw [hname] at h ⊢
  exact isIdent_lastSegment h

end DocScribe.Source
