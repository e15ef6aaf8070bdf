import DocScribe.Proofs.Scan.Limit
import DocScribe.Proofs.Scan.Unlimited

/-!
# Whatever is found has a name

The kind of a line and its name are read by different means, and `WellNamed` says how far they
agree on every line. So a declaration that a search finds is never without a name: a search under a
limit fails for the reasons of the search without one, or because the limit cut it short
(`not_unresolvable`).
-/

namespace DocScribe.Scan

open Source

/-- How the kind of a line and the names read off it agree. -/
structure WellNamed (line : Text) : Prop where
  keyword : ∀ kind, kind = .function ∨ kind = .struct ∨ kind = .trait ∨ kind = .macroRules →
    classify line = kind → IsWord (extractName line kind)
  ident : ∀ kind, kind.isImpl = true →
    extractName line kind = [] ∨ isIdent (extractName line kind) = true
  exclusive : extractName line .structImpl = [] ∨ extractName line .traitImpl = []
  own : ∀ kind, kind.isImpl = true → extractName line kind ≠ [] → classify line = kind
  unknown : extractName line .unknown = []

theorem wellNamed (line : Text) : WellNamed line where
  keyword _ hkind declares := isWord_extractName hkind declares
  ident kind hkind := by
    by_cases h : extractName line kind = []
    · exact .inl h
    · exact .inr (isIdent_extractName hkind h)
  exclusive := by
    by_contra h
    rw [not_or] at h
    have hstruct := (classify_of_extractName_ne_nil rfl h.1).1
    have htrait := (classify_of_extractName_ne_nil rfl h.2).1
    rw [hstruct] at htrait
    cases htrait
  own _ hkind h := (classify_of_extractName_ne_nil hkind h).1
  unknown := rfl

/-- A search that only fails to find without a limit, and that a limit can only cut short, never
meets a declaration without a name. -/
theorem not_unresolvable {α : Type} {search : Limit → Except Failure α}
    (settles : ∀ {narrow wide : Limit}, narrow.Within wide →
      Settles (search narrow) (search wide))
    (unlimited : ∀ {limit : Limit}, limit.lines ≤ 0 → OnlyNotFound (search limit)) (limit : Limit) :
    ¬ FailsWith .unresolvable (search limit) := by
  rintro ⟨failure, hfailure, hreason⟩
  have settled : ¬ FailsWith .limitExceeded (search limit) := by
    rintro ⟨cause, hcause, hlimit⟩
    rw [hfailure] at hcause
    cases hcause
    rw [hreason] at hlimit
    cases hlimit
  have hsame : ∃ wide : Limit, wide.lines ≤ 0 ∧ search wide = search limit := by
    by_cases hoff : limit.lines ≤ 0
    · exact ⟨limit, hoff, rfl⟩
    · have within : limit.Within ⟨0⟩ := ⟨Int.not_le.1 hoff, .inr (Int.le_refl 0)⟩
      exact ⟨⟨0⟩, Int.le_refl 0, settles within settled⟩
  obtain ⟨wide, hoff, hwide⟩ := hsame
  have hnotFound := unlimited hoff failure (hwide.trans hfailure)
  rw [hreason] at hnotFound
  cases hnotFound

theorem documentable_not_unresolvable (d : Document) (limit : Limit) (cursor : Position)
    {kind : Kind} (hkind : kind = .function ∨ kind = .struct ∨ kind = .trait) :
    ¬ FailsWith .unresolvable (documentable d limit cursor kind) :=
  not_unresolvable (fun within => documentable_settles within d cursor kind)
    (fun off => documentable_onlyNotFound off d cursor hkind) limit

theorem currentFunction_not_unresolvable (d : Document) (limit : Limit) (cursor : Position) :
    ¬ FailsWith .unresolvable (currentFunction d limit cursor) :=
  not_unresolvable (fun within => currentFunction_settles within d cursor)
    (fun off => currentFunction_onlyNotFound off d cursor) limit

/-- No search from the cursor finds a declaration without a name. -/
structure Resolves (d : Document) (limit : Limit) (cursor : Position) : Prop where
  function : ¬ FailsWith .unresolvable (currentFunction d limit cursor)
  struct : ¬ FailsWith .unresolvable (currentStruct d limit cursor)
  trait : ¬ FailsWith .unresolvable (currentTrait d limit cursor)
  current : ¬ FailsWith .unresolvable (current d limit cursor)

theorem resolves (d : Document) (limit : Limit) (cursor : Position) : Resolves d limit cursor := by
  have hfunction := currentFunction_not_unresolvable d limit cursor
  have hstruct := documentable_not_unresolvable d limit cursor (.inr (.inl rfl))
  have htrait := documentable_not_unresolvable d limit cursor (.inr (.inr rfl))
  refine ⟨hfunction, hstruct, htrait, ?_⟩
  rw [Scan.current]
  split
  · exact hfunction
  · exact hstruct
  · exact htrait
  · rintro ⟨failure, ⟨⟩, hreason⟩
    cases hreason

/-- **Every construct that is found has a name**: the kind of a line and the names read off it agree
on every line, and so no search under any limit ends on a declaration without a name. -/
theorem wellNamed_and_resolves :
    (∀ line : Text, WellNamed line) ∧
      ∀ (d : Document) (limit : Limit) (cursor : Position), Resolves d limit cursor :=
  ⟨wellNamed, resolves⟩

end DocScribe.Scan
