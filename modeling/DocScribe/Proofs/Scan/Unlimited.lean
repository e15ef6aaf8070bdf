import DocScribe.Proofs.Scan.Target
import DocScribe.Proofs.Source.Declaration

/-!
# Scans without a limit

With the limit disabled a scan decides at each line by the line alone (`startAmong_cons_of_off` and
its likes). A search for a target then fails for one reason only, that there is nothing to find
(`current_onlyNotFound`): the limit is no cause, the scan for an owner always ends, and what can be
documented has a name.
-/

namespace DocScribe.Scan

open Source

/-- If the search fails, then because it found nothing. -/
def OnlyNotFound {α : Type} (x : Except Failure α) : Prop :=
  ∀ failure, x = .error failure → failure.reason = .notFound

theorem OnlyNotFound.bind {α β : Type} {x : Except Failure α} {next : α → Except Failure β}
    (first : OnlyNotFound x) (rest : ∀ a, x = .ok a → OnlyNotFound (next a)) :
    OnlyNotFound (x >>= next) := by
  intro failure h
  cases hx : x with
  | error cause =>
    rw [hx] at h
    cases h
    exact first failure hx
  | ok a =>
    rw [hx] at h
    exact rest a hx failure h

theorem onlyNotFound_ok {α : Type} (a : α) : OnlyNotFound (.ok a : Except Failure α) := by
  intro failure h
  cases h

section Disabled

variable {limit : Limit} (off : limit.lines ≤ 0)
include off

theorem startAmong_cons_of_off (kind : Kind) (cursor : Int) (examined : Nat) (line : Text)
    (above : List Text) :
    startAmong limit kind cursor examined (line :: above) =
      if codeKind line = kind then .ok above.length
      else if codeKind line = .unknown then startAmong limit kind cursor (examined + 1) above
      else .error (.blocked kind (codeKind line) above.length) := by
  rw [startAmong, Limit.not_exceeded_of_off off]
  simp only [Bool.false_eq_true, if_false, beq_iff_eq]

theorem endAmong_cons_of_off (kind : Kind) (start : Int) (examined : Nat) (depth : Int)
    (opened : Bool) (line : Text) (below : List Text) :
    endAmong limit kind start examined depth opened (line :: below) =
      if (opened || decide (0 < opens line)) && decide (depth + balance line ≤ 0) then
        .ok ⟨start + (examined - 1 : Nat), lastColumn line⟩
      else endAmong limit kind start (examined + 1) (depth + balance line)
        (opened || decide (0 < opens line)) below := by
  rw [endAmong, Limit.not_exceeded_of_off off]
  rfl

theorem scopeAmong_cons_of_off (examined : Nat) (line : Text) (above : List Text) :
    scopeAmong limit examined (line :: above) =
      if codeKind line = .unknown then scopeAmong limit (examined + 1) above
      else codeKind line := by
  rw [scopeAmong, Limit.not_exceeded_of_off off]
  simp only [Bool.false_eq_true, if_false, beq_iff_eq]

theorem enclosingAmong_cons_of_off (anchor : Int) (examined : Nat) (depth : Int) (line : Text)
    (above : List Text) :
    enclosingAmong limit anchor examined depth (line :: above) =
      if depth - balance line ≤ 0 then .ok (some (line, above.length))
      else enclosingAmong limit anchor (examined + 1) (depth - balance line) above := by
  rw [enclosingAmong, Limit.not_exceeded_of_off off]
  rfl

theorem startAmong_onlyNotFound (kind : Kind) (cursor : Int) (examined : Nat) (lines : List Text) :
    OnlyNotFound (startAmong limit kind cursor examined lines) := by
  induction lines generalizing examined with
  | nil =>
    rintro failure ⟨⟩
    rfl
  | cons line above ih =>
    rw [startAmong_cons_of_off off]
    split
    · exact onlyNotFound_ok _
    · split
      · exact ih (examined + 1)
      · rintro failure ⟨⟩
        rfl

theorem endAmong_onlyNotFound (kind : Kind) (start : Int) (examined : Nat) (depth : Int)
    (opened : Bool) (lines : List Text) :
    OnlyNotFound (endAmong limit kind start examined depth opened lines) := by
  induction lines generalizing examined depth opened with
  | nil =>
    rintro failure ⟨⟩
    rfl
  | cons line below ih =>
    rw [endAmong_cons_of_off off]
    split
    · exact onlyNotFound_ok _
    · exact ih _ _ _

theorem exists_enclosingAmong_eq_ok (anchor : Int) (examined : Nat) (depth : Int)
    (lines : List Text) :
    ∃ found, enclosingAmong limit anchor examined depth lines = .ok found := by
  induction lines generalizing examined depth with
  | nil => exact ⟨none, rfl⟩
  | cons line above ih =>
    rw [enclosingAmong_cons_of_off off]
    split
    · exact ⟨_, rfl⟩
    · exact ih _ _

variable (d : Document)

theorem exists_findOwner_eq_ok (anchor : Int) : ∃ owner, findOwner d limit anchor = .ok owner := by
  rw [findOwner, enclosingLine]
  split
  · obtain ⟨found, hfound⟩ := exists_enclosingAmong_eq_ok off anchor 1 1 (d.upFrom (anchor - 1))
    rw [hfound]
    exact ⟨_, rfl⟩
  · exact ⟨_, rfl⟩

theorem findStart_onlyNotFound (cursor : Position) (kind : Kind) :
    OnlyNotFound (findStart d limit cursor kind) := by
  intro failure h
  rw [findStart] at h
  split at h
  · cases h
    rfl
  · cases hscan : startAmong limit kind cursor.line 1 (d.upFrom cursor.line) with
    | error cause =>
      rw [hscan] at h
      cases h
      exact startAmong_onlyNotFound off kind cursor.line 1 _ failure hscan
    | ok n =>
      rw [hscan] at h
      cases h

theorem findEnd_onlyNotFound (start : Position) (kind : Kind) :
    OnlyNotFound (findEnd d limit start kind) := by
  rw [findEnd]
  split
  · rintro failure ⟨⟩
    rfl
  · split
    · exact endAmong_onlyNotFound off kind start.line 1 0 false _
    · rintro failure ⟨⟩
      rfl

theorem documentable_onlyNotFound (cursor : Position) {kind : Kind}
    (hkind : kind = .function ∨ kind = .struct ∨ kind = .trait) :
    OnlyNotFound (documentable d limit cursor kind) := by
  refine (OnlyNotFound.bind (findStart_onlyNotFound off d cursor kind) fun anchor _ =>
    (findEnd_onlyNotFound off d anchor kind).bind fun last _ => onlyNotFound_ok _).bind ?_
  intro extent hextent
  obtain ⟨anchor, last, hanchor, hlast, rfl⟩ := findExtent_eq_ok_iff.1 hextent
  obtain ⟨n, hn, rfl⟩ := exists_line_of_findStart hanchor
  obtain ⟨declares, -⟩ := (findEnd_eq_ok_iff rfl hn).1 hlast
  have hname := codeName_ne_nil hkind declares
  rw [if_neg (by simpa using hname)]
  exact onlyNotFound_ok _

theorem currentFunction_onlyNotFound (cursor : Position) :
    OnlyNotFound (currentFunction d limit cursor) := by
  refine (documentable_onlyNotFound off d cursor (.inl rfl)).bind fun target _ => ?_
  obtain ⟨owner, howner⟩ := exists_findOwner_eq_ok off d target.extent.anchor.line
  rw [howner]
  exact onlyNotFound_ok _

/-- Without a limit, a cursor that selects no target has found nothing. -/
theorem current_onlyNotFound (cursor : Position) : OnlyNotFound (current d limit cursor) := by
  rw [current]
  split
  · exact currentFunction_onlyNotFound off d cursor
  · exact documentable_onlyNotFound off d cursor (.inr (.inl rfl))
  · exact documentable_onlyNotFound off d cursor (.inr (.inr rfl))
  · rintro failure ⟨⟩
    rfl

end Disabled

end DocScribe.Scan
