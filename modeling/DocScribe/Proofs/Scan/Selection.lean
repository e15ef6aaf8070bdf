import DocScribe.Proofs.Scan.Limit
import DocScribe.Proofs.Scan.Unlimited

/-!
# What a limit hides from a cursor

The kind of the nearest declaration is found by a scan of its own, which says that there is none
when the limit cuts it short. So a cursor can be told that there is nothing to document although its
target lies farther up. `notFound_persists_iff` says when this cannot happen: when the target, if
there is one, is declared on one of the lines that the limit allows.
-/

namespace DocScribe.Scan

open Source

variable {d : Document} {limit : Limit} {cursor : Position}

theorem scopeAmong_eq_iff {kind : Kind} (hkind : kind ≠ .unknown) (cursor : Int) (examined : Nat)
    (lines : List Text) :
    scopeAmong limit examined lines = kind ↔
      ∃ n, startAmong limit kind cursor examined lines = .ok n := by
  induction lines generalizing examined with
  | nil =>
    rw [scopeAmong, startAmong]
    refine ⟨fun h => absurd h.symm hkind, ?_⟩
    rintro ⟨_, h⟩
    cases h
  | cons line above ih =>
    rw [scopeAmong, startAmong]
    split
    · refine ⟨fun h => absurd h.symm hkind, ?_⟩
      rintro ⟨_, h⟩
      cases h
    · simp only [beq_iff_eq]
      by_cases hunknown : codeKind line = .unknown
      · rw [if_pos hunknown, hunknown, if_neg hkind.symm, if_pos rfl]
        exact ih (examined + 1)
      · rw [if_neg hunknown, if_neg hunknown]
        split
        · next hfound => exact ⟨fun _ => ⟨_, rfl⟩, fun _ => hfound⟩
        · next hfound =>
          refine ⟨fun h => absurd h hfound, ?_⟩
          rintro ⟨_, h⟩
          cases h

/-- The nearest declaration is of the kind for which the search for a declaration succeeds. -/
theorem currentScope_eq_iff {kind : Kind} (hkind : kind ≠ .unknown) :
    currentScope d limit cursor = kind ↔ ∃ pos, findStart d limit cursor kind = .ok pos := by
  rw [currentScope, scopeAmong_eq_iff hkind cursor.line, findStart,
    if_neg (fun h => hkind (beq_iff_eq.1 h))]
  constructor
  · rintro ⟨n, h⟩
    rw [h]
    exact ⟨_, rfl⟩
  · rintro ⟨pos, h⟩
    cases hscan : startAmong limit kind cursor.line 1 (d.upFrom cursor.line) with
    | error failure =>
      rw [hscan] at h
      cases h
    | ok n => exact ⟨n, rfl⟩

theorem findStart_of_current {t : Target} (h : current d limit cursor = .ok t) :
    t.kind ≠ .unknown ∧ findStart d limit cursor t.kind = .ok t.extent.anchor := by
  have found : ∀ (kind : Kind) {t : Target}, kind ≠ .unknown →
      documentable d limit cursor kind = .ok t →
      t.kind ≠ .unknown ∧ findStart d limit cursor t.kind = .ok t.extent.anchor := by
    intro kind t hkind ht
    obtain ⟨anchor, last, hanchor, -, -, rfl⟩ := documentable_eq_ok_iff.1 ht
    exact ⟨hkind, hanchor⟩
  rw [current] at h
  split at h
  · obtain ⟨target, htarget, hrest⟩ := bind_eq_ok_iff.1 h
    obtain ⟨owner, -, hpure⟩ := bind_eq_ok_iff.1 hrest
    cases hpure
    have hfound := found .function (by decide) htarget
    exact hfound
  · exact found .struct (by decide) h
  · exact found .trait (by decide) h
  · cases h

/-- The selection of a target is settled once the nearest declaration is. -/
theorem current_settles_of_scope {narrow wide : Limit} (within : narrow.Within wide)
    (h : currentScope d wide cursor = currentScope d narrow cursor) :
    Settles (current d narrow cursor) (current d wide cursor) := by
  rw [current, current, h]
  split
  · exact currentFunction_settles within d cursor
  · exact documentable_settles within d cursor .struct
  · exact documentable_settles within d cursor .trait
  · exact Settles.refl _

/-- A limited search for a declaration finds what the unlimited one finds, if it is in reach. -/
theorem findStart_eq_ok_iff_in_reach {unlimited : Limit} (hlimit : 0 < limit.lines)
    (off : unlimited.lines ≤ 0) {kind : Kind} {pos : Position} :
    findStart d limit cursor kind = .ok pos ↔
      findStart d unlimited cursor kind = .ok pos ∧ cursor.line - pos.line < limit.lines := by
  by_cases hline : d.hasLine cursor.line = true
  · obtain ⟨c, hcursor, hc⟩ := Document.exists_of_hasLine hline
    rw [findStart_eq_ok_iff hcursor hc, findStart_eq_ok_iff hcursor hc, hcursor]
    constructor
    · rintro ⟨hkind, l, near, rfl, hlim⟩
      refine ⟨⟨hkind, l, near, rfl, Limit.not_exceeded_of_off off _⟩, ?_⟩
      have hle := near.le_cursor
      have hreach := Limit.not_exceeded_iff.1 hlim hlimit
      dsimp only
      omega
    · rintro ⟨⟨hkind, l, near, rfl, -⟩, hreach⟩
      refine ⟨hkind, l, near, rfl, Limit.not_exceeded_iff.2 fun _ => ?_⟩
      have hle := near.le_cursor
      dsimp only at hreach
      omega
  · exact ⟨fun h => absurd (hasLine_of_findStart h) hline,
      fun h => absurd (hasLine_of_findStart h.1) hline⟩

/-- **When a limit hides nothing**: that a cursor has nothing to document under the limit means that
it has nothing to document at all exactly if its target, should there be one, is declared on one of
the `limit.lines` lines that end with the line of the cursor. -/
theorem notFound_persists_iff {limit unlimited : Limit} (hlimit : 0 < limit.lines)
    (off : unlimited.lines ≤ 0) (d : Document) (cursor : Position) :
    (FailsWith .notFound (current d limit cursor) →
        FailsWith .notFound (current d unlimited cursor)) ↔
      ∀ t, current d unlimited cursor = .ok t →
        cursor.line - t.extent.anchor.line < limit.lines := by
  have within : limit.Within unlimited := ⟨hlimit, .inr off⟩
  constructor
  · intro persists t ht
    obtain ⟨hkind, hstart⟩ := findStart_of_current ht
    by_contra hfar
    have hscope : currentScope d limit cursor = .unknown := by
      by_contra hne
      obtain ⟨pos, hpos⟩ := (currentScope_eq_iff hne).1 rfl
      obtain ⟨hfound, hreach⟩ := (findStart_eq_ok_iff_in_reach hlimit off).1 hpos
      have hsame : currentScope d limit cursor = t.kind :=
        ((currentScope_eq_iff hne).2 ⟨pos, hfound⟩).symm.trans
          ((currentScope_eq_iff hkind).2 ⟨_, hstart⟩)
      rw [hsame, hstart] at hfound
      cases hfound
      exact hfar hreach
    have hnothing : FailsWith .notFound (current d limit cursor) := by
      rw [current, hscope]
      exact ⟨_, rfl, rfl⟩
    obtain ⟨failure, hfailure, -⟩ := persists hnothing
    rw [ht] at hfailure
    cases hfailure
  · rintro near ⟨failure, hfailure, hreason⟩
    cases hcurrent : current d unlimited cursor with
    | error cause => exact ⟨cause, rfl, current_onlyNotFound off d cursor cause hcurrent⟩
    | ok t =>
      -- The target is in reach, so the limited search is settled and finds it too.
      obtain ⟨hkind, hstart⟩ := findStart_of_current hcurrent
      have hlimited := (findStart_eq_ok_iff_in_reach hlimit off).2 ⟨hstart, near t hcurrent⟩
      have hscope : currentScope d unlimited cursor = currentScope d limit cursor :=
        ((currentScope_eq_iff hkind).2 ⟨_, hstart⟩).trans
          ((currentScope_eq_iff hkind).2 ⟨_, hlimited⟩).symm
      have hsame := current_settles_of_scope within hscope <| by
        rintro ⟨cause, hcause, hcut⟩
        rw [hfailure] at hcause
        cases hcause
        rw [hreason] at hcut
        cases hcut
      rw [hsame, hfailure] at hcurrent
      cases hcurrent

/-- A function whose last line is two lines below its declaration. -/
def threeLineFunction : Document :=
  ["fn f() \x7b", "  x", "\x7d"]

/-- From its last line the function is in reach of three lines. -/
theorem threeLineFunction_notFound_persists :
    0 < (⟨3⟩ : Limit).lines ∧
    current threeLineFunction ⟨0⟩ ⟨2, 0⟩ = .ok ⟨.function, "f", ⟨⟨0, 0⟩, ⟨2, 0⟩⟩, [], none⟩ ∧
    ((FailsWith .notFound (current threeLineFunction ⟨3⟩ ⟨2, 0⟩) →
        FailsWith .notFound (current threeLineFunction ⟨0⟩ ⟨2, 0⟩)) ↔
      ∀ t, current threeLineFunction ⟨0⟩ ⟨2, 0⟩ = .ok t →
        (2 : Int) - t.extent.anchor.line < 3) :=
  ⟨by decide, by decide,
    notFound_persists_iff (by decide) (by decide) threeLineFunction ⟨2, 0⟩⟩

/-- From its last line the function is out of reach of two lines: there is nothing to document then,
although there is without a limit, and although the search for a function says that the limit was
exceeded. -/
theorem threeLineFunction_hidden_by_limit :
    FailsWith .limitExceeded (currentFunction threeLineFunction ⟨2⟩ ⟨2, 0⟩) ∧
    ¬ (FailsWith .notFound (current threeLineFunction ⟨2⟩ ⟨2, 0⟩) →
        FailsWith .notFound (current threeLineFunction ⟨0⟩ ⟨2, 0⟩)) := by
  have hfunction : currentFunction threeLineFunction ⟨2⟩ ⟨2, 0⟩ =
      .error (.startLimit .function 2) := by
    rfl
  have hlimited : current threeLineFunction ⟨2⟩ ⟨2, 0⟩ = .error (.undocumentable 2 .unknown) := by
    rfl
  have hunlimited : current threeLineFunction ⟨0⟩ ⟨2, 0⟩ =
      .ok ⟨.function, "f", ⟨⟨0, 0⟩, ⟨2, 0⟩⟩, [], none⟩ := by
    decide
  refine ⟨⟨_, hfunction, rfl⟩, fun persists => ?_⟩
  obtain ⟨failure, hfailure, -⟩ := persists ⟨_, hlimited, rfl⟩
  rw [hunlimited] at hfailure
  cases hfailure

end DocScribe.Scan
