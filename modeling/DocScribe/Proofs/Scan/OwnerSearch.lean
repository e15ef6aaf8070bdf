import DocScribe.Proofs.Scan.Enclosure
import DocScribe.Proofs.Scan.Outcome

/-!
# How the search for an owner ends

The scan for the owner of a function stops on the nearest line above it that leaves a brace open
there, and answers iff that line declares an impl block with a name. `ownerSearch` says for every
document, line and limit whether there is an owner, none, or too little of the document in reach to
tell. A function without an owner is no failure: the search fails only when the limit cuts it short
(`findOwner_reason`).
-/

namespace DocScribe.Scan

open Source

/-- Line `h` opens the block around the function on line `a` and declares the owner, and the limit
lets the scan get there. -/
structure Owns (d : Document) (limit : Limit) (h a : Nat) (o : Owner) : Prop where
  declares : declaresFunction d a = true
  encloses : Encloses d h a
  in_reach : 0 < limit.lines → (a : Int) - h ≤ limit.lines
  impl : o.kind.isImpl = true
  named : o.name ≠ []
  kind : codeKind (d.lineText h) = o.kind
  name : codeName (d.lineText h) o.kind = o.name

/-- The limit stops the scan for the owner of the function on line `a`: there are lines left, and
none of those that it allows opens the block around the function. -/
structure OwnerOutOfReach (d : Document) (limit : Limit) (a : Nat) : Prop where
  declares : declaresFunction d a = true
  limited : 0 < limit.lines
  more_above : limit.lines < a
  unenclosed : ∀ h, Encloses d h a → limit.lines < (a : Int) - h

theorem FailsWith.map_iff {α β : Type} {reason : Reason} {x : Except Failure α} {g : α → β} :
    FailsWith reason (x.map g) ↔ FailsWith reason x := by
  cases x with
  | error failure => simp [Except.map, FailsWith]
  | ok a => simp [Except.map, FailsWith]

section

variable {d : Document} {limit : Limit} {a h : Nat} {o : Owner}

/-- The backward scan from line `n - 1` on, when no line from `n` to `a - 1` encloses `a`. -/
theorem enclosingAmong_cut_iff (limit : Limit) (anchor : Int) (ha : a ≤ d.length) (n : Nat)
    (hn : n ≤ a) (passed : ∀ m, n ≤ m → m < a → net d m a ≤ 0)
    (allowed : limit.exceeded (a - n) = false) :
    FailsWith .limitExceeded
        (enclosingAmong limit anchor (a - n + 1) (1 - net d n a) (d.take n).reverse) ↔
      limit.exceeded a = true ∧ ∀ h, Encloses d h a → limit.exceeded (a - h) = true := by
  induction n with
  | zero =>
    rw [List.take_zero, List.reverse_nil, enclosingAmong]
    constructor
    · intro h
      exact absurd h not_failsWith_ok
    · rintro ⟨hcut, -⟩
      rw [Nat.sub_zero, hcut] at allowed
      cases allowed
  | succ n ih =>
    rw [show a - (n + 1) + 1 = a - n by omega, enclosingAmong_step hn ha]
    by_cases hlim : limit.exceeded (a - n) = true
    · rw [if_pos hlim, failsWith_error_iff]
      refine ⟨fun _ => ⟨Limit.exceeded_mono (by omega) hlim, fun h enc => ?_⟩, fun _ => rfl⟩
      have hlt := enc.lt_of_passed passed
      exact Limit.exceeded_mono (by omega) hlim
    rw [if_neg hlim]
    by_cases hstop : 0 < net d n a
    · rw [if_pos hstop]
      constructor
      · intro h
        exact absurd h not_failsWith_ok
      · rintro ⟨-, henc⟩
        exact absurd (henc n ⟨hn, hstop, fun m hnm hma => passed m (by omega) hma⟩) hlim
    · rw [if_neg hstop]
      apply ih (by omega)
      · intro m hnm hma
        rcases Nat.eq_or_lt_of_le hnm with rfl | hlt
        · omega
        · exact passed m hlt hma
      · simpa using hlim

theorem enclosingAmong_reason {anchor : Int} {examined : Nat} {depth : Int} {lines : List Text}
    {failure : Failure}
    (fails : enclosingAmong limit anchor examined depth lines = .error failure) :
    failure.reason = .limitExceeded := by
  induction lines generalizing examined depth with
  | nil => cases fails
  | cons line above ih =>
    rw [enclosingAmong] at fails
    split at fails
    · cases fails
      rfl
    · dsimp only at fails
      split at fails
      · cases fails
      · exact ih fails

theorem owns_iff :
    Owns d limit h a o ↔
      declaresFunction d a = true ∧ Encloses d h a ∧ limit.exceeded (a - h) = false ∧
        ownerOnLine? (d.lineText h) = some o := by
  rw [ownerOnLine?_eq_some_iff, Limit.not_exceeded_iff]
  constructor
  · rintro ⟨declares, encloses, in_reach, impl, named, kind, name⟩
    have habove := encloses.above
    exact ⟨declares, encloses, by omega, impl, named, kind, name⟩
  · rintro ⟨declares, encloses, in_reach, impl, named, kind, name⟩
    have habove := encloses.above
    exact ⟨declares, encloses, by omega, impl, named, kind, name⟩

theorem ownerOutOfReach_iff :
    OwnerOutOfReach d limit a ↔
      declaresFunction d a = true ∧ limit.exceeded a = true ∧
        ∀ h, Encloses d h a → limit.exceeded (a - h) = true := by
  simp only [Limit.exceeded_iff]
  constructor
  · rintro ⟨declares, limited, more_above, unenclosed⟩
    refine ⟨declares, ⟨limited, more_above⟩, fun h enc => ⟨limited, ?_⟩⟩
    have habove := enc.above
    have hfar := unenclosed h enc
    omega
  · rintro ⟨declares, ⟨limited, more_above⟩, unenclosed⟩
    refine ⟨declares, limited, more_above, fun h enc => ?_⟩
    have habove := enc.above
    have hfar := (unenclosed h enc).2
    omega

theorem not_declaresFunction_of_neg {anchor : Int} (hneg : anchor < 0) :
    ¬ declaresFunction d anchor = true := by
  intro h
  rw [declaresFunction, Bool.and_eq_true] at h
  obtain ⟨n, hn, -⟩ := Document.exists_of_hasLine h.1
  omega

theorem findOwner_of_not_declares {anchor : Int} (h : ¬ declaresFunction d anchor = true) :
    findOwner d limit anchor = .ok none := by
  rw [findOwner, enclosingLine, if_neg h]
  rfl

theorem findOwner_eq_some_iff : findOwner d limit a = .ok (some o) ↔ ∃ h, Owns d limit h a o := by
  constructor
  · intro found
    obtain ⟨declares, h, enc, hlim, howner⟩ := exists_enclosing_of_findOwner found
    exact ⟨h, owns_iff.2 ⟨declares, enc, hlim, howner⟩⟩
  · rintro ⟨h, owns⟩
    obtain ⟨declares, enc, hlim, howner⟩ := owns_iff.1 owns
    rw [findOwner, enclosingLine_eq_some_iff.2 ⟨declares, enc, rfl, hlim⟩, ← howner]
    rfl

theorem findOwner_cut_iff :
    FailsWith .limitExceeded (findOwner d limit a) ↔ OwnerOutOfReach d limit a := by
  rw [ownerOutOfReach_iff]
  by_cases declares : declaresFunction d a = true
  · have hlen := (declaresFunction_iff.1 declares).1
    have hscan := enclosingAmong_cut_iff limit a (Nat.le_of_lt hlen) a (Nat.le_refl a) (by omega)
      (by rw [Limit.not_exceeded_iff]; omega)
    rw [Nat.sub_self, net_self] at hscan
    rw [findOwner, FailsWith.map_iff, enclosingLine, if_pos declares,
      Document.upFrom_pred (Nat.le_of_lt hlen)]
    simpa [declares] using hscan
  · rw [findOwner_of_not_declares declares]
    simp [declares, FailsWith]

theorem findOwner_reason {anchor : Int} {failure : Failure}
    (fails : findOwner d limit anchor = .error failure) : failure.reason = .limitExceeded := by
  rw [findOwner, enclosingLine] at fails
  split at fails
  · cases hscan : enclosingAmong limit anchor 1 1 (d.upFrom (anchor - 1)) with
    | error cause =>
      rw [hscan] at fails
      cases fails
      exact enclosingAmong_reason hscan
    | ok found =>
      rw [hscan] at fails
      cases fails
  · cases fails

theorem findOwner_eq_none_iff :
    findOwner d limit a = .ok none ↔
      (∀ o, ¬ ∃ h, Owns d limit h a o) ∧ ¬ OwnerOutOfReach d limit a := by
  rw [← findOwner_cut_iff]
  simp only [← findOwner_eq_some_iff]
  cases hfound : findOwner d limit a with
  | error failure => simp [FailsWith, findOwner_reason hfound]
  | ok found => cases found <;> simp [FailsWith]

end

/-- How the search for the owner of a function ends. -/
structure OwnerSearch (d : Document) (limit : Limit) (anchor : Int) : Prop where
  owner_iff : ∀ o, findOwner d limit anchor = .ok (some o) ↔
    ∃ a : Nat, anchor = a ∧ ∃ h, Owns d limit h a o
  cut_iff : FailsWith .limitExceeded (findOwner d limit anchor) ↔
    ∃ a : Nat, anchor = a ∧ OwnerOutOfReach d limit a
  none_iff : findOwner d limit anchor = .ok none ↔
    (∀ o, ¬ ∃ a : Nat, anchor = a ∧ ∃ h, Owns d limit h a o) ∧
      ¬ ∃ a : Nat, anchor = a ∧ OwnerOutOfReach d limit a
  /-- A line that declares no function has no owner. -/
  undeclared : ¬ declaresFunction d anchor = true → findOwner d limit anchor = .ok none

/-- **How the scan for an owner ends**: on the nearest line above the function that leaves a brace
open there. What the line declares is the owner, if it is an impl block with a name and the limit
lets the scan get there; else the scan is cut short iff none of the lines that the limit allows is
that line and there is one more, and in every other case there is no owner. -/
theorem ownerSearch (d : Document) (limit : Limit) (anchor : Int) :
    OwnerSearch d limit anchor := by
  rcases Int.lt_or_le anchor 0 with hneg | hpos
  · have outside : ∀ a : Nat, anchor ≠ a := by
      intro a
      omega
    have none : findOwner d limit anchor = .ok none :=
      findOwner_of_not_declares (not_declaresFunction_of_neg hneg)
    exact ⟨by simp [none, outside], by simp [none, outside, FailsWith], by simp [none, outside],
      findOwner_of_not_declares⟩
  · obtain ⟨a, rfl⟩ := Int.eq_ofNat_of_zero_le hpos
    refine ⟨fun o => ?_, ?_, ?_, findOwner_of_not_declares⟩
    · simp only [findOwner_eq_some_iff, Int.natCast_inj, exists_eq_left']
    · simp only [findOwner_cut_iff, Int.natCast_inj, exists_eq_left']
    · simp only [findOwner_eq_none_iff, Int.natCast_inj, exists_eq_left']

end DocScribe.Scan
