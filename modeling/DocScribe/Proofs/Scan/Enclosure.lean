import DocScribe.Proofs.Scan.Boundary
import DocScribe.Scan.Owner

/-!
# The block around a function

The backward scan stops on the nearest line `h` above line `a` whose lines `h` to `a - 1` leave a
brace open (`Encloses`, `enclosingLine_eq_some_iff`). Seen from `h` the balance then stays positive
down to line `a - 1`, so the forward scan from `h` cannot stop before it has passed the whole
function: `findOwner_block_contains_function`.
-/

namespace DocScribe.Scan

open Source

/-- Line `h` is the nearest line above line `a` from which a brace is still open there. -/
structure Encloses (d : Document) (h a : Nat) : Prop where
  above : h < a
  leaves_open : 0 < net d h a
  nearest : ∀ m, h < m → m < a → net d m a ≤ 0

theorem Encloses.lt_of_passed {d : Document} {h n a : Nat} (enc : Encloses d h a)
    (passed : ∀ m, n ≤ m → m < a → net d m a ≤ 0) : h < n := by
  by_contra hle
  have hnet := passed h (by omega) enc.above
  have hopen := enc.leaves_open
  omega

/-- One line of the backward scan, whose depth stands for the lines from `n + 1` to `a - 1`. -/
theorem enclosingAmong_step {d : Document} {limit : Limit} {anchor : Int} {n a : Nat}
    (hn : n < a) (ha : a ≤ d.length) :
    enclosingAmong limit anchor (a - n) (1 - net d (n + 1) a) (d.take (n + 1)).reverse =
      if limit.exceeded (a - n) then .error (.ownerLimit anchor)
      else if 0 < net d n a then .ok (some (d.lineText n, n))
      else enclosingAmong limit anchor (a - n + 1) (1 - net d n a) (d.take n).reverse := by
  have hdepth : 1 - net d (n + 1) a - balance (d.lineText n) = 1 - net d n a := by
    rw [net_eq_balance_add d hn]
    omega
  have hstop : 1 - net d n a ≤ 0 ↔ 0 < net d n a := by omega
  have hlen := Document.length_reverse_take (d := d) (show n ≤ d.length by omega)
  rw [Document.reverse_take_succ (by omega), enclosingAmong]
  simp only [hdepth, hstop, hlen]

/-- The backward scan from line `n - 1` on, when no line from `n` to `a - 1` encloses `a`. -/
theorem enclosingAmong_eq_some_iff {d : Document} (limit : Limit) (anchor : Int) {a : Nat}
    (line : Text) (h : Nat) (ha : a ≤ d.length) (n : Nat) (hn : n ≤ a)
    (passed : ∀ m, n ≤ m → m < a → net d m a ≤ 0) :
    enclosingAmong limit anchor (a - n + 1) (1 - net d n a) (d.take n).reverse =
        .ok (some (line, h)) ↔
      Encloses d h a ∧ line = d.lineText h ∧ limit.exceeded (a - h) = false := by
  induction n with
  | zero =>
    rw [List.take_zero, List.reverse_nil, enclosingAmong]
    constructor
    · intro h
      cases h
    · rintro ⟨enc, -⟩
      exact absurd (enc.lt_of_passed passed) (Nat.not_lt_zero h)
  | succ n ih =>
    rw [show a - (n + 1) + 1 = a - n by omega, enclosingAmong_step hn ha]
    by_cases hlim : limit.exceeded (a - n) = true
    · rw [if_pos hlim]
      constructor
      · intro h
        cases h
      · rintro ⟨enc, -, hle⟩
        have hlt := enc.lt_of_passed passed
        rw [Limit.exceeded_mono (by omega) hlim] at hle
        cases hle
    rw [if_neg hlim]
    by_cases hstop : 0 < net d n a
    · rw [if_pos hstop]
      constructor
      · intro h
        cases h
        exact ⟨⟨hn, hstop, fun m hnm hma => passed m (by omega) hma⟩, rfl, by simpa using hlim⟩
      · rintro ⟨enc, rfl, -⟩
        have hlt := enc.lt_of_passed passed
        have hnh : ¬ h < n := fun hhn => absurd (enc.nearest n hhn hn) (Int.not_le.2 hstop)
        rw [show h = n by omega]
    · rw [if_neg hstop]
      refine ih (by omega) fun m hnm hma => ?_
      rcases Nat.eq_or_lt_of_le hnm with rfl | hlt
      · omega
      · exact passed m hlt hma

theorem declaresFunction_iff {d : Document} {a : Nat} :
    declaresFunction d a = true ↔ a < d.length ∧ codeKind (d.lineText a) = .function := by
  rw [declaresFunction, Document.hasLine_natCast, Bool.and_eq_true, decide_eq_true_eq, beq_iff_eq]

/-- The backward scan finds exactly the nearest line that encloses the function. -/
theorem enclosingLine_eq_some_iff {d : Document} {limit : Limit} {a : Nat} {line : Text} {h : Nat} :
    enclosingLine d limit a = .ok (some (line, h)) ↔
      declaresFunction d a = true ∧ Encloses d h a ∧ line = d.lineText h ∧
        limit.exceeded (a - h) = false := by
  rw [enclosingLine]
  by_cases hdecl : declaresFunction d a = true
  · have hlen := (declaresFunction_iff.1 hdecl).1
    have hscan := enclosingAmong_eq_some_iff limit a line h (Nat.le_of_lt hlen) a (Nat.le_refl a)
      (by omega)
    rw [Nat.sub_self, net_self] at hscan
    rw [if_pos hdecl, Document.upFrom_pred (Nat.le_of_lt hlen)]
    simpa [hdecl] using hscan
  · simp [hdecl]

/-- An owner is declared on a line that encloses the function. -/
theorem exists_enclosing_of_findOwner {d : Document} {limit : Limit} {a : Nat} {o : Owner}
    (found : findOwner d limit a = .ok (some o)) :
    declaresFunction d a = true ∧ ∃ h, Encloses d h a ∧ limit.exceeded (a - h) = false ∧
      ownerOnLine? (d.lineText h) = some o := by
  rw [findOwner] at found
  cases henc : enclosingLine d limit a with
  | error f => simp [henc, Except.map] at found
  | ok place =>
    cases place with
    | none => simp [henc, Except.map] at found
    | some p =>
      obtain ⟨line, h⟩ := p
      obtain ⟨hdecl, enc, rfl, hlim⟩ := enclosingLine_eq_some_iff.1 henc
      exact ⟨hdecl, h, enc, hlim, by simpa [henc, Except.map] using found⟩

theorem ownerOnLine?_eq_some_iff {line : Text} {o : Owner} :
    ownerOnLine? line = some o ↔
      o.kind.isImpl = true ∧ o.name ≠ [] ∧
        codeKind line = o.kind ∧ codeName line o.kind = o.name := by
  obtain ⟨kind, name⟩ := o
  simp only [ownerOnLine?]
  constructor
  · intro h
    split at h
    · next hcond =>
      cases h
      simpa using hcond
    · cases h
  · rintro ⟨himpl, hname, rfl, rfl⟩
    simp [himpl, hname]

/-- From the enclosing line on, the balance stays positive until the function starts. -/
theorem Encloses.net_pos {d : Document} {h a n : Nat} (enc : Encloses d h a) (hhn : h < n)
    (hna : n ≤ a) : 0 < net d h n := by
  have hsplit := net_append d (Nat.le_of_lt hhn) hna
  have hopen := enc.leaves_open
  rcases Nat.eq_or_lt_of_le hna with rfl | hlt
  · exact hopen
  · have hrest := enc.nearest n hhn hlt
    omega

/-- A function with a brace on its own line ends inside the block that encloses it. -/
theorem Encloses.closed {d : Document} {h a e : Nat} (enc : Encloses d h a)
    (braced : 0 < opens (d.lineText a)) (ends : ClosesOn d h e) : a ≤ e ∧ Closed d a e := by
  have hae : a ≤ e := ends.le_of_open fun m hhm hma hclosed => by
    have hpos := enc.net_pos (show h < m + 1 by omega) hma
    have hsettled := hclosed.settled
    omega
  refine ⟨hae, ⟨a, Nat.le_refl a, by omega, braced⟩, ?_⟩
  have hsplit := net_append d (Nat.le_of_lt enc.above) (show a ≤ e + 1 by omega)
  have hopen := enc.leaves_open
  have hsettled := ends.closed.settled
  omega

/-- **The owner's block contains the function**: whenever the forward scan finds the end of the
block that the backward scan names as the owner, it finds the end of the function too, at or before
the end of the block. The limit may be any. -/
theorem findOwner_block_contains_function {d : Document} {limit : Limit} {a : Nat} {o : Owner}
    (braced : 0 < opens (d.lineText a)) (found : findOwner d limit a = .ok (some o)) :
    ∃ h : Nat, h < a ∧ codeKind (d.lineText h) = o.kind ∧ codeName (d.lineText h) o.kind = o.name ∧
      ∀ (column : Int) (blockEnd : Position),
        findEnd d limit ⟨h, column⟩ o.kind = .ok blockEnd →
          ∃ functionEnd, findEnd d limit ⟨a, column⟩ .function = .ok functionEnd ∧
            (a : Int) ≤ functionEnd.line ∧ functionEnd.line ≤ blockEnd.line := by
  obtain ⟨hdecl, h, enc, -, howner⟩ := exists_enclosing_of_findOwner found
  obtain ⟨-, -, hkind, hname⟩ := ownerOnLine?_eq_some_iff.1 howner
  simp only [declaresFunction, Document.hasLine_natCast, Bool.and_eq_true, decide_eq_true_eq,
    beq_iff_eq] at hdecl
  refine ⟨h, enc.above, hkind, hname, fun column blockEnd hend => ?_⟩
  have hlen : h < d.length := Nat.lt_trans enc.above hdecl.1
  obtain ⟨-, e, ends, rfl, hlim⟩ := (findEnd_eq_ok_iff rfl hlen).1 hend
  obtain ⟨hae, hclosed⟩ := enc.closed braced ends
  have habove := enc.above
  have hstart : (⟨a, column⟩ : Position).line = a := rfl
  obtain ⟨n, han, hne, hn⟩ := exists_findEnd_of_closed hstart hae ends.lt_length hdecl.2 hclosed
    (Limit.not_exceeded_mono (by omega) hlim)
  exact ⟨_, hn, Int.ofNat_le.2 han, Int.ofNat_le.2 hne⟩

/-- A method with a comment above it and a closing brace that shares its line. -/
def sharedBraces : Document :=
  ["impl S \x7b", "  // \x7b", "  fn f() \x7b", "    if x \x7b", "  \x7d\x7d", "\x7d"]

theorem sharedBraces_block_contains_function :
    0 < opens (sharedBraces.lineText (2 : Nat)) ∧
    findOwner sharedBraces ⟨0⟩ (2 : Nat) = .ok (some ⟨.structImpl, "S"⟩) ∧
    findEnd sharedBraces ⟨0⟩ ⟨0, 0⟩ .structImpl = .ok ⟨5, 0⟩ ∧
    ∃ h : Nat, h < 2 ∧ codeKind (sharedBraces.lineText h) = .structImpl ∧
      codeName (sharedBraces.lineText h) .structImpl = "S" ∧
      ∀ (column : Int) (blockEnd : Position),
        findEnd sharedBraces ⟨0⟩ ⟨h, column⟩ .structImpl = .ok blockEnd →
          ∃ functionEnd, findEnd sharedBraces ⟨0⟩ ⟨(2 : Nat), column⟩ .function = .ok functionEnd ∧
            ((2 : Nat) : Int) ≤ functionEnd.line ∧ functionEnd.line ≤ blockEnd.line := by
  have braced : 0 < opens (sharedBraces.lineText (2 : Nat)) := by decide
  have found : findOwner sharedBraces ⟨0⟩ (2 : Nat) = .ok (some ⟨.structImpl, "S"⟩) := by
    decide +kernel
  exact ⟨braced, found, by decide, findOwner_block_contains_function braced found⟩

end DocScribe.Scan
