import DocScribe.Proofs.Source.Document
import DocScribe.Scan.Boundary
import Mathlib.Algebra.BigOperators.Intervals

/-!
# Where a construct starts and ends

The upward scan succeeds iff the nearest declaration is of the kind asked for (`NearestDeclares`,
`findStart_eq_ok_iff`). `net d i j` is the brace balance of lines `i` to `j - 1`. A construct that
starts on line `s` is `Closed` on line `e` once a brace has been opened and the balance from `s` to
`e` is no longer positive; `findEnd_eq_ok_iff` says that the forward scan stops on the least such
line, and only if the limit lets it get there.
-/

namespace DocScribe.Scan

open Source

instance decidableEqOk {ε α : Type} [DecidableEq α] (x : Except ε α) (a : α) :
    Decidable (x = .ok a) :=
  match x with
  | .ok b => decidable_of_iff (b = a) (by simp)
  | .error _ => isFalse (by simp)

theorem Limit.exceeded_iff {limit : Limit} {n : Nat} :
    limit.exceeded n = true ↔ 0 < limit.lines ∧ limit.lines < n := by
  simp [Limit.exceeded]

theorem Limit.not_exceeded_iff {limit : Limit} {n : Nat} :
    limit.exceeded n = false ↔ (0 < limit.lines → (n : Int) ≤ limit.lines) := by
  simp [Limit.exceeded, imp_iff_not_or]

theorem Limit.exceeded_mono {limit : Limit} {m n : Nat} (hmn : m ≤ n)
    (h : limit.exceeded m = true) : limit.exceeded n = true := by
  rw [Limit.exceeded_iff] at h ⊢
  omega

theorem Limit.not_exceeded_mono {limit : Limit} {m n : Nat} (hmn : m ≤ n)
    (h : limit.exceeded n = false) : limit.exceeded m = false := by
  rw [Limit.not_exceeded_iff] at h ⊢
  omega

theorem Limit.not_exceeded_of_off {limit : Limit} (off : limit.lines ≤ 0) (n : Nat) :
    limit.exceeded n = false := by
  rw [Limit.not_exceeded_iff]
  omega

/-- Line `l` is the nearest line at or above line `c` that declares something, and it declares a
construct of the kind. -/
structure NearestDeclares (d : Document) (c l : Nat) (kind : Kind) : Prop where
  le_cursor : l ≤ c
  declares : codeKind (d.lineText l) = kind
  nearest : ∀ m, l < m → m ≤ c → codeKind (d.lineText m) = .unknown

theorem NearestDeclares.lt_of_passed {d : Document} {c l n : Nat} {kind : Kind}
    (near : NearestDeclares d c l kind) (hkind : kind ≠ .unknown)
    (passed : ∀ m, n ≤ m → m ≤ c → codeKind (d.lineText m) = .unknown) : l < n := by
  by_contra hle
  exact hkind (near.declares.symm.trans (passed l (by omega) near.le_cursor))

/-- One line of the upward scan. -/
theorem startAmong_step {d : Document} {n : Nat} (hn : n < d.length) (limit : Limit) (kind : Kind)
    (cursor : Int) (examined : Nat) :
    startAmong limit kind cursor examined (d.take (n + 1)).reverse =
      if limit.exceeded examined then .error (.startLimit kind cursor)
      else if codeKind (d.lineText n) = kind then .ok n
      else if codeKind (d.lineText n) = .unknown then
        startAmong limit kind cursor (examined + 1) (d.take n).reverse
      else .error (.blocked kind (codeKind (d.lineText n)) n) := by
  rw [Document.reverse_take_succ hn, startAmong]
  simp only [Document.length_reverse_take (Nat.le_of_lt hn), beq_iff_eq]

/-- The upward scan from line `n - 1` on, when no line from `n` to `c` declares anything. -/
theorem startAmong_eq_ok_iff {d : Document} (limit : Limit) {kind : Kind} (hkind : kind ≠ .unknown)
    (cursor : Int) {c : Nat} (l : Nat) (hc : c < d.length) (n : Nat) (hn : n ≤ c + 1)
    (passed : ∀ m, n ≤ m → m ≤ c → codeKind (d.lineText m) = .unknown) :
    startAmong limit kind cursor (c + 1 - n + 1) (d.take n).reverse = .ok l ↔
      NearestDeclares d c l kind ∧ limit.exceeded (c - l + 1) = false := by
  induction n with
  | zero =>
    rw [List.take_zero, List.reverse_nil, startAmong]
    constructor
    · intro h
      cases h
    · rintro ⟨near, -⟩
      exact absurd (near.lt_of_passed hkind passed) (Nat.not_lt_zero l)
  | succ n ih =>
    rw [startAmong_step (by omega), show c + 1 - (n + 1) + 1 = c - n + 1 by omega]
    by_cases hlim : limit.exceeded (c - n + 1) = true
    · rw [if_pos hlim]
      constructor
      · intro h
        cases h
      · rintro ⟨near, hle⟩
        have hlt := near.lt_of_passed hkind passed
        rw [Limit.exceeded_mono (by omega) hlim] at hle
        cases hle
    rw [if_neg hlim]
    by_cases hfound : codeKind (d.lineText n) = kind
    · rw [if_pos hfound]
      constructor
      · intro h
        cases h
        refine ⟨⟨by omega, hfound, fun m hnm hmc => passed m hnm hmc⟩, by simpa using hlim⟩
      · rintro ⟨near, -⟩
        have hlt := near.lt_of_passed hkind passed
        have hln : ¬ l < n := fun h => hkind (hfound.symm.trans (near.nearest n h (by omega)))
        rw [show l = n by omega]
    · rw [if_neg hfound]
      by_cases hunknown : codeKind (d.lineText n) = .unknown
      · rw [if_pos hunknown, show c - n + 1 + 1 = c + 1 - n + 1 by omega]
        refine ih (by omega) fun m hnm hmc => ?_
        rcases Nat.eq_or_lt_of_le hnm with rfl | hlt
        · exact hunknown
        · exact passed m hlt hmc
      · rw [if_neg hunknown]
        constructor
        · intro h
          cases h
        · rintro ⟨near, -⟩
          rcases Nat.lt_succ_iff_lt_or_eq.1 (near.lt_of_passed hkind passed) with hlt | rfl
          · exact absurd (near.nearest n hlt (by omega)) hunknown
          · exact absurd near.declares hfound

/-- The upward scan succeeds exactly on the nearest declaration. -/
theorem findStart_eq_ok_iff {d : Document} {limit : Limit} {kind : Kind} {cursor pos : Position}
    {c : Nat} (hcursor : cursor.line = c) (hc : c < d.length) :
    findStart d limit cursor kind = .ok pos ↔
      kind ≠ .unknown ∧ ∃ l, NearestDeclares d c l kind ∧ pos = ⟨l, 0⟩ ∧
        limit.exceeded (c - l + 1) = false := by
  rw [findStart]
  by_cases hkind : kind = .unknown
  · simp [hkind]
  · have hscan := fun l =>
      startAmong_eq_ok_iff limit hkind c l hc (c + 1) (Nat.le_refl _) (by omega)
    simp only [Nat.sub_self, Nat.zero_add] at hscan
    rw [if_neg (fun h => hkind (beq_iff_eq.1 h)), hcursor, Document.upFrom_natCast hc]
    constructor
    · intro h
      cases hstart : startAmong limit kind c 1 (d.take (c + 1)).reverse with
      | error f =>
        rw [hstart] at h
        cases h
      | ok l =>
        rw [hstart] at h
        cases h
        obtain ⟨near, hlim⟩ := (hscan l).1 hstart
        exact ⟨hkind, l, near, rfl, hlim⟩
    · rintro ⟨-, l, near, rfl, hlim⟩
      rw [(hscan l).2 ⟨near, hlim⟩]
      rfl

/-- A search that succeeds started inside the document. -/
theorem hasLine_of_findStart {d : Document} {limit : Limit} {kind : Kind} {cursor pos : Position}
    (h : findStart d limit cursor kind = .ok pos) : d.hasLine cursor.line = true := by
  by_contra hline
  rw [findStart, Document.upFrom, if_neg hline, startAmong] at h
  split at h <;> cases h

/-- A search that succeeds names column 0 of a line of the document. -/
theorem exists_line_of_findStart {d : Document} {limit : Limit} {kind : Kind}
    {cursor pos : Position} (h : findStart d limit cursor kind = .ok pos) :
    ∃ n : Nat, n < d.length ∧ pos = ⟨n, 0⟩ := by
  obtain ⟨c, hcursor, hc⟩ := Document.exists_of_hasLine (hasLine_of_findStart h)
  obtain ⟨-, n, near, rfl, -⟩ := (findStart_eq_ok_iff hcursor hc).1 h
  exact ⟨n, Nat.lt_of_le_of_lt near.le_cursor hc, rfl⟩

/-- Opening less closing braces of the code on lines `i` to `j - 1`. -/
def net (d : Document) (i j : Nat) : Int :=
  ∑ n ∈ Finset.Ico i j, balance (d.lineText n)

theorem net_self (d : Document) (i : Nat) : net d i i = 0 := by
  simp [net]

theorem net_append (d : Document) {i j k : Nat} (hij : i ≤ j) (hjk : j ≤ k) :
    net d i j + net d j k = net d i k :=
  Finset.sum_Ico_consecutive _ hij hjk

theorem net_succ (d : Document) {i j : Nat} (hij : i ≤ j) :
    net d i (j + 1) = net d i j + balance (d.lineText j) :=
  Finset.sum_Ico_succ_top hij _

theorem net_eq_balance_add (d : Document) {i j : Nat} (hij : i < j) :
    net d i j = balance (d.lineText i) + net d (i + 1) j :=
  Finset.sum_eq_sum_Ico_succ_bot hij _

/-- A line from `s` to `n - 1` opens a brace. -/
def Opened (d : Document) (s n : Nat) : Prop :=
  ∃ m, s ≤ m ∧ m < n ∧ 0 < opens (d.lineText m)

theorem opened_succ {d : Document} {s n : Nat} (hs : s ≤ n) :
    Opened d s (n + 1) ↔ Opened d s n ∨ 0 < opens (d.lineText n) := by
  constructor
  · rintro ⟨m, hsm, hm, ho⟩
    rcases Nat.lt_or_ge m n with hlt | hge
    · exact .inl ⟨m, hsm, hlt, ho⟩
    · rw [show m = n by omega] at ho
      exact .inr ho
  · rintro (⟨m, hsm, hm, ho⟩ | ho)
    · exact ⟨m, hsm, by omega, ho⟩
    · exact ⟨n, hs, by omega, ho⟩

instance (d : Document) (s n : Nat) : Decidable (Opened d s n) :=
  decidable_of_iff (∃ m, m < n ∧ s ≤ m ∧ 0 < opens (d.lineText m))
    ⟨fun ⟨m, hm, hsm, ho⟩ => ⟨m, hsm, hm, ho⟩, fun ⟨m, hsm, hm, ho⟩ => ⟨m, hm, hsm, ho⟩⟩

/-- The construct that starts on line `s` has been opened by the end of line `e`, and no brace of
it is left open there. -/
structure Closed (d : Document) (s e : Nat) : Prop where
  opened : Opened d s (e + 1)
  settled : net d s (e + 1) ≤ 0

instance (d : Document) (s e : Nat) : Decidable (Closed d s e) :=
  decidable_of_iff (Opened d s (e + 1) ∧ net d s (e + 1) ≤ 0)
    ⟨fun ⟨opened, settled⟩ => ⟨opened, settled⟩, fun ⟨opened, settled⟩ => ⟨opened, settled⟩⟩

/-- Line `e` is the first one on which the construct that starts on line `s` is closed. -/
structure ClosesOn (d : Document) (s e : Nat) : Prop where
  start_le : s ≤ e
  lt_length : e < d.length
  closed : Closed d s e
  first : ∀ m, s ≤ m → m < e → ¬ Closed d s m

/-- A construct that is open up to line `n` is not closed before. -/
theorem ClosesOn.le_of_open {d : Document} {s e n : Nat} (ends : ClosesOn d s e)
    (hopen : ∀ m, s ≤ m → m < n → ¬ Closed d s m) : n ≤ e :=
  Nat.le_of_not_lt fun hlt => hopen e ends.start_le hlt ends.closed

/-- One line of the forward scan, whose counters stand for the lines from `s` to `n - 1`. -/
theorem endAmong_step {d : Document} {limit : Limit} {kind : Kind} {s n : Nat} {opened : Bool}
    (hs : s ≤ n) (hn : n < d.length) (hopened : opened = true ↔ Opened d s n) :
    endAmong limit kind s (n - s + 1) (net d s n) opened (d.drop n) =
      if limit.exceeded (n - s + 1) then .error (.endLimit kind s)
      else if Closed d s n then .ok ⟨n, lastColumn (d.lineText n)⟩
      else endAmong limit kind s (n + 1 - s + 1) (net d s (n + 1))
        (decide (Opened d s (n + 1))) (d.drop (n + 1)) := by
  have hop : (opened || decide (0 < opens (d.lineText n))) = decide (Opened d s (n + 1)) := by
    rw [Bool.eq_iff_iff, Bool.or_eq_true, hopened, decide_eq_true_eq, decide_eq_true_eq,
      opened_succ hs]
  have hstop : (decide (Opened d s (n + 1)) && decide (net d s (n + 1) ≤ 0)) = true ↔
      Closed d s n := by
    rw [Bool.and_eq_true, decide_eq_true_eq, decide_eq_true_eq]
    exact ⟨fun h => ⟨h.1, h.2⟩, fun h => ⟨h.opened, h.settled⟩⟩
  have hline : (s : Int) + (n - s + 1 - 1 : Nat) = n := by omega
  rw [Document.drop_eq_lineText_cons hn, endAmong]
  simp only [← net_succ d hs, hop, hstop, hline, show n - s + 1 + 1 = n + 1 - s + 1 by omega]

/-- The forward scan from line `n` on, when nothing from `s` to `n - 1` closed the construct. -/
theorem endAmong_eq_ok_iff {d : Document} (limit : Limit) (kind : Kind) (pos : Position) {s : Nat}
    (n : Nat) (opened : Bool) (hs : s ≤ n) (hn : n ≤ d.length)
    (hopened : opened = true ↔ Opened d s n) (hopen : ∀ m, s ≤ m → m < n → ¬ Closed d s m) :
    endAmong limit kind s (n - s + 1) (net d s n) opened (d.drop n) = .ok pos ↔
      ∃ e, ClosesOn d s e ∧ pos = ⟨e, lastColumn (d.lineText e)⟩ ∧
        limit.exceeded (e - s + 1) = false := by
  induction hk : d.length - n generalizing n opened with
  | zero =>
    rw [List.drop_eq_nil_of_le (by omega), endAmong]
    constructor
    · intro h
      cases h
    · rintro ⟨e, ends, -⟩
      have hle := ends.le_of_open hopen
      have hlt := ends.lt_length
      omega
  | succ k ih =>
    rw [endAmong_step hs (by omega) hopened]
    by_cases hlim : limit.exceeded (n - s + 1) = true
    · -- An end farther down would be beyond the limit too.
      rw [if_pos hlim]
      constructor
      · intro h
        cases h
      · rintro ⟨e, ends, -, hle⟩
        have hne := ends.le_of_open hopen
        rw [Limit.exceeded_mono (by omega) hlim] at hle
        cases hle
    rw [if_neg hlim]
    by_cases hclosed : Closed d s n
    · rw [if_pos hclosed]
      constructor
      · intro h
        cases h
        exact ⟨n, ⟨hs, by omega, hclosed, hopen⟩, rfl, by simpa using hlim⟩
      · rintro ⟨e, ends, rfl, -⟩
        have hen : ¬ n < e := fun hlt => ends.first n hs hlt hclosed
        rw [Nat.le_antisymm (Nat.le_of_not_lt hen) (ends.le_of_open hopen)]
    · rw [if_neg hclosed]
      refine ih (n + 1) _ (by omega) (by omega) decide_eq_true_iff ?_ (by omega)
      intro m hsm hm
      rcases Nat.lt_succ_iff_lt_or_eq.1 hm with hlt | rfl
      · exact hopen m hsm hlt
      · exact hclosed

/-- The forward scan succeeds exactly on the first line that closes the construct. -/
theorem findEnd_eq_ok_iff {d : Document} {limit : Limit} {kind : Kind} {start pos : Position}
    {s : Nat} (hstart : start.line = s) (hs : s < d.length) :
    findEnd d limit start kind = .ok pos ↔
      codeKind (d.lineText s) = kind ∧ ∃ e, ClosesOn d s e ∧
        pos = ⟨e, lastColumn (d.lineText e)⟩ ∧ limit.exceeded (e - s + 1) = false := by
  have hscan := endAmong_eq_ok_iff (d := d) limit kind pos s false (Nat.le_refl s)
    (Nat.le_of_lt hs) (by simp [Opened]; omega) (by omega)
  rw [net_self, Nat.sub_self, Document.drop_eq_lineText_cons hs] at hscan
  rw [findEnd, hstart, Document.downFrom_natCast hs]
  by_cases hkind : codeKind (d.lineText s) = kind
  · simp [hkind, hscan]
  · simp [hkind]

/-- A construct that is closed somewhere within the limit has an end, no later than there. -/
theorem exists_findEnd_of_closed {d : Document} {limit : Limit} {kind : Kind} {start : Position}
    {s e : Nat} (hstart : start.line = s) (hse : s ≤ e) (he : e < d.length)
    (hkind : codeKind (d.lineText s) = kind) (hclosed : Closed d s e)
    (hlim : limit.exceeded (e - s + 1) = false) :
    ∃ n : Nat, s ≤ n ∧ n ≤ e ∧
      findEnd d limit start kind = .ok ⟨n, lastColumn (d.lineText n)⟩ := by
  classical
  have hex : ∃ m, s ≤ m ∧ Closed d s m := ⟨e, hse, hclosed⟩
  obtain ⟨hsn, hn⟩ := Nat.find_spec hex
  have hne : Nat.find hex ≤ e := Nat.find_min' hex ⟨hse, hclosed⟩
  refine ⟨Nat.find hex, hsn, hne, (findEnd_eq_ok_iff hstart (by omega)).2 ⟨hkind, _, ?_, rfl, ?_⟩⟩
  · exact ⟨hsn, by omega, hn, fun m hsm hm hc => Nat.find_min hex hm ⟨hsm, hc⟩⟩
  · exact Limit.not_exceeded_mono (by omega) hlim

end DocScribe.Scan
