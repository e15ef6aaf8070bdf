import DocScribe.Proofs.Scan.Naming
import DocScribe.Proofs.Scan.Selection

/-!
# How a scan ends

A scan ends with an answer, or cut short by the limit, or without having found anything. For the
forward scan (`endSearch`) and the upward scan (`startSearch`) this module says which of these
happens, on every document, from every line and under every limit (`EndsIn`). The limit cuts a run
short iff there are more lines to look at than it allows and none of those that it allows ends the
run (`endAmong_cut_iff`, `startAmong_cut_iff`).
-/

namespace DocScribe.Scan

open Source

/-- The search answers with what is `found`, is cut short by the limit iff `cut`, and in every other
case finds nothing. -/
structure EndsIn {α : Type} (x : Except Failure α) (found : α → Prop) (cut : Prop) : Prop where
  answer_iff : ∀ a, x = .ok a ↔ found a
  cut_iff : FailsWith .limitExceeded x ↔ cut
  nothing_iff : FailsWith .notFound x ↔ (∀ a, ¬ found a) ∧ ¬ cut

theorem failsWith_error_iff {α : Type} {reason : Reason} {failure : Failure} :
    FailsWith reason (.error failure : Except Failure α) ↔ failure.reason = reason := by
  simp [FailsWith]

theorem not_failsWith_ok {α : Type} {reason : Reason} {a : α} :
    ¬ FailsWith reason (.ok a : Except Failure α) := by
  simp [FailsWith]

/-- A search that never meets a declaration without a name ends in one of three ways. -/
theorem EndsIn.of_not_unresolvable {α : Type} {x : Except Failure α} {found : α → Prop}
    {cut : Prop} (named : ¬ FailsWith .unresolvable x) (answer_iff : ∀ a, x = .ok a ↔ found a)
    (cut_iff : FailsWith .limitExceeded x ↔ cut) : EndsIn x found cut := by
  refine ⟨answer_iff, cut_iff, ?_⟩
  rw [← cut_iff]
  simp only [← answer_iff]
  cases x with
  | ok a => simp [FailsWith]
  | error failure =>
    rw [failsWith_error_iff] at named
    simp only [failsWith_error_iff, reduceCtorEq, not_false_eq_true, implies_true, true_and]
    cases h : failure.reason with
    | notFound => simp
    | unresolvable => exact absurd h named
    | limitExceeded => simp

/-- A search that finds nothing, where there is nothing to be found and nothing cuts it short. -/
theorem EndsIn.of_nothing {α : Type} {x : Except Failure α} {found : α → Prop} {cut : Prop}
    (nothing : FailsWith .notFound x) (none : ∀ a, ¬ found a) (uncut : ¬ cut) :
    EndsIn x found cut := by
  obtain ⟨failure, rfl, hreason⟩ := nothing
  refine ⟨fun a => ?_, ?_, ?_⟩
  · simp [none a]
  · simp [failsWith_error_iff, hreason, uncut]
  · simp [failsWith_error_iff, hreason, none, uncut]

/-- A search from a line, which finds nothing from a line beyond the document. -/
theorem EndsIn.of_line {α : Type} {d : Document} {line : Int} {x : Except Failure α}
    {found : Nat → α → Prop} {cut : Nat → Prop} (named : ¬ FailsWith .unresolvable x)
    (beyond : ¬ d.hasLine line = true → FailsWith .notFound x)
    (answer_iff : ∀ s : Nat, line = s → s < d.length → ∀ a, x = .ok a ↔ found s a)
    (cut_iff : ∀ s : Nat, line = s → s < d.length → (FailsWith .limitExceeded x ↔ cut s))
    (found_lt : ∀ s a, found s a → s < d.length) (cut_lt : ∀ s, cut s → s < d.length) :
    EndsIn x (fun a => ∃ s : Nat, line = s ∧ found s a) (∃ s : Nat, line = s ∧ cut s) := by
  by_cases hline : d.hasLine line = true
  · obtain ⟨s, rfl, hs⟩ := Document.exists_of_hasLine hline
    apply EndsIn.of_not_unresolvable named
    · intro a
      simp only [answer_iff s rfl hs, Int.natCast_inj, exists_eq_left']
    · simp only [cut_iff s rfl hs, Int.natCast_inj, exists_eq_left']
  · apply EndsIn.of_nothing (beyond hline)
    · rintro a ⟨s, hstart, hfound⟩
      exact Document.not_lt_of_not_hasLine hline hstart (found_lt s a hfound)
    · rintro ⟨s, hstart, hcut⟩
      exact Document.not_lt_of_not_hasLine hline hstart (cut_lt s hcut)

/-! ## The forward scan -/

/-- The construct of the kind that starts on line `s` ends on line `e`, and the limit lets the scan
get there. -/
structure Ends (d : Document) (limit : Limit) (kind : Kind) (s e : Nat) : Prop where
  declares : codeKind (d.lineText s) = kind
  closes : ClosesOn d s e
  in_reach : 0 < limit.lines → (e : Int) - s < limit.lines

/-- The limit stops the scan for the end of the construct of the kind on line `s`: there are lines
left, and none of those that it allows is the end. -/
structure EndOutOfReach (d : Document) (limit : Limit) (kind : Kind) (s : Nat) : Prop where
  declares : codeKind (d.lineText s) = kind
  limited : 0 < limit.lines
  more_below : s + limit.lines < d.length
  unended : ∀ e, ¬ Ends d limit kind s e

section Forward

variable {d : Document} {limit : Limit} {kind : Kind} {start : Position} {s e : Nat}

/-- The forward scan from line `n` on, when nothing from `s` to `n - 1` closed the construct. -/
theorem endAmong_cut_iff (limit : Limit) (kind : Kind) (n : Nat) (opened : Bool) (hs : s ≤ n)
    (hn : n ≤ d.length) (hopened : opened = true ↔ Opened d s n)
    (hopen : ∀ m, s ≤ m → m < n → ¬ Closed d s m) (allowed : limit.exceeded (n - s) = false) :
    FailsWith .limitExceeded
        (endAmong limit kind s (n - s + 1) (net d s n) opened (d.drop n)) ↔
      limit.exceeded (d.length - s) = true ∧
        ∀ e, ClosesOn d s e → limit.exceeded (e - s + 1) = true := by
  induction hk : d.length - n generalizing n opened with
  | zero =>
    rw [List.drop_eq_nil_of_le (by omega), endAmong, failsWith_error_iff]
    constructor
    · intro h
      cases h
    · rintro ⟨hcut, -⟩
      rw [show d.length = n by omega, allowed] at hcut
      cases hcut
  | succ k ih =>
    rw [endAmong_step hs (by omega) hopened]
    by_cases hlim : limit.exceeded (n - s + 1) = true
    · rw [if_pos hlim, failsWith_error_iff]
      refine ⟨fun _ => ⟨Limit.exceeded_mono (by omega) hlim, fun e ends => ?_⟩, fun _ => rfl⟩
      have hne := ends.le_of_open hopen
      exact Limit.exceeded_mono (by omega) hlim
    rw [if_neg hlim]
    by_cases hclosed : Closed d s n
    · rw [if_pos hclosed]
      constructor
      · intro h
        exact absurd h not_failsWith_ok
      · rintro ⟨-, hends⟩
        exact absurd (hends n ⟨hs, by omega, hclosed, hopen⟩) hlim
    · rw [if_neg hclosed]
      apply ih (n + 1) _ (by omega) (by omega) decide_eq_true_iff
      · intro m hsm hm
        rcases Nat.lt_succ_iff_lt_or_eq.1 hm with hlt | rfl
        · exact hopen m hsm hlt
        · exact hclosed
      · rw [show n + 1 - s = n - s + 1 by omega]
        simpa using hlim
      · omega

theorem ends_iff :
    Ends d limit kind s e ↔
      codeKind (d.lineText s) = kind ∧ ClosesOn d s e ∧ limit.exceeded (e - s + 1) = false := by
  rw [Limit.not_exceeded_iff]
  constructor
  · rintro ⟨declares, closes, in_reach⟩
    have hse := closes.start_le
    exact ⟨declares, closes, by omega⟩
  · rintro ⟨declares, closes, in_reach⟩
    have hse := closes.start_le
    exact ⟨declares, closes, by omega⟩

theorem endOutOfReach_iff :
    EndOutOfReach d limit kind s ↔
      codeKind (d.lineText s) = kind ∧ limit.exceeded (d.length - s) = true ∧
        ∀ e, ClosesOn d s e → limit.exceeded (e - s + 1) = true := by
  constructor
  · rintro ⟨declares, limited, more_below, unended⟩
    refine ⟨declares, Limit.exceeded_iff.2 ⟨limited, by omega⟩, fun e closes => ?_⟩
    by_contra hlim
    exact unended e (ends_iff.2 ⟨declares, closes, by simpa using hlim⟩)
  · rintro ⟨declares, more_below, unended⟩
    obtain ⟨limited, more_below⟩ := Limit.exceeded_iff.1 more_below
    refine ⟨declares, limited, by omega, fun e ends => ?_⟩
    obtain ⟨-, closes, hlim⟩ := ends_iff.1 ends
    rw [unended e closes] at hlim
    cases hlim

theorem findEnd_of_not_hasLine (hline : ¬ d.hasLine start.line = true) :
    FailsWith .notFound (findEnd d limit start kind) := by
  rw [findEnd, Document.downFrom, if_neg hline]
  exact ⟨_, rfl, rfl⟩

theorem findEnd_not_unresolvable : ¬ FailsWith .unresolvable (findEnd d limit start kind) :=
  not_unresolvable (fun within => findEnd_settles within d start kind)
    (fun off => findEnd_onlyNotFound off d start kind) limit

theorem findEnd_cut_iff (hstart : start.line = s) (hs : s < d.length) :
    FailsWith .limitExceeded (findEnd d limit start kind) ↔ EndOutOfReach d limit kind s := by
  have hscan := endAmong_cut_iff limit kind s false (Nat.le_refl s) (Nat.le_of_lt hs)
    (by simp [Opened]; omega) (by omega) (by rw [Limit.not_exceeded_iff]; omega)
  rw [net_self, Nat.sub_self, Document.drop_eq_lineText_cons hs] at hscan
  rw [endOutOfReach_iff, findEnd, hstart, Document.downFrom_natCast hs]
  by_cases hkind : codeKind (d.lineText s) = kind
  · simp [hkind, hscan]
  · simp [hkind, failsWith_error_iff, Failure.reason]

theorem findEnd_eq_ok_iff_ends (hstart : start.line = s) (hs : s < d.length) {pos : Position} :
    findEnd d limit start kind = .ok pos ↔
      ∃ e, Ends d limit kind s e ∧ pos = ⟨e, lastColumn (d.lineText e)⟩ := by
  rw [findEnd_eq_ok_iff hstart hs]
  constructor
  · rintro ⟨declares, e, closes, rfl, hlim⟩
    exact ⟨e, ends_iff.2 ⟨declares, closes, hlim⟩, rfl⟩
  · rintro ⟨e, ends, rfl⟩
    obtain ⟨declares, closes, hlim⟩ := ends_iff.1 ends
    exact ⟨declares, e, closes, rfl, hlim⟩

theorem Ends.lt_length (ends : Ends d limit kind s e) : s < d.length :=
  Nat.lt_of_le_of_lt ends.closes.start_le ends.closes.lt_length

theorem EndOutOfReach.lt_length (far : EndOutOfReach d limit kind s) : s < d.length := by
  have hlimit := far.limited
  have hmore := far.more_below
  omega

end Forward

/-- On a line of the document, the forward scan ends with an answer or is cut short as the
construct on that line demands; beyond the document it finds nothing. -/
theorem findEnd_endsIn (d : Document) (limit : Limit) (start : Position) (kind : Kind) :
    EndsIn (findEnd d limit start kind)
      (fun pos => ∃ s : Nat, start.line = s ∧
        ∃ e : Nat, Ends d limit kind s e ∧ pos = ⟨e, lastColumn (d.lineText e)⟩)
      (∃ s : Nat, start.line = s ∧ EndOutOfReach d limit kind s) := by
  apply EndsIn.of_line findEnd_not_unresolvable findEnd_of_not_hasLine
  · intro s hstart hs pos
    exact findEnd_eq_ok_iff_ends hstart hs
  · intro s hstart hs
    exact findEnd_cut_iff hstart hs
  · rintro s pos ⟨e, ends, -⟩
    exact ends.lt_length
  · intro s far
    exact far.lt_length

/-- How the search for the end of a construct of the kind ends. -/
structure EndSearch (d : Document) (limit : Limit) (start : Position) (kind : Kind) : Prop where
  ends : EndsIn (findEnd d limit start kind)
    (fun pos => ∃ s : Nat, start.line = s ∧
      ∃ e : Nat, Ends d limit kind s e ∧ pos = ⟨e, lastColumn (d.lineText e)⟩)
    (∃ s : Nat, start.line = s ∧ EndOutOfReach d limit kind s)
  /-- Where no construct of the kind is declared, nothing is found. -/
  undeclared : (∀ s : Nat, start.line = s → s < d.length → codeKind (d.lineText s) ≠ kind) →
    FailsWith .notFound (findEnd d limit start kind)

/-- **How the forward scan ends**: on the first line by which a brace of the construct has been
opened and none is left open, if the limit lets the scan get there; else it is cut short iff the
document has more lines than the limit allows. -/
theorem endSearch (d : Document) (limit : Limit) (start : Position) (kind : Kind) :
    EndSearch d limit start kind where
  ends := findEnd_endsIn d limit start kind
  undeclared other := by
    apply (findEnd_endsIn d limit start kind).nothing_iff.2
    constructor
    · rintro pos ⟨s, hstart, e, ends, -⟩
      exact other s hstart ends.lt_length ends.declares
    · rintro ⟨s, hstart, far⟩
      exact other s hstart far.lt_length far.declares

/-- A limit of as many lines as the document has does not cut the scan short; a line less does. -/
example :
    let d : Document := ["fn f() \x7b", "    g();"]
    findEnd d ⟨1⟩ ⟨0, 0⟩ .function = .error (.endLimit .function 0) ∧
      findEnd d ⟨2⟩ ⟨0, 0⟩ .function = .error (.unclosed .function 0 true) := by
  decide

/-! ## The upward scan -/

/-- The nearest declaration at or above line `c` is of the kind and stands on line `l`, and the
limit lets the scan get there. -/
structure Starts (d : Document) (limit : Limit) (kind : Kind) (c l : Nat) : Prop where
  declaring : kind ≠ .unknown
  lt_length : c < d.length
  near : NearestDeclares d c l kind
  in_reach : 0 < limit.lines → (c : Int) - l < limit.lines

/-- The limit stops the scan upward from line `c`: there are lines left, and none of those that it
allows declares anything. -/
structure StartOutOfReach (d : Document) (limit : Limit) (kind : Kind) (c : Nat) : Prop where
  declaring : kind ≠ .unknown
  lt_length : c < d.length
  limited : 0 < limit.lines
  more_above : limit.lines ≤ c
  undeclared : ∀ m : Nat, m ≤ c → (c : Int) - m < limit.lines → codeKind (d.lineText m) = .unknown

section Upward

variable {d : Document} {limit : Limit} {kind : Kind} {cursor : Position} {c l : Nat}

/-- The upward scan from line `n - 1` on, when no line from `n` to `c` declares anything. -/
theorem startAmong_cut_iff (limit : Limit) (hkind : kind ≠ .unknown) (cursor : Int)
    (hc : c < d.length) (n : Nat) (hn : n ≤ c + 1)
    (passed : ∀ m, n ≤ m → m ≤ c → codeKind (d.lineText m) = .unknown)
    (allowed : limit.exceeded (c + 1 - n) = false) :
    FailsWith .limitExceeded
        (startAmong limit kind cursor (c + 1 - n + 1) (d.take n).reverse) ↔
      limit.exceeded (c + 1) = true ∧
        ∀ m ≤ c, limit.exceeded (c - m + 1) = false → codeKind (d.lineText m) = .unknown := by
  induction n with
  | zero =>
    rw [List.take_zero, List.reverse_nil, startAmong, failsWith_error_iff]
    constructor
    · intro h
      cases h
    · rintro ⟨hcut, -⟩
      rw [Nat.sub_zero, hcut] at allowed
      cases allowed
  | succ n ih =>
    rw [startAmong_step (by omega), show c + 1 - (n + 1) + 1 = c - n + 1 by omega]
    by_cases hlim : limit.exceeded (c - n + 1) = true
    · rw [if_pos hlim, failsWith_error_iff]
      refine ⟨fun _ => ⟨Limit.exceeded_mono (by omega) hlim, fun m hmc hm => ?_⟩, fun _ => rfl⟩
      apply passed m _ hmc
      by_contra hmn
      rw [Limit.exceeded_mono (by omega) hlim] at hm
      cases hm
    rw [if_neg hlim]
    rw [Bool.not_eq_true] at hlim
    by_cases hunknown : codeKind (d.lineText n) = .unknown
    · rw [if_neg (by rw [hunknown]; exact hkind.symm), if_pos hunknown]
      rw [show c - n + 1 + 1 = c + 1 - n + 1 by omega]
      apply ih (by omega)
      · intro m hnm hmc
        rcases Nat.eq_or_lt_of_le hnm with rfl | hlt
        · exact hunknown
        · exact passed m hlt hmc
      · rwa [show c + 1 - n = c - n + 1 by omega]
    · -- A declaration ends the scan here, and it is one of the lines that the limit allows.
      constructor
      · intro h
        split at h
        · exact absurd h not_failsWith_ok
        · rw [failsWith_error_iff] at h
          cases h
      · rintro ⟨-, hall⟩
        exact absurd (hall n (by omega) hlim) hunknown

theorem starts_iff :
    Starts d limit kind c l ↔
      kind ≠ .unknown ∧ c < d.length ∧ NearestDeclares d c l kind ∧
        limit.exceeded (c - l + 1) = false := by
  rw [Limit.not_exceeded_iff]
  constructor
  · rintro ⟨declaring, hc, near, in_reach⟩
    have hlc := near.le_cursor
    exact ⟨declaring, hc, near, by omega⟩
  · rintro ⟨declaring, hc, near, in_reach⟩
    have hlc := near.le_cursor
    exact ⟨declaring, hc, near, by omega⟩

theorem startOutOfReach_iff :
    StartOutOfReach d limit kind c ↔
      kind ≠ .unknown ∧ c < d.length ∧ limit.exceeded (c + 1) = true ∧
        ∀ m ≤ c, limit.exceeded (c - m + 1) = false → codeKind (d.lineText m) = .unknown := by
  simp only [Limit.exceeded_iff, Limit.not_exceeded_iff]
  constructor
  · rintro ⟨declaring, hc, limited, more_above, undeclared⟩
    refine ⟨declaring, hc, ⟨limited, by omega⟩, fun m hmc hm => ?_⟩
    exact undeclared m hmc (by have hreach := hm limited; omega)
  · rintro ⟨declaring, hc, ⟨limited, more_above⟩, undeclared⟩
    refine ⟨declaring, hc, limited, by omega, fun m hmc hm => ?_⟩
    exact undeclared m hmc (fun _ => by omega)

theorem findStart_not_unresolvable : ¬ FailsWith .unresolvable (findStart d limit cursor kind) :=
  not_unresolvable (fun within => findStart_settles within d cursor kind)
    (fun off => findStart_onlyNotFound off d cursor kind) limit

theorem findStart_eq_ok_iff_starts (hcursor : cursor.line = c) (hc : c < d.length)
    {pos : Position} :
    findStart d limit cursor kind = .ok pos ↔
      ∃ l : Nat, Starts d limit kind c l ∧ pos = ⟨l, 0⟩ := by
  rw [findStart_eq_ok_iff hcursor hc]
  constructor
  · rintro ⟨declaring, l, near, rfl, hlim⟩
    exact ⟨l, starts_iff.2 ⟨declaring, hc, near, hlim⟩, rfl⟩
  · rintro ⟨l, starts, rfl⟩
    obtain ⟨declaring, -, near, hlim⟩ := starts_iff.1 starts
    exact ⟨declaring, l, near, rfl, hlim⟩

theorem failsWith_findStart_iff {reason : Reason} (hkind : kind ≠ .unknown) :
    FailsWith reason (findStart d limit cursor kind) ↔
      FailsWith reason (startAmong limit kind cursor.line 1 (d.upFrom cursor.line)) := by
  rw [findStart, if_neg (fun h => hkind (beq_iff_eq.1 h))]
  cases startAmong limit kind cursor.line 1 (d.upFrom cursor.line) with
  | error failure => simp [FailsWith, bind, Except.bind, Except.map]
  | ok n => simp [FailsWith, bind, Except.bind, Except.map, pure, Except.pure]

theorem findStart_cut_iff (hcursor : cursor.line = c) (hc : c < d.length) :
    FailsWith .limitExceeded (findStart d limit cursor kind) ↔ StartOutOfReach d limit kind c := by
  rw [startOutOfReach_iff]
  by_cases hkind : kind = .unknown
  · simp [hkind, findStart, failsWith_error_iff, Failure.reason]
  · have hscan := startAmong_cut_iff limit hkind c hc (c + 1) (Nat.le_refl _) (by omega)
      (by rw [Limit.not_exceeded_iff]; omega)
    rw [Nat.sub_self, Nat.zero_add] at hscan
    rw [failsWith_findStart_iff hkind, hcursor, Document.upFrom_natCast hc, hscan]
    simp [hkind, hc]

theorem findStart_of_not_hasLine (hline : ¬ d.hasLine cursor.line = true) :
    FailsWith .notFound (findStart d limit cursor kind) := by
  by_cases hkind : kind = .unknown
  · rw [hkind]
    exact ⟨_, rfl, rfl⟩
  · rw [failsWith_findStart_iff hkind, Document.upFrom, if_neg hline]
    exact ⟨_, rfl, rfl⟩

theorem findStart_endsIn (d : Document) (limit : Limit) (cursor : Position) (kind : Kind) :
    EndsIn (findStart d limit cursor kind)
      (fun pos => ∃ c : Nat, cursor.line = c ∧ ∃ l : Nat, Starts d limit kind c l ∧ pos = ⟨l, 0⟩)
      (∃ c : Nat, cursor.line = c ∧ StartOutOfReach d limit kind c) := by
  apply EndsIn.of_line findStart_not_unresolvable findStart_of_not_hasLine
  · intro c hcursor hc pos
    exact findStart_eq_ok_iff_starts hcursor hc
  · intro c hcursor hc
    exact findStart_cut_iff hcursor hc
  · rintro c pos ⟨l, starts, -⟩
    exact starts.lt_length
  · intro c far
    exact far.lt_length

/-- An extent is found again from every line between its first and the cursor. -/
theorem findExtent_of_inside {range : Range} (h : findExtent d limit cursor kind = .ok range)
    {inside : Position} (below : range.anchor.line ≤ inside.line)
    (above : inside.line ≤ cursor.line) : findExtent d limit inside kind = .ok range := by
  obtain ⟨anchor, last, hstart, hend, rfl⟩ := findExtent_eq_ok_iff.1 h
  have hanswer := (findStart_endsIn d limit cursor kind).answer_iff
  have hagain := (findStart_endsIn d limit inside kind).answer_iff
  obtain ⟨c, hcursor, l, starts, rfl⟩ := (hanswer anchor).1 hstart
  dsimp only at below
  obtain ⟨i, hinside⟩ : ∃ i : Nat, inside.line = i := ⟨inside.line.toNat, by omega⟩
  have again : Starts d limit kind i l := {
    declaring := starts.declaring
    lt_length := by have hc := starts.lt_length; omega
    near := ⟨by omega, starts.near.declares, fun m hlm hmi => starts.near.nearest m hlm (by omega)⟩
    in_reach := fun limited => by have hreach := starts.in_reach limited; omega }
  have hfound := (hagain ⟨l, 0⟩).2 ⟨i, hinside, l, again, rfl⟩
  exact findExtent_eq_ok_iff.2 ⟨_, last, hfound, hend, rfl⟩

end Upward

/-- How the searches from a cursor for a declaration of the kind end. -/
structure StartSearch (d : Document) (limit : Limit) (cursor : Position) (kind : Kind) :
    Prop where
  start : EndsIn (findStart d limit cursor kind)
    (fun pos => ∃ c : Nat, cursor.line = c ∧ ∃ l : Nat, Starts d limit kind c l ∧ pos = ⟨l, 0⟩)
    (∃ c : Nat, cursor.line = c ∧ StartOutOfReach d limit kind c)
  /-- The search for the nearest declaration whatever its kind agrees. -/
  scope : kind ≠ .unknown →
    (currentScope d limit cursor = kind ↔ ∃ pos, findStart d limit cursor kind = .ok pos)
  /-- The search succeeds for one kind at most. -/
  sole : ∀ other pos pos', findStart d limit cursor kind = .ok pos →
    findStart d limit cursor other = .ok pos' → other = kind
  /-- An extent is that of each of its lines down to the cursor. -/
  extent : ∀ range, findExtent d limit cursor kind = .ok range → ∀ inside : Position,
    range.anchor.line ≤ inside.line → inside.line ≤ cursor.line →
      findExtent d limit inside kind = .ok range

theorem ne_unknown_of_findStart {d : Document} {limit : Limit} {cursor pos : Position} {kind : Kind}
    (h : findStart d limit cursor kind = .ok pos) : kind ≠ .unknown := by
  obtain ⟨c, -, l, starts, -⟩ := ((findStart_endsIn d limit cursor kind).answer_iff pos).1 h
  exact starts.declaring

/-- **How the upward scan ends**: on the nearest line at or above the cursor that declares anything,
if it declares a construct of the kind and the limit lets the scan get there; else it is cut short
iff none of the lines that the limit allows declares anything and there is one more. -/
theorem startSearch (d : Document) (limit : Limit) (cursor : Position) (kind : Kind) :
    StartSearch d limit cursor kind where
  start := findStart_endsIn d limit cursor kind
  scope hkind := currentScope_eq_iff hkind
  sole other pos pos' h h' := by
    have hscope := (currentScope_eq_iff (ne_unknown_of_findStart h)).2 ⟨pos, h⟩
    have hother := (currentScope_eq_iff (ne_unknown_of_findStart h')).2 ⟨pos', h'⟩
    exact hother.symm.trans hscope
  extent _ h _ below above := findExtent_of_inside h below above

end DocScribe.Scan
