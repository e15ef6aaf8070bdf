import DocScribe.Proofs.Scan.Unlimited

/-!
# Moving a declaration

Lines without code are invisible to the scan for an owner (`enclosingAmong_filter`), and the scan
for an end sees only what follows the declaration (`endAmong_moved`). So with the limit disabled a
target moves as a whole when only lines without code are added or removed above its declaration:
`IsTarget.moved`.
-/

namespace DocScribe

/-- The range `k` lines farther down. -/
def Range.moved (range : Range) (k : Int) : Range :=
  ⟨⟨range.anchor.line + k, range.anchor.column⟩, ⟨range.last.line + k, range.last.column⟩⟩

@[simp] theorem Range.moved_anchor_line (range : Range) (k : Int) :
    (range.moved k).anchor.line = range.anchor.line + k := rfl

@[simp] theorem Range.moved_last_line (range : Range) (k : Int) :
    (range.moved k).last.line = range.last.line + k := rfl

namespace Scan

open Source

/-- The target `k` lines farther down. -/
def Target.moved (t : Target) (k : Int) : Target :=
  { t with extent := t.extent.moved k }

/-- The forward scan reports its lines relative to where it starts. -/
theorem endAmong_moved {limit : Limit} {kind : Kind} {start start' depth : Int} {examined : Nat}
    {opened : Bool} {lines : List Text} {pos : Position}
    (h : endAmong limit kind start examined depth opened lines = .ok pos) :
    endAmong limit kind start' examined depth opened lines =
      .ok ⟨pos.line + (start' - start), pos.column⟩ := by
  induction lines generalizing examined depth opened with
  | nil =>
    rw [endAmong] at h
    cases h
  | cons line below ih =>
    rw [endAmong] at h ⊢
    split at h
    · cases h
    · next hlim =>
      rw [if_neg hlim]
      dsimp only at h ⊢
      split at h
      · next hstop =>
        rw [if_pos hstop]
        cases h
        simp only [Except.ok.injEq, Position.mk.injEq, and_true]
        omega
      · next hstop =>
        rw [if_neg hstop]
        exact ih h

theorem Document.lt_length_of_drop_eq {d d' : Document} {n n' : Nat} (hn : n < d.length)
    (hdrop : d'.drop n' = d.drop n) : n' < d'.length := by
  by_contra hle
  have hlen := congrArg List.length hdrop
  rw [List.length_drop, List.length_drop] at hlen
  omega

theorem findEnd_moved {d d' : Document} {limit : Limit} {kind : Kind} {n n' : Nat} {pos : Position}
    (hn : n < d.length) (hdrop : d'.drop n' = d.drop n)
    (h : findEnd d limit ⟨n, 0⟩ kind = .ok pos) :
    findEnd d' limit ⟨n', 0⟩ kind = .ok ⟨pos.line + ((n' : Int) - n), pos.column⟩ := by
  have hn' := Document.lt_length_of_drop_eq hn hdrop
  rw [Document.drop_eq_lineText_cons hn, Document.drop_eq_lineText_cons hn'] at hdrop
  rw [findEnd, Document.downFrom_natCast hn] at h
  rw [findEnd, Document.downFrom_natCast hn', hdrop]
  dsimp only at h ⊢
  split at h
  · next hkind =>
    rw [if_pos hkind]
    exact endAmong_moved h
  · cases h

section Disabled

variable {limit : Limit} (off : limit.lines ≤ 0)
include off

/-- Lines without code do not matter to the scan for an owner. -/
theorem enclosingAmong_filter (anchor anchor' : Int) (examined examined' : Nat) {depth : Int}
    (hdepth : 0 < depth) (lines : List Text) :
    (enclosingAmong limit anchor examined depth lines).map (Option.map Prod.fst) =
      (enclosingAmong limit anchor' examined' depth (lines.filter hasCode)).map
        (Option.map Prod.fst) := by
  induction lines generalizing examined examined' depth with
  | nil => rfl
  | cons line above ih =>
    rw [enclosingAmong_cons_of_off off]
    cases hcode : hasCode line with
    | false =>
      -- The depth stays positive, so the scan goes on to the next line.
      rw [balance_of_not_hasCode hcode, Int.sub_zero, if_neg (Int.not_le.2 hdepth),
        List.filter_cons_of_neg (by simp [hcode])]
      exact ih (examined + 1) examined' hdepth
    | true =>
      rw [List.filter_cons_of_pos hcode, enclosingAmong_cons_of_off off]
      by_cases hstop : depth - balance line ≤ 0
      · rw [if_pos hstop, if_pos hstop]
        rfl
      · rw [if_neg hstop, if_neg hstop]
        exact ih (examined + 1) (examined' + 1) (Int.not_le.1 hstop)

/-- The owner of a function depends on its own line and the code above it only. -/
theorem findOwner_of_code_eq {d d' : Document} {n n' : Nat} (hn : n < d.length)
    (hn' : n' < d'.length) (hline : d'.lineText n' = d.lineText n)
    (habove : (d'.take n').filter hasCode = (d.take n).filter hasCode) :
    findOwner d' limit n' = findOwner d limit n := by
  have hscan : (enclosingAmong limit n' 1 1 (d'.take n').reverse).map (Option.map Prod.fst) =
      (enclosingAmong limit n 1 1 (d.take n).reverse).map (Option.map Prod.fst) := by
    have hcode : (d'.take n').reverse.filter hasCode = (d.take n).reverse.filter hasCode := by
      rw [List.filter_reverse, List.filter_reverse, habove]
    rw [enclosingAmong_filter off n' n 1 1 Int.one_pos, hcode,
      ← enclosingAmong_filter off n n 1 1 Int.one_pos]
  have hdecl : declaresFunction d' n' = declaresFunction d n := by
    rw [declaresFunction, declaresFunction, Document.hasLine_natCast, Document.hasLine_natCast,
      decide_eq_true hn, decide_eq_true hn', hline]
  have howner : ∀ x : Except Failure (Option (Text × Nat)),
      (x.map fun found => found.bind fun p => ownerOnLine? p.1) =
        (x.map (Option.map Prod.fst)).map fun line => line.bind ownerOnLine? := by
    rintro (_ | _ | _) <;> rfl
  rw [findOwner, findOwner, enclosingLine, enclosingLine, hdecl,
    Document.upFrom_pred (Nat.le_of_lt hn), Document.upFrom_pred (Nat.le_of_lt hn')]
  split
  · rw [howner, howner, hscan]
  · rfl

/-- A target moves with its declaration when the code above it and all that follows stay. -/
theorem IsTarget.moved {d d' : Document} {n n' : Nat} {t : Target} (target : IsTarget d limit n t)
    (hdrop : d'.drop n' = d.drop n)
    (habove : (d'.take n').filter hasCode = (d.take n).filter hasCode) :
    IsTarget d' limit n' (t.moved ((n' : Int) - n)) := by
  have hn := target.lt_length
  have hn' := Document.lt_length_of_drop_eq hn hdrop
  have hline : d'.lineText n' = d.lineText n := by
    rw [Document.drop_eq_lineText_cons hn, Document.drop_eq_lineText_cons hn'] at hdrop
    exact (List.cons.inj hdrop).1
  have hmoved : (n : Int) + (n' - n) = n' := by omega
  refine ⟨⟨hn', ?_, ?_, ?_, target.named, ?_, findEnd_moved hn hdrop target.last⟩, target.kind, ?_⟩
  · rw [Target.moved, Range.moved, target.anchor, hmoved]
  · rw [hline]
    exact target.declares
  · rw [hline]
    exact target.name
  · rw [hline]
    exact target.indent
  · rw [findOwner_of_code_eq off hn hn' hline habove]
    exact target.owner

end Disabled

end Scan

end DocScribe
