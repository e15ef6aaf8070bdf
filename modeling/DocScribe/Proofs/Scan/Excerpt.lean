import DocScribe.Proofs.Scan.Outcome
import DocScribe.Proofs.Scan.Relocation

/-!
# The lines of a construct by themselves

The forward scan reads the lines from a declaration down to the one that it ends on, and no others
(`exists_read_of_endAmong`). So the lines of an extent, cut out of their document, have the same
extent, moved to line 0: `findExtent_excerpt`.
-/

namespace DocScribe

/-- The lines `s` to `e`. -/
def Document.excerpt (d : Document) (s e : Nat) : Document :=
  (d.take (e + 1)).drop s

theorem Document.excerpt_subset (d : Document) (s e : Nat) : d.excerpt s e ⊆ d :=
  fun _ hline => List.mem_of_mem_take (List.mem_of_mem_drop hline)

section Ends

variable {d : Document} {s e : Nat} (hse : s ≤ e) (he : e < d.length)
include hse he

theorem Document.excerpt_eq_cons : d.excerpt s e = d.lineText s :: d.excerpt (s + 1) e := by
  rw [excerpt, excerpt, List.drop_take, List.drop_take,
    drop_eq_lineText_cons (Nat.lt_of_le_of_lt hse he), show e + 1 - s = (e - s) + 1 by omega,
    show e + 1 - (s + 1) = e - s by omega, List.take_succ_cons]

theorem Document.excerpt_eq_concat : d.excerpt s e = (d.take e).drop s ++ [d.lineText e] := by
  rw [excerpt, List.take_succ_eq_append_getElem he, lineText_of_lt he,
    List.drop_append_of_le_length]
  rw [List.length_take]
  omega

/-- A document around an excerpt. -/
theorem Document.take_append_excerpt :
    d.take s ++ (d.excerpt s e ++ d.drop (e + 1)) = d := by
  have hle : s ≤ (d.take (e + 1)).length := by
    rw [List.length_take]
    omega
  rw [excerpt, ← List.drop_append_of_le_length hle, List.take_append_drop, List.take_append_drop]

end Ends

namespace Scan

open Source

/-- The forward scan reads the lines down to the one that it ends on, whatever follows them. -/
theorem exists_read_of_endAmong {limit : Limit} {kind : Kind} {start depth : Int} {examined : Nat}
    {opened : Bool} {lines : List Text} {pos : Position}
    (h : endAmong limit kind start (examined + 1) depth opened lines = .ok pos) :
    ∃ read unread, lines = read ++ unread ∧ pos.line + 1 = start + examined + read.length ∧
      ∀ rest, endAmong limit kind start (examined + 1) depth opened (read ++ rest) = .ok pos := by
  induction lines generalizing examined depth opened with
  | nil =>
    rw [endAmong] at h
    cases h
  | cons line below ih =>
    rw [endAmong] at h
    split at h
    · cases h
    next hlim =>
    dsimp only at h
    split at h
    · next hstop =>
      cases h
      refine ⟨[line], below, rfl, ?_, fun rest => ?_⟩
      · dsimp only
        rw [List.length_singleton]
        omega
      · rw [List.singleton_append, endAmong, if_neg hlim]
        dsimp only
        rw [if_pos hstop]
    · next hgo =>
      obtain ⟨read, unread, rfl, hline, hread⟩ := ih h
      refine ⟨line :: read, unread, rfl, ?_, fun rest => ?_⟩
      · rw [List.length_cons]
        omega
      · rw [List.cons_append, endAmong, if_neg hlim]
        dsimp only
        rw [if_neg hgo, hread]

/-- The forward scan over an excerpt alone, which then starts on line 0. -/
theorem endAmong_excerpt {d : Document} {limit : Limit} {kind : Kind} {s e : Nat} {column : Int}
    (h : endAmong limit kind s 1 0 false (d.drop s) = .ok ⟨e, column⟩) :
    endAmong limit kind 0 1 0 false (d.excerpt s e) = .ok ⟨e + (0 - s), column⟩ := by
  obtain ⟨read, unread, hdrop, hline, hread⟩ := exists_read_of_endAmong h
  dsimp only at hline
  have hexcerpt : d.excerpt s e = read := by
    rw [Document.excerpt, List.drop_take, hdrop, show e + 1 - s = read.length by omega,
      List.take_left]
  have hend := hread []
  rw [List.append_nil] at hend
  rw [hexcerpt]
  exact endAmong_moved hend

/-- The lines of a construct are a construct by themselves. -/
theorem findEnd_excerpt {d : Document} {limit : Limit} {kind : Kind} {s e : Nat} {column : Int}
    (hse : s ≤ e) (he : e < d.length) (h : findEnd d limit ⟨s, 0⟩ kind = .ok ⟨e, column⟩) :
    findEnd (d.excerpt s e) limit ⟨0, 0⟩ kind = .ok ⟨(e : Int) - s, column⟩ := by
  have hs := Nat.lt_of_le_of_lt hse he
  have hfirst : Document.downFrom (d.excerpt s e) 0 = d.lineText s :: d.excerpt (s + 1) e := by
    rw [Document.excerpt_eq_cons hse he]
    exact Document.downFrom_natCast (Nat.succ_pos _)
  rw [findEnd, Document.downFrom_natCast hs] at h
  rw [findEnd, hfirst]
  dsimp only at h ⊢
  split at h
  · next hkind =>
    rw [← Document.drop_eq_lineText_cons hs] at h
    rw [if_pos hkind, ← Document.excerpt_eq_cons hse he, endAmong_excerpt h]
    simp only [Except.ok.injEq, Position.mk.injEq, and_true]
    omega
  · cases h

/-- The extent of a construct is found again in its own lines. -/
theorem findExtent_excerpt {d : Document} {limit : Limit} {cursor : Position} {kind : Kind}
    {range : Range} (h : findExtent d limit cursor kind = .ok range) :
    ∃ s e : Nat, range = ⟨⟨s, 0⟩, ⟨e, lastColumn (d.lineText e)⟩⟩ ∧ s ≤ e ∧ e < d.length ∧
      ∀ column, findExtent (d.excerpt s e) limit ⟨0, column⟩ kind =
        .ok ⟨⟨0, 0⟩, ⟨(e : Int) - s, range.last.column⟩⟩ := by
  obtain ⟨anchor, last, hstart, hend, rfl⟩ := findExtent_eq_ok_iff.1 h
  have hkind := ne_unknown_of_findStart hstart
  obtain ⟨s, hs, rfl⟩ := exists_line_of_findStart hstart
  obtain ⟨declares, e, closes, rfl, hlim⟩ := (findEnd_eq_ok_iff rfl hs).1 hend
  have hse := closes.start_le
  have he := closes.lt_length
  refine ⟨s, e, rfl, hse, he, fun column => ?_⟩
  have hcons := Document.excerpt_eq_cons hse he
  have hlength : 0 < (d.excerpt s e).length := by rw [hcons]; exact Nat.succ_pos _
  have near : NearestDeclares (d.excerpt s e) 0 0 kind := by
    refine ⟨Nat.le_refl 0, ?_, fun m hm hm' => absurd hm (Nat.not_lt.2 hm')⟩
    rw [hcons]
    exact declares
  have hstart' : findStart (d.excerpt s e) limit ⟨0, column⟩ kind = .ok ⟨0, 0⟩ :=
    (findStart_eq_ok_iff rfl hlength).2
      ⟨hkind, 0, near, rfl, Limit.not_exceeded_mono (by omega) hlim⟩
  exact findExtent_eq_ok_iff.2 ⟨_, _, hstart', findEnd_excerpt hse he hend, rfl⟩

end Scan

end DocScribe
