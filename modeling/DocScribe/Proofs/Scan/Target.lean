import DocScribe.Proofs.Scan.Boundary
import DocScribe.Scan.Target

/-!
# What a target is

`IsTarget d limit n t` says everything a target tells about its declaration on line `n`. A cursor
that selects a target selects a declaration (`exists_isTarget_of_current`), and a cursor on the
declaration selects its target again (`IsTarget.current_eq`), so later results speak of targets
without opening the search.
-/

namespace DocScribe.Scan

open Source

/-- What target `t` tells about the declaration on line `n`, its owner apart. -/
structure DescribesLine (d : Document) (limit : Limit) (n : Nat) (t : Target) : Prop where
  lt_length : n < d.length
  anchor : t.extent.anchor = ⟨n, 0⟩
  declares : codeKind (d.lineText n) = t.kind
  name : codeName (d.lineText n) t.kind = t.name
  named : t.name ≠ []
  indent : t.indent = (d.lineText n).indent
  last : findEnd d limit ⟨n, 0⟩ t.kind = .ok t.extent.last

/-- Target `t` is the construct declared on line `n`. -/
structure IsTarget (d : Document) (limit : Limit) (n : Nat) (t : Target) : Prop
    extends DescribesLine d limit n t where
  kind : t.kind = .function ∨ t.kind = .struct ∨ t.kind = .trait
  owner : if t.kind = .function then findOwner d limit n = .ok t.owner else t.owner = none

theorem bind_eq_ok_iff {ε α β : Type} {x : Except ε α} {f : α → Except ε β} {r : β} :
    (x >>= f) = .ok r ↔ ∃ a, x = .ok a ∧ f a = .ok r := by
  cases x with
  | error e => simp [bind, Except.bind]
  | ok a => simp [bind, Except.bind]

section

variable {d : Document} {limit : Limit} {cursor : Position} {kind : Kind} {t : Target} {n : Nat}

theorem findExtent_eq_ok_iff {range : Range} :
    findExtent d limit cursor kind = .ok range ↔
      ∃ anchor last, findStart d limit cursor kind = .ok anchor ∧
        findEnd d limit anchor kind = .ok last ∧ range = ⟨anchor, last⟩ := by
  rw [findExtent, bind_eq_ok_iff]
  constructor
  · rintro ⟨anchor, hanchor, hend⟩
    obtain ⟨last, hlast, hpure⟩ := bind_eq_ok_iff.1 hend
    cases hpure
    exact ⟨anchor, last, hanchor, hlast, rfl⟩
  · rintro ⟨anchor, last, hanchor, hlast, rfl⟩
    exact ⟨anchor, hanchor, bind_eq_ok_iff.2 ⟨last, hlast, rfl⟩⟩

/-- The search for a construct of a kind, without its owner. -/
theorem documentable_eq_ok_iff :
    documentable d limit cursor kind = .ok t ↔
      ∃ anchor last, findStart d limit cursor kind = .ok anchor ∧
        findEnd d limit anchor kind = .ok last ∧ codeName (d.lineText anchor.line) kind ≠ [] ∧
        t = { kind, name := codeName (d.lineText anchor.line) kind, extent := ⟨anchor, last⟩,
              indent := (d.lineText anchor.line).indent } := by
  rw [documentable, bind_eq_ok_iff]
  constructor
  · rintro ⟨extent, hextent, h⟩
    obtain ⟨anchor, last, hanchor, hlast, rfl⟩ := findExtent_eq_ok_iff.1 hextent
    dsimp only at h
    split at h
    · cases h
    · next hname =>
      cases h
      exact ⟨anchor, last, hanchor, hlast, by simpa using hname, rfl⟩
  · rintro ⟨anchor, last, hanchor, hlast, hname, rfl⟩
    refine ⟨⟨anchor, last⟩, findExtent_eq_ok_iff.2 ⟨anchor, last, hanchor, hlast, rfl⟩, ?_⟩
    rw [if_neg (by simpa using hname)]
    rfl

theorem exists_describesLine_of_documentable (h : documentable d limit cursor kind = .ok t) :
    ∃ n, DescribesLine d limit n t ∧ t.kind = kind ∧ t.owner = none := by
  obtain ⟨anchor, last, hanchor, hlast, hname, rfl⟩ := documentable_eq_ok_iff.1 h
  obtain ⟨c, hc, hlen⟩ := Document.exists_of_hasLine (hasLine_of_findStart hanchor)
  obtain ⟨-, n, near, rfl, -⟩ := (findStart_eq_ok_iff hc hlen).1 hanchor
  have hle := near.le_cursor
  exact ⟨n, ⟨by omega, rfl, near.declares, rfl, hname, rfl, hlast⟩, rfl, rfl⟩

/-- The search for a kind finds the construct on a line that declares it. -/
theorem DescribesLine.documentable_eq (line : DescribesLine d limit n t) (hkind : t.kind ≠ .unknown)
    (column : Int) : documentable d limit ⟨n, column⟩ t.kind = .ok { t with owner := none } := by
  have near : NearestDeclares d n n t.kind := ⟨Nat.le_refl n, line.declares, by omega⟩
  have hlim : limit.exceeded (n - n + 1) = false := by
    rw [Limit.not_exceeded_iff]
    omega
  have hstart : findStart d limit ⟨n, column⟩ t.kind = .ok ⟨n, 0⟩ :=
    (findStart_eq_ok_iff rfl line.lt_length).2 ⟨hkind, n, near, rfl, hlim⟩
  refine documentable_eq_ok_iff.2 ⟨⟨n, 0⟩, t.extent.last, hstart, line.last, ?_, ?_⟩
  · rw [line.name]
    exact line.named
  · rw [line.name, ← line.indent, ← line.anchor]

theorem DescribesLine.currentScope_eq (line : DescribesLine d limit n t) (hkind : t.kind ≠ .unknown)
    (column : Int) : currentScope d limit ⟨n, column⟩ = t.kind := by
  have hlim : limit.exceeded 1 = false := by
    rw [Limit.not_exceeded_iff]
    omega
  rw [currentScope, Document.upFrom_natCast line.lt_length,
    Document.reverse_take_succ line.lt_length, scopeAmong, hlim]
  simp [line.declares, hkind]

/-- A cursor that selects a target selects a declaration. -/
theorem exists_isTarget_of_current (h : current d limit cursor = .ok t) :
    ∃ n, IsTarget d limit n t := by
  rw [current] at h
  split at h
  · rw [currentFunction, bind_eq_ok_iff] at h
    obtain ⟨found, hfound, h⟩ := h
    obtain ⟨owner, howner, h⟩ := bind_eq_ok_iff.1 h
    cases h
    obtain ⟨n, line, hkind, -⟩ := exists_describesLine_of_documentable hfound
    rw [line.anchor] at howner
    refine ⟨n, ⟨line.lt_length, line.anchor, line.declares, line.name, line.named, line.indent,
      line.last⟩, .inl hkind, ?_⟩
    rw [if_pos hkind]
    exact howner
  · obtain ⟨n, line, hkind, howner⟩ := exists_describesLine_of_documentable h
    refine ⟨n, line, .inr (.inl hkind), ?_⟩
    rwa [hkind, if_neg (by decide)]
  · obtain ⟨n, line, hkind, howner⟩ := exists_describesLine_of_documentable h
    refine ⟨n, line, .inr (.inr hkind), ?_⟩
    rwa [hkind, if_neg (by decide)]
  · cases h

/-- A cursor on the declaration of a target selects that target. -/
theorem IsTarget.current_eq (target : IsTarget d limit n t) (column : Int) :
    current d limit ⟨n, column⟩ = .ok t := by
  have hkind : t.kind ≠ .unknown := by
    rcases target.kind with h | h | h <;> rw [h] <;> decide
  have hscope := target.currentScope_eq hkind column
  have hfound := target.documentable_eq hkind column
  have hanchor := target.anchor
  have howner := target.owner
  have hcases := target.kind
  obtain ⟨kind, name, extent, indent, owner⟩ := t
  dsimp only at hscope hfound hanchor howner hcases
  rw [current, hscope]
  rcases hcases with rfl | rfl | rfl
  · have hrest : findOwner d limit extent.anchor.line = .ok owner := by
      rw [hanchor]
      exact howner
    exact bind_eq_ok_iff.2 ⟨_, hfound, bind_eq_ok_iff.2 ⟨owner, hrest, rfl⟩⟩
  · rw [if_neg (by decide)] at howner
    subst howner
    exact hfound
  · rw [if_neg (by decide)] at howner
    subst howner
    exact hfound

end

end DocScribe.Scan
