import DocScribe.Proofs.Scan.Enclosure

/-!
# Impl blocks whose header spans lines

The header of an impl block may reach from the line of its keyword down to the line of its opening
brace (`HeaderSpans`). The forward scan takes all of these lines for the declaration, so the members
lie within the block that it delimits (`HeaderSpans.findEnd_ge`). The backward scan from a member
stops on the line of the brace and reads that line alone (`DirectMember.encloses`), so it names the
block iff the brace stands on the line of the keyword: `findOwner_directMember`.
-/

namespace DocScribe.Scan

open Source

/-- The owner that the declaration on a line stands for. -/
def declaredOwner (d : Document) (h : Nat) : Owner :=
  ⟨codeKind (d.lineText h), codeName (d.lineText h) (codeKind (d.lineText h))⟩

/-- Line `h` declares an impl block with a name, and line `o` is the first from there on with an
opening brace; the lines in between belong to the header. -/
structure HeaderSpans (d : Document) (h o : Nat) : Prop where
  impl : (declaredOwner d h).kind.isImpl = true
  named : (declaredOwner d h).name ≠ []
  start_le : h ≤ o
  unopened : ∀ m < o, h ≤ m → opens (d.lineText m) = 0
  brace : opens (d.lineText o) = 1
  undeclared : ∀ m ≤ o, h < m → codeKind (d.lineText m) = .unknown
  unclosed : ∀ m ≤ o, h ≤ m → closes (d.lineText m) = 0

/-- Line `a` declares a function directly in the block that line `o` opens for the header from line
`h` on. -/
structure DirectMember (d : Document) (h o a : Nat) : Prop where
  below : o < a
  declares : declaresFunction d a = true
  inside : ∀ m < a, o ≤ m → 1 ≤ net d h (m + 1)
  direct : net d h a = 1

section

variable {d : Document} {h o a : Nat}

/-- The lines of a header above its brace leave the balance as it is. -/
theorem HeaderSpans.net_eq_zero (header : HeaderSpans d h o) : net d h o = 0 := by
  refine Finset.sum_eq_zero fun m hm => ?_
  obtain ⟨hhm, hmo⟩ := Finset.mem_Ico.1 hm
  rw [balance, header.unopened m hmo hhm, header.unclosed m (Nat.le_of_lt hmo) hhm]
  rfl

/-- The block around a direct member is open from the line of its brace on, and from no line
below. -/
theorem DirectMember.encloses (header : HeaderSpans d h o) (member : DirectMember d h o a) :
    Encloses d o a := by
  have hdirect := member.direct
  have habove := member.below
  refine ⟨habove, ?_, fun m hom hma => ?_⟩
  · have hsplit := net_append d header.start_le (Nat.le_of_lt habove)
    rw [header.net_eq_zero] at hsplit
    omega
  · have hstart := header.start_le
    have hsplit := net_append d (show h ≤ m by omega) (Nat.le_of_lt hma)
    obtain ⟨k, rfl⟩ : ∃ k, m = k + 1 := ⟨m - 1, by omega⟩
    have hinside := member.inside k (by omega) (by omega)
    omega

/-- The forward scan from the header stops at or below a member. -/
theorem HeaderSpans.findEnd_ge (header : HeaderSpans d h o) (member : DirectMember d h o a)
    {limit : Limit} {column : Int} {kind : Kind} {pos : Position}
    (ends : findEnd d limit ⟨h, column⟩ kind = .ok pos) : (a : Int) ≤ pos.line := by
  have hlen := (declaresFunction_iff.1 member.declares).1
  have hstart := header.start_le
  have habove := member.below
  obtain ⟨-, e, closesOn, rfl, -⟩ := (findEnd_eq_ok_iff rfl (show h < d.length by omega)).1 ends
  refine Int.ofNat_le.2 (closesOn.le_of_open fun m hhm hma closed => ?_)
  rcases Nat.lt_or_ge m o with hmo | hom
  · obtain ⟨k, hhk, hkm, hopens⟩ := closed.opened
    rw [header.unopened k (by omega) hhk] at hopens
    cases hopens
  · have hinside := member.inside m hma hom
    have hsettled := closed.settled
    omega

/-- The line of the brace names the block iff it is the line of the keyword. -/
theorem HeaderSpans.ownerOnLine?_eq (header : HeaderSpans d h o) :
    ownerOnLine? (d.lineText o) = if o = h then some (declaredOwner d h) else none := by
  split
  · next hoh =>
    rw [hoh]
    exact ownerOnLine?_eq_some_iff.2 ⟨header.impl, header.named, rfl, rfl⟩
  · next hoh =>
    have hstart := header.start_le
    have hunknown := header.undeclared o (Nat.le_refl o) (by omega)
    simp [ownerOnLine?, hunknown, Kind.isImpl]

end

/-- **The owner of a direct member**: whatever block the forward scan delimits from a header that
spans lines, it reaches down to every direct member; but the backward scan from the member names
the block only if its brace stands on the line of its keyword, and otherwise names none. -/
theorem findOwner_directMember {d : Document} {limit : Limit} (off : limit.lines ≤ 0) {h o a : Nat}
    (header : HeaderSpans d h o) (member : DirectMember d h o a) :
    (∀ column pos, findEnd d limit ⟨h, column⟩ (declaredOwner d h).kind = .ok pos →
        (a : Int) ≤ pos.line) ∧
      findOwner d limit a = .ok (if o = h then some (declaredOwner d h) else none) := by
  have place : enclosingLine d limit a = .ok (some (d.lineText o, o)) :=
    enclosingLine_eq_some_iff.2
      ⟨member.declares, member.encloses header, rfl, Limit.not_exceeded_of_off off _⟩
  refine ⟨fun column pos => header.findEnd_ge member, ?_⟩
  rw [findOwner, place, ← header.ownerOnLine?_eq]
  rfl

/-- An impl block with a condition between its header and its brace. -/
def whereClause : Document :=
  ["impl<T> Stack<T>", "where", "    T: Clone,", "\x7b", "    fn push(&mut self) \x7b",
   "        if self.full() \x7b \x7d", "    \x7d", "    fn pop(&mut self) \x7b", "    \x7d", "\x7d"]

theorem headerSpans_whereClause : HeaderSpans whereClause 0 3 where
  impl := by decide
  named := by decide +kernel
  start_le := by decide
  unopened := by decide
  brace := by decide
  undeclared := by decide
  unclosed := by decide

theorem directMember_whereClause : DirectMember whereClause 0 3 7 where
  below := by decide
  declares := by decide
  inside := by decide
  direct := by decide

/-- The block reaches down to the second function, which yet has no owner. -/
theorem whereClause_findOwner_directMember :
    HeaderSpans whereClause 0 3 ∧ DirectMember whereClause 0 3 7 ∧
    findEnd whereClause ⟨0⟩ ⟨0, 0⟩ .structImpl = .ok ⟨9, 0⟩ ∧
    (∀ column pos,
        findEnd whereClause ⟨0⟩ ⟨(0 : Nat), column⟩ (declaredOwner whereClause 0).kind = .ok pos →
          ((7 : Nat) : Int) ≤ pos.line) ∧
    findOwner whereClause ⟨0⟩ (7 : Nat) =
      .ok (if 3 = 0 then some (declaredOwner whereClause 0) else none) :=
  ⟨headerSpans_whereClause, directMember_whereClause, by decide,
    findOwner_directMember (by decide) headerSpans_whereClause directMember_whereClause⟩

/-- The second function is not found to belong to the block that its header declares. -/
theorem whereClause_hides_owner :
    declaredOwner whereClause 0 = ⟨.structImpl, "Stack"⟩ ∧
    ¬ (HeaderSpans whereClause 0 3 → DirectMember whereClause 0 3 7 →
        findOwner whereClause ⟨0⟩ (7 : Nat) = .ok (some (declaredOwner whereClause 0))) := by
  refine ⟨by decide +kernel, fun agrees => ?_⟩
  have found := agrees headerSpans_whereClause directMember_whereClause
  have hidden : findOwner whereClause ⟨0⟩ (7 : Nat) = .ok none := by decide
  rw [hidden] at found
  cases found

end DocScribe.Scan
