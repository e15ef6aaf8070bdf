import DocScribe.Proofs.Documentation.Placement
import DocScribe.Proofs.Scan.Outcome

/-!
# Declarations without a body

A unit structure and the signature of a method end in a semicolon and have no braces, so they have
no extent (`NoExtent`). The forward scan knows no semicolon: it takes the lines up to the next brace
for the declaration. So such a declaration is without an extent only while every block below it
stays open as far as the scan reaches (`StaysOpen`), and otherwise it gets the extent of the
construct that follows: `bodiless_noExtent_iff`.
-/

namespace DocScribe.Documentation

open Scan Source

/-- Line `s` declares a construct of the kind that ends in a semicolon instead of a body. -/
structure Bodiless (d : Document) (kind : Kind) (s : Nat) : Prop where
  documented : kind = .function ∨ kind = .struct ∨ kind = .trait
  declares : codeKind (d.lineText s) = kind
  unopened : opens (d.lineText s) = 0
  semicolon : ∃ code : Text, (stripComments (d.lineText s)).trimEnd = code ++ (";" : Text)

/-- The declaration of the kind on line `s` has no end and no extent, and no documenter has a prompt
for it, whatever its templates and their language are. -/
structure NoExtent (d : Document) (limit : Limit) (kind : Kind) (s : Nat) : Prop where
  last : ∀ column, FailsWith .notFound (findEnd d limit ⟨s, column⟩ kind) ∨
    FailsWith .limitExceeded (findEnd d limit ⟨s, column⟩ kind)
  extent : ∀ cursor range,
    findExtent d limit cursor kind = .ok range → range.anchor.line ≠ s
  prompt : ∀ (language : TemplateLanguage) (documenter : Documenter) (b : Buffer) cursor target
    text, b.lines = d → documenter.limit = limit →
      documenter.prompt b cursor language = .ok (target, text) → target.extent.anchor.line ≠ s

/-- On each line below line `s` that the limit lets the scan reach, no brace has been opened since
line `s`, or one of those is open. -/
def StaysOpen (d : Document) (limit : Limit) (s : Nat) : Prop :=
  ∀ e < d.length, s < e → (0 < limit.lines → (e : Int) - s < limit.lines) →
    Opened d (s + 1) (e + 1) → 0 < net d s (e + 1)

instance (d : Document) (limit : Limit) (s : Nat) : Decidable (StaysOpen d limit s) :=
  inferInstanceAs (Decidable (∀ e < d.length, s < e →
    (0 < limit.lines → (e : Int) - s < limit.lines) → Opened d (s + 1) (e + 1) →
      0 < net d s (e + 1)))

/-- The code from line `s` down to line `o` has no braces; the construct on line `o` comes next. -/
structure NextConstruct (d : Document) (s o : Nat) : Prop where
  below : s < o
  lt_length : o < d.length
  unopened : ∀ m < o, s ≤ m → opens (d.lineText m) = 0
  unclosed : ∀ m < o, s ≤ m → closes (d.lineText m) = 0

section

variable {d : Document} {limit : Limit} {kind : Kind} {s o e n : Nat}

/-- A line that opens no brace opens none of those that are counted from it. -/
theorem opened_from_iff (unopened : ∀ m < o, s ≤ m → opens (d.lineText m) = 0) (hso : s ≤ o) :
    Opened d s n ↔ Opened d o n := by
  constructor
  · rintro ⟨m, hsm, hmn, hopens⟩
    refine ⟨m, ?_, hmn, hopens⟩
    by_contra hmo
    rw [unopened m (by omega) hsm] at hopens
    cases hopens
  · rintro ⟨m, hom, hmn, hopens⟩
    exact ⟨m, by omega, hmn, hopens⟩

/-- A bodiless declaration ends on some line iff a block below it is closed in reach. -/
theorem staysOpen_iff (declares : codeKind (d.lineText s) = kind)
    (unopened : opens (d.lineText s) = 0) : StaysOpen d limit s ↔ ∀ e, ¬ Ends d limit kind s e := by
  have hopened : ∀ n, Opened d s n ↔ Opened d (s + 1) n := by
    intro n
    apply opened_from_iff _ (Nat.le_succ s)
    intro m hm hsm
    rw [show m = s by omega, unopened]
  constructor
  · intro stays e ends
    have closed := ends.closes.closed
    have hse : s < e := by
      obtain ⟨m, hsm, hme, -⟩ := (hopened _).1 closed.opened
      omega
    have hopen := stays e ends.closes.lt_length hse ends.in_reach ((hopened _).1 closed.opened)
    have hsettled := closed.settled
    omega
  · intro unended e he hse in_reach opened
    by_contra hsettled
    have closed : Closed d s e := ⟨(hopened _).2 opened, by omega⟩
    have hlim : limit.exceeded (e - s + 1) = false := by
      rw [Limit.not_exceeded_iff]
      omega
    have hstart : (⟨s, 0⟩ : Position).line = s := rfl
    obtain ⟨n, hsn, hne, hend⟩ :=
      exists_findEnd_of_closed hstart (Nat.le_of_lt hse) he declares closed hlim
    obtain ⟨m, ends, -⟩ := (findEnd_eq_ok_iff_ends hstart (by omega)).1 hend
    exact unended m ends

/-- A declaration without an end has no extent and no prompt. -/
theorem noExtent_iff (declares : codeKind (d.lineText s) = kind) :
    NoExtent d limit kind s ↔ ∀ e, ¬ Ends d limit kind s e := by
  constructor
  · intro none e ends
    have hend := ((findEnd_endsIn d limit ⟨s, 0⟩ kind).answer_iff _).2 ⟨s, rfl, e, ends, rfl⟩
    have hlast := none.last 0
    rw [hend] at hlast
    exact hlast.elim not_failsWith_ok not_failsWith_ok
  · intro unended
    have noEnd : ∀ start pos, findEnd d limit start kind = .ok pos → start.line ≠ s := by
      intro start pos hend hstart
      obtain ⟨n, hn, e, ends, -⟩ := ((findEnd_endsIn d limit start kind).answer_iff pos).1 hend
      obtain rfl : n = s := Int.natCast_inj.1 (hn.symm.trans hstart)
      exact unended e ends
    refine ⟨fun column => ?_, fun cursor range hextent => ?_, ?_⟩
    · have hends := findEnd_endsIn d limit ⟨s, column⟩ kind
      by_cases hcut : FailsWith .limitExceeded (findEnd d limit ⟨s, column⟩ kind)
      · exact .inr hcut
      · refine .inl (hends.nothing_iff.2 ⟨fun pos hfound => ?_, fun h => hcut (hends.cut_iff.2 h)⟩)
        exact noEnd _ pos ((hends.answer_iff pos).2 hfound) rfl
    · obtain ⟨anchor, last, -, hend, rfl⟩ := findExtent_eq_ok_iff.1 hextent
      exact noEnd anchor last hend
    · rintro language documenter b cursor target text rfl rfl hprompt hanchor
      obtain ⟨hcurrent, -⟩ := Documenter.prompt_eq_ok_iff.1 hprompt
      obtain ⟨n, isTarget⟩ := exists_isTarget_of_current hcurrent
      rw [isTarget.anchor] at hanchor
      obtain rfl : n = s := Int.natCast_inj.1 hanchor
      have hend := isTarget.last
      rw [← isTarget.declares, declares] at hend
      exact noEnd _ _ hend rfl

/-- Lines without braces leave the balance as it is. -/
theorem NextConstruct.net_eq_zero (next : NextConstruct d s o) (hn : n ≤ o) : net d s n = 0 := by
  refine Finset.sum_eq_zero fun m hm => ?_
  obtain ⟨hsm, hmn⟩ := Finset.mem_Ico.1 hm
  rw [balance, next.unopened m (by omega) hsm, next.unclosed m (by omega) hsm]
  rfl

/-- From the next construct on, a declaration without braces is closed where that one is. -/
theorem NextConstruct.closed_iff (next : NextConstruct d s o) (hoe : o ≤ e) :
    Closed d s e ↔ Closed d o e := by
  have hso := next.below
  have hopened : Opened d s (e + 1) ↔ Opened d o (e + 1) :=
    opened_from_iff next.unopened (Nat.le_of_lt hso)
  have hsplit := net_append d (Nat.le_of_lt hso) (show o ≤ e + 1 by omega)
  rw [next.net_eq_zero (Nat.le_refl o)] at hsplit
  constructor
  · rintro ⟨opened, settled⟩
    exact ⟨hopened.1 opened, by omega⟩
  · rintro ⟨opened, settled⟩
    exact ⟨hopened.2 opened, by omega⟩

theorem NextConstruct.not_closed (next : NextConstruct d s o) (heo : e < o) : ¬ Closed d s e := by
  rintro ⟨⟨m, hsm, hme, hopens⟩, -⟩
  rw [next.unopened m (by omega) hsm] at hopens
  cases hopens

/-- A declaration without braces ends where the next construct ends. -/
theorem NextConstruct.closesOn_iff (next : NextConstruct d s o) :
    ClosesOn d s e ↔ ClosesOn d o e := by
  have hso := next.below
  constructor
  · intro ends
    have hoe : o ≤ e := by
      by_contra heo
      exact next.not_closed (Nat.lt_of_not_le heo) ends.closed
    refine ⟨hoe, ends.lt_length, (next.closed_iff hoe).1 ends.closed, ?_⟩
    intro m hom hme closed
    exact ends.first m (by omega) hme ((next.closed_iff hom).2 closed)
  · intro ends
    have hoe := ends.start_le
    refine ⟨by omega, ends.lt_length, (next.closed_iff hoe).2 ends.closed, ?_⟩
    intro m hsm hme closed
    rcases Nat.lt_or_ge m o with hmo | hom
    · exact next.not_closed hmo closed
    · exact ends.first m hom hme ((next.closed_iff hom).1 closed)

/-- Without a limit, the end of the next construct is taken for that of the declaration. -/
theorem NextConstruct.findEnd_eq_ok_iff (next : NextConstruct d s o) (off : limit.lines ≤ 0)
    (declares : codeKind (d.lineText s) = kind) {column : Int} {pos : Position} :
    findEnd d limit ⟨s, column⟩ kind = .ok pos ↔
      findEnd d limit ⟨o, column⟩ (codeKind (d.lineText o)) = .ok pos := by
  have hso := next.below
  have hlen := next.lt_length
  rw [Scan.findEnd_eq_ok_iff rfl (show s < d.length by omega), Scan.findEnd_eq_ok_iff rfl hlen]
  simp only [next.closesOn_iff, declares, Limit.not_exceeded_of_off off]

end

/-- **The extent of a declaration without a body**: it has none exactly if every block below it
stays open as far as the limit lets the scan reach. Without a limit its end is that of the
construct that follows. -/
theorem bodiless_noExtent_iff {d : Document} {limit : Limit} {kind : Kind} {s : Nat}
    (bodiless : Bodiless d kind s) :
    (NoExtent d limit kind s ↔ StaysOpen d limit s) ∧
      (limit.lines ≤ 0 → ∀ o, NextConstruct d s o → ∀ column pos,
        (findEnd d limit ⟨s, column⟩ kind = .ok pos ↔
          findEnd d limit ⟨o, column⟩ (codeKind (d.lineText o)) = .ok pos)) := by
  constructor
  · rw [noExtent_iff bodiless.declares, staysOpen_iff bodiless.declares bodiless.unopened]
  · intro off o next column pos
    exact next.findEnd_eq_ok_iff off bodiless.declares

/-- A trait whose last item is a signature. -/
def lastSignature : Document :=
  ["trait T \x7b", "    fn f(&self) -> u8; // \x7b", "\x7d"]

/-- A unit structure above a function. -/
def unitStructure : Document :=
  ["struct Unit;", "", "fn f() \x7b", "\x7d"]

theorem bodiless_lastSignature : Bodiless lastSignature .function 1 where
  documented := .inl rfl
  declares := by decide
  unopened := by decide
  semicolon := ⟨"    fn f(&self) -> u8", by decide⟩

theorem bodiless_unitStructure : Bodiless unitStructure .struct 0 where
  documented := .inr (.inl rfl)
  declares := by decide
  unopened := by decide
  semicolon := ⟨"struct Unit", by decide⟩

theorem nextConstruct_unitStructure : NextConstruct unitStructure 0 2 where
  below := by decide
  lt_length := by decide
  unopened := by decide
  unclosed := by decide

/-- The last signature of a trait has no extent, and the unit structure gets that of the function
below it. -/
theorem lastSignature_noExtent :
    (Bodiless lastSignature .function 1 ∧ StaysOpen lastSignature {} 1 ∧
      NoExtent lastSignature {} .function 1) ∧
      Bodiless unitStructure .struct 0 ∧
        findEnd unitStructure ⟨0⟩ ⟨0, 0⟩ .struct = .ok ⟨3, 0⟩ := by
  refine ⟨⟨bodiless_lastSignature, ?_⟩, bodiless_unitStructure, ?_⟩
  · have stays : StaysOpen lastSignature {} 1 := by decide
    exact ⟨stays, (bodiless_noExtent_iff bodiless_lastSignature).1.2 stays⟩
  · have hfunction : findEnd unitStructure ⟨0⟩ ⟨2, 0⟩ .function = .ok ⟨3, 0⟩ := by decide
    have off : (⟨0⟩ : Limit).lines ≤ 0 := by decide
    have borrowed := (bodiless_noExtent_iff bodiless_unitStructure).2 off 2
      nextConstruct_unitStructure 0 ⟨3, 0⟩
    exact borrowed.2 hfunction

/-- The unit structure gets the extent of the function under the default limit too. -/
theorem unitStructure_borrows :
    findEnd unitStructure {} ⟨0, 0⟩ .struct = .ok ⟨3, 0⟩ ∧
      ¬ (Bodiless unitStructure .struct 0 → NoExtent unitStructure {} .struct 0) := by
  have hend : findEnd unitStructure {} ⟨0, 0⟩ .struct = .ok ⟨3, 0⟩ := by decide
  refine ⟨hend, fun h => ?_⟩
  have hlast := (h bodiless_unitStructure).last 0
  rw [show (⟨((0 : Nat) : Int), 0⟩ : Position) = ⟨0, 0⟩ from rfl, hend] at hlast
  exact hlast.elim not_failsWith_ok not_failsWith_ok

end DocScribe.Documentation
