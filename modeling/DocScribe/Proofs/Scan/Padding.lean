import DocScribe.Proofs.Scan.Relocation

/-!
# Lines without code are invisible

A document is padded by putting lines without code between its lines: blank lines, line comments,
block comments that close on their line. `Padding d d' f` says that `d'` is `d` padded, and that
line `n` of `d` is line `f n` of `d'`. With the limit disabled every scan of the padded document has
the outcome of the same scan of the document, with its lines renumbered (`Padding.scansAlike`).

The scans walk over both documents side by side. `Aligned` says that they stand at corresponding
places; one line of the padded document either has no code, and only the walk over `d'` moves on, or
it is a line of `d`, and both do (`Aligned.up`, `Aligned.down`).
-/

namespace DocScribe

/-- The position after renumbering. -/
def Position.renumber (f : Nat → Nat) (p : Position) : Position :=
  ⟨f p.line.toNat, p.column⟩

/-- The range after renumbering. -/
def Range.renumber (f : Nat → Nat) (range : Range) : Range :=
  ⟨range.anchor.renumber f, range.last.renumber f⟩

namespace Scan

open Source

/-- The target after renumbering. -/
def Target.renumber (f : Nat → Nat) (t : Target) : Target :=
  { t with extent := t.extent.renumber f }

/-- The failure with the lines that it names renumbered. -/
def Failure.renumber (f : Nat → Nat) : Failure → Failure
  | .blocked kind found line => .blocked kind found (f line)
  | .startLimit kind cursor => .startLimit kind (f cursor.toNat)
  | .unclosed kind start opened => .unclosed kind (f start.toNat) opened
  | .endLimit kind start => .endLimit kind (f start.toNat)
  | .ownerLimit anchor => .ownerLimit (f anchor.toNat)
  | .hierarchyLimit cursor => .hierarchyLimit (f cursor.toNat)
  | .unnamed kind line => .unnamed kind (f line.toNat)
  | .undocumentable cursor scope => .undocumentable (f cursor.toNat) scope
  | .noKind => .noKind
  | .offDocument => .offDocument
  | .notDeclared => .notDeclared

/-- An outcome whose failure is renumbered, and whose result is moved by `move`. -/
def renumbered {α β : Type} (f : Nat → Nat) (move : α → β) : Except Failure α → Except Failure β
  | .ok a => .ok (move a)
  | .error failure => .error (failure.renumber f)

theorem renumbered_bind {α α' β β' : Type} {f : Nat → Nat} {move : α → α'} {move' : β → β'}
    {x : Except Failure α} {x' : Except Failure α'} {next : α → Except Failure β}
    {next' : α' → Except Failure β'} (hx : x' = renumbered f move x)
    (hnext : ∀ a, x = .ok a → next' (move a) = renumbered f move' (next a)) :
    (x' >>= next') = renumbered f move' (x >>= next) := by
  rw [hx]
  cases x with
  | error failure => rfl
  | ok a => exact hnext a rfl

/-- Document `d'` is `d` with lines without code put between its lines, and line `n` of `d` is line
`f n` of `d'`. -/
structure Padding (d d' : Document) (f : Nat → Nat) : Prop where
  increasing : ∀ m n, m < n → n < d.length → f m < f n
  keeps : ∀ n, n < d.length → d'[f n]? = d[n]?
  others : ∀ n line, d'[n]? = some line → (∀ m, m < d.length → f m ≠ n) → hasCode line = false

/-- Where line `n` goes when a line is inserted before line `p`. -/
def shiftFrom (p n : Nat) : Nat :=
  if n < p then n else n + 1

theorem Padding.refl (d : Document) : Padding d d id := by
  refine ⟨fun _ _ hmn _ => hmn, fun _ _ => rfl, fun n line hline hother => ?_⟩
  exact absurd rfl (hother n (List.getElem?_eq_some_iff.1 hline).1)

/-- Inserting a line without code anywhere pads a document further. -/
theorem Padding.insert {d d' : Document} {f : Nat → Nat} (padding : Padding d d' f) (p : Nat)
    {line : Text} (hline : hasCode line = false) :
    Padding d (d'.insertIdx p line) (fun n => shiftFrom p (f n)) := by
  refine ⟨fun m n hmn hn => ?_, fun n hn => ?_, fun n other hother hrest => ?_⟩
  · have hlt := padding.increasing m n hmn hn
    simp only [shiftFrom]
    split <;> split <;> omega
  · have hkept := padding.keeps n hn
    simp only [shiftFrom, List.getElem?_insertIdx]
    grind
  · -- The line is the inserted one, or a line of `d'` from before or after it.
    rw [List.getElem?_insertIdx] at hother
    split at hother
    · next hnp =>
      refine padding.others n other hother fun m hm hfm => hrest m hm ?_
      rw [shiftFrom, hfm, if_pos hnp]
    · next hnp =>
      split at hother
      · split at hother
        · cases hother
          exact hline
        · cases hother
      · refine padding.others (n - 1) other hother fun m hm hfm => hrest m hm ?_
        rw [shiftFrom, hfm, if_neg (by omega)]
        omega

/-- Line `n` of `d` and line `n'` of `d'` have the same lines of `d` above them. -/
structure Aligned (d d' : Document) (f : Nat → Nat) (n n' : Nat) : Prop where
  le_length : n ≤ d.length
  le_length' : n' ≤ d'.length
  above : ∀ m, m < d.length → (m < n ↔ f m < n')

section

variable {d d' : Document} {f : Nat → Nat}

theorem Padding.lt_length (padding : Padding d d' f) {n : Nat} (hn : n < d.length) :
    f n < d'.length := by
  have hkeeps := padding.keeps n hn
  rw [List.getElem?_eq_getElem hn] at hkeeps
  exact (List.getElem?_eq_some_iff.1 hkeeps).1

theorem Padding.lineText (padding : Padding d d' f) {n : Nat} (hn : n < d.length) :
    d'.lineText (f n) = d.lineText n := by
  rw [Document.lineText_natCast, Document.lineText_natCast, List.getD_eq_getElem?_getD,
    List.getD_eq_getElem?_getD, padding.keeps n hn]

theorem Padding.not_hasCode (padding : Padding d d' f) {n : Nat} (hn : n < d'.length)
    (hother : ∀ m, m < d.length → f m ≠ n) : hasCode (d'.lineText n) = false := by
  rw [Document.lineText_of_lt hn]
  exact padding.others n _ (List.getElem?_eq_getElem hn) hother

theorem Padding.lt_iff (padding : Padding d d' f) {m n : Nat} (hm : m < d.length)
    (hn : n < d.length) : f m < f n ↔ m < n := by
  constructor
  · intro hlt
    by_contra hle
    rcases Nat.eq_or_lt_of_le (Nat.le_of_not_lt hle) with rfl | hnm
    · omega
    · have hback := padding.increasing n m hnm hm
      omega
  · intro hlt
    exact padding.increasing m n hlt hn

theorem Padding.aligned (padding : Padding d d' f) {n : Nat} (hn : n < d.length) :
    Aligned d d' f n (f n) :=
  ⟨Nat.le_of_lt hn, Nat.le_of_lt (padding.lt_length hn), fun _ hm => (padding.lt_iff hm hn).symm⟩

theorem Padding.aligned_succ (padding : Padding d d' f) {n : Nat} (hn : n < d.length) :
    Aligned d d' f (n + 1) (f n + 1) := by
  refine ⟨hn, padding.lt_length hn, fun m hm => ?_⟩
  have hiff := padding.lt_iff hn hm
  omega

theorem Aligned.top {n : Nat} (aligned : Aligned d d' f n 0) : n = 0 := by
  by_contra hn
  have hle := aligned.le_length
  have hlt := (aligned.above 0 (by omega)).1 (by omega)
  omega

theorem Aligned.bottom (padding : Padding d d' f) {n : Nat}
    (aligned : Aligned d d' f n d'.length) : n = d.length := by
  by_contra hn
  have hle := aligned.le_length
  have hlt := (aligned.above n (by omega)).2 (padding.lt_length (by omega))
  omega

/-- One line upward: it has no code, or it is a line of `d`. -/
theorem Aligned.up (padding : Padding d d' f) {n n' : Nat} (aligned : Aligned d d' f n (n' + 1)) :
    (hasCode (d'.lineText n') = false ∧ Aligned d d' f n n') ∨
      ∃ m, n = m + 1 ∧ m < d.length ∧ f m = n' ∧ Aligned d d' f m n' := by
  have hle' := aligned.le_length'
  by_cases hkept : ∃ m, m < d.length ∧ f m = n'
  · obtain ⟨m, hm, rfl⟩ := hkept
    have hmn : m < n := (aligned.above m hm).2 (by omega)
    have hle := aligned.le_length
    have hnext : ¬ m + 1 < n := fun hlt => by
      have hback := (aligned.above (m + 1) (by omega)).1 hlt
      have hstep := padding.increasing m (m + 1) (by omega) (by omega)
      omega
    exact .inr ⟨m, by omega, hm, rfl, padding.aligned hm⟩
  · simp only [not_exists, not_and] at hkept
    refine .inl ⟨padding.not_hasCode (by omega) hkept, aligned.le_length, by omega, fun m hm => ?_⟩
    have hne := hkept m hm
    have habove := aligned.above m hm
    omega

/-- One line downward: it has no code, or it is a line of `d`. -/
theorem Aligned.down (padding : Padding d d' f) {n n' : Nat} (aligned : Aligned d d' f n n')
    (hn' : n' < d'.length) :
    (hasCode (d'.lineText n') = false ∧ Aligned d d' f n (n' + 1)) ∨
      (n < d.length ∧ f n = n' ∧ Aligned d d' f (n + 1) (n' + 1)) := by
  by_cases hkept : ∃ m, m < d.length ∧ f m = n'
  · obtain ⟨m, hm, rfl⟩ := hkept
    have hmn : ¬ m < n := fun hlt => by
      have hback := (aligned.above m hm).1 hlt
      omega
    have hnm : ¬ n < m := fun hlt => by
      have hstep := padding.increasing n m hlt hm
      have hback := (aligned.above n (by omega)).2 hstep
      omega
    obtain rfl : n = m := by omega
    exact .inr ⟨hm, rfl, padding.aligned_succ hm⟩
  · simp only [not_exists, not_and] at hkept
    refine .inl ⟨padding.not_hasCode hn' hkept, aligned.le_length, hn', fun m hm => ?_⟩
    have hne := hkept m hm
    have habove := aligned.above m hm
    omega

/-- The code above corresponding lines is the same. -/
theorem Aligned.code_above (padding : Padding d d' f) {n n' : Nat} (aligned : Aligned d d' f n n') :
    (d'.take n').filter hasCode = (d.take n).filter hasCode := by
  induction n' generalizing n with
  | zero =>
    rw [aligned.top, List.take_zero, List.take_zero]
  | succ n' ih =>
    have hn' : n' < d'.length := aligned.le_length'
    rw [List.take_succ_eq_append_getElem hn', List.filter_append, ← Document.lineText_of_lt hn']
    rcases aligned.up padding with ⟨hcode, aligned⟩ | ⟨m, rfl, hm, rfl, aligned⟩
    · rw [ih aligned, List.filter_cons_of_neg (by simp [hcode]), List.filter_nil, List.append_nil]
    · rw [ih aligned, List.take_succ_eq_append_getElem hm, List.filter_append, padding.lineText hm,
        ← Document.lineText_of_lt hm]

section Disabled

variable {limit : Limit} (off : limit.lines ≤ 0) (padding : Padding d d' f)
include off padding

theorem startAmong_padded {kind : Kind} (hkind : kind ≠ .unknown) (cursor cursor' : Int)
    {n n' : Nat} (examined examined' : Nat) (aligned : Aligned d d' f n n') :
    startAmong limit kind cursor' examined' (d'.take n').reverse =
      renumbered f f (startAmong limit kind cursor examined (d.take n).reverse) := by
  induction n' generalizing n examined examined' with
  | zero =>
    rw [aligned.top]
    rfl
  | succ n' ih =>
    have hn' : n' < d'.length := aligned.le_length'
    rw [Document.reverse_take_succ hn', startAmong_cons_of_off off,
      Document.length_reverse_take (Nat.le_of_lt hn')]
    rcases aligned.up padding with ⟨hcode, aligned⟩ | ⟨m, rfl, hm, rfl, aligned⟩
    · rw [codeKind_of_not_hasCode hcode, if_neg hkind.symm, if_pos rfl]
      exact ih examined (examined' + 1) aligned
    · rw [Document.reverse_take_succ hm, startAmong_cons_of_off off,
        Document.length_reverse_take (Nat.le_of_lt hm), padding.lineText hm]
      split
      · rfl
      · split
        · exact ih (examined + 1) (examined' + 1) aligned
        · rfl

theorem scopeAmong_padded {n n' : Nat} (examined examined' : Nat)
    (aligned : Aligned d d' f n n') :
    scopeAmong limit examined' (d'.take n').reverse =
      scopeAmong limit examined (d.take n).reverse := by
  induction n' generalizing n examined examined' with
  | zero =>
    rw [aligned.top]
    rfl
  | succ n' ih =>
    have hn' : n' < d'.length := aligned.le_length'
    rw [Document.reverse_take_succ hn', scopeAmong_cons_of_off off]
    rcases aligned.up padding with ⟨hcode, aligned⟩ | ⟨m, rfl, hm, rfl, aligned⟩
    · rw [codeKind_of_not_hasCode hcode, if_pos rfl]
      exact ih examined (examined' + 1) aligned
    · rw [Document.reverse_take_succ hm, scopeAmong_cons_of_off off, padding.lineText hm,
        ih (examined + 1) (examined' + 1) aligned]

/-- The forward scan for the end of the construct on line `s`. It is still running, so a line that
opens and closes nothing cannot stop it. -/
theorem endAmong_padded (kind : Kind) {s n n' : Nat} (hs : s ≤ n) (hs' : f s ≤ n')
    (aligned : Aligned d d' f n n') (depth : Int) (opened : Bool)
    (running : (opened && decide (depth ≤ 0)) = false) :
    endAmong limit kind (f s) (n' - f s + 1) depth opened (d'.drop n') =
      renumbered f (Position.renumber f)
        (endAmong limit kind s (n - s + 1) depth opened (d.drop n)) := by
  induction hk : d'.length - n' generalizing n n' depth opened with
  | zero =>
    have hle' := aligned.le_length'
    obtain rfl : n' = d'.length := by omega
    rw [aligned.bottom padding, List.drop_length, List.drop_length]
    rfl
  | succ k ih =>
    have hn' : n' < d'.length := by omega
    rw [Document.drop_eq_lineText_cons hn', endAmong_cons_of_off off,
      show n' - f s + 1 + 1 = n' + 1 - f s + 1 by omega]
    rcases aligned.down padding hn' with ⟨hcode, aligned⟩ | ⟨hn, rfl, aligned⟩
    · have hsame : (opened || decide (0 < opens (d'.lineText n'))) = opened := by
        rw [opens_of_not_hasCode hcode]
        exact Bool.or_false opened
      rw [hsame, balance_of_not_hasCode hcode, Int.add_zero, running, if_neg Bool.false_ne_true]
      exact ih hs (by omega) aligned depth opened running (by omega)
    · rw [Document.drop_eq_lineText_cons hn, endAmong_cons_of_off off, padding.lineText hn,
        show n - s + 1 + 1 = n + 1 - s + 1 by omega]
      split
      · have hline' : (f s : Int) + (f n - f s + 1 - 1 : Nat) = f n := by omega
        have hline : (s : Int) + (n - s + 1 - 1 : Nat) = n := by omega
        rw [hline, hline']
        rfl
      · next hstop =>
        exact ih (by omega) (by omega) aligned _ _ (by simpa using hstop) (by omega)

variable {c : Nat} (hc : c < d.length)
include hc

theorem findStart_padded (column : Int) (kind : Kind) :
    findStart d' limit ⟨f c, column⟩ kind =
      renumbered f (Position.renumber f) (findStart d limit ⟨c, column⟩ kind) := by
  rw [findStart, findStart]
  by_cases hkind : kind = .unknown
  · simp [hkind, renumbered, Failure.renumber]
  · have hscan := startAmong_padded off padding hkind c (f c) 1 1 (padding.aligned_succ hc)
    rw [if_neg (fun h => hkind (beq_iff_eq.1 h)), if_neg (fun h => hkind (beq_iff_eq.1 h)),
      Document.upFrom_natCast hc, Document.upFrom_natCast (padding.lt_length hc), hscan]
    cases startAmong limit kind c 1 (d.take (c + 1)).reverse <;> rfl

theorem currentScope_padded (column : Int) :
    currentScope d' limit ⟨f c, column⟩ = currentScope d limit ⟨c, column⟩ := by
  rw [currentScope, currentScope, Document.upFrom_natCast hc,
    Document.upFrom_natCast (padding.lt_length hc)]
  exact scopeAmong_padded off padding 1 1 (padding.aligned_succ hc)

theorem findEnd_padded (column : Int) (kind : Kind) :
    findEnd d' limit ⟨f c, column⟩ kind =
      renumbered f (Position.renumber f) (findEnd d limit ⟨c, column⟩ kind) := by
  have hscan := endAmong_padded off padding kind (Nat.le_refl c) (Nat.le_refl (f c))
    (padding.aligned hc) 0 false rfl
  rw [Nat.sub_self, Nat.sub_self, Document.drop_eq_lineText_cons hc,
    Document.drop_eq_lineText_cons (padding.lt_length hc), padding.lineText hc] at hscan
  rw [findEnd, findEnd, Document.downFrom_natCast hc,
    Document.downFrom_natCast (padding.lt_length hc), padding.lineText hc]
  dsimp only
  split
  · exact hscan
  · rfl

theorem findOwner_padded : findOwner d' limit (f c) = findOwner d limit c :=
  findOwner_of_code_eq off hc (padding.lt_length hc) (padding.lineText hc)
    ((padding.aligned hc).code_above padding)

theorem findExtent_padded (column : Int) (kind : Kind) :
    findExtent d' limit ⟨f c, column⟩ kind =
      renumbered f (Range.renumber f) (findExtent d limit ⟨c, column⟩ kind) := by
  refine renumbered_bind (findStart_padded off padding hc column kind) fun anchor hanchor => ?_
  obtain ⟨m, hm, rfl⟩ := exists_line_of_findStart hanchor
  exact renumbered_bind (findEnd_padded off padding hm 0 kind) fun last _ => rfl

theorem documentable_padded (column : Int) (kind : Kind) :
    documentable d' limit ⟨f c, column⟩ kind =
      renumbered f (Target.renumber f) (documentable d limit ⟨c, column⟩ kind) := by
  refine renumbered_bind (findExtent_padded off padding hc column kind) fun extent hextent => ?_
  obtain ⟨anchor, last, hanchor, -, rfl⟩ := findExtent_eq_ok_iff.1 hextent
  obtain ⟨m, hm, rfl⟩ := exists_line_of_findStart hanchor
  have hline : d'.lineText (Range.renumber f ⟨⟨m, 0⟩, last⟩).anchor.line = d.lineText m :=
    padding.lineText hm
  dsimp only
  rw [hline]
  split <;> rfl

theorem currentFunction_padded (column : Int) :
    currentFunction d' limit ⟨f c, column⟩ =
      renumbered f (Target.renumber f) (currentFunction d limit ⟨c, column⟩) := by
  refine renumbered_bind (documentable_padded off padding hc column .function) fun t ht => ?_
  obtain ⟨m, line, -, -⟩ := exists_describesLine_of_documentable ht
  have howner : findOwner d' limit (t.renumber f).extent.anchor.line =
      findOwner d limit t.extent.anchor.line := by
    rw [Target.renumber, Range.renumber, line.anchor]
    exact findOwner_padded off padding line.lt_length
  obtain ⟨owner, hfound⟩ := exists_findOwner_eq_ok off d t.extent.anchor.line
  rw [howner, hfound]
  rfl

theorem current_padded (column : Int) :
    current d' limit ⟨f c, column⟩ =
      renumbered f (Target.renumber f) (current d limit ⟨c, column⟩) := by
  rw [current, current, currentScope_padded off padding hc]
  split
  · exact currentFunction_padded off padding hc column
  · exact documentable_padded off padding hc column .struct
  · exact documentable_padded off padding hc column .trait
  · rfl

end Disabled

end

/-- The scans from line `c` of `d` and from line `f c` of `d'` have the same outcomes, with every
line that they report renumbered. -/
structure ScansAlike (d d' : Document) (limit : Limit) (f : Nat → Nat) (c : Nat) : Prop where
  start : ∀ column kind, findStart d' limit ⟨f c, column⟩ kind =
    renumbered f (Position.renumber f) (findStart d limit ⟨c, column⟩ kind)
  last : ∀ column kind, findEnd d' limit ⟨f c, column⟩ kind =
    renumbered f (Position.renumber f) (findEnd d limit ⟨c, column⟩ kind)
  extent : ∀ column kind, findExtent d' limit ⟨f c, column⟩ kind =
    renumbered f (Range.renumber f) (findExtent d limit ⟨c, column⟩ kind)
  owner : findOwner d' limit (f c) = findOwner d limit c
  scope : ∀ column, currentScope d' limit ⟨f c, column⟩ = currentScope d limit ⟨c, column⟩
  function : ∀ column, currentFunction d' limit ⟨f c, column⟩ =
    renumbered f (Target.renumber f) (currentFunction d limit ⟨c, column⟩)
  struct : ∀ column, currentStruct d' limit ⟨f c, column⟩ =
    renumbered f (Target.renumber f) (currentStruct d limit ⟨c, column⟩)
  trait : ∀ column, currentTrait d' limit ⟨f c, column⟩ =
    renumbered f (Target.renumber f) (currentTrait d limit ⟨c, column⟩)
  current : ∀ column, Scan.current d' limit ⟨f c, column⟩ =
    renumbered f (Target.renumber f) (Scan.current d limit ⟨c, column⟩)

/-- **Lines without code are invisible**: with the limit disabled, padding a document changes no
scan from any of its lines but for the numbers of the lines. -/
theorem Padding.scansAlike {d d' : Document} {f : Nat → Nat} (padding : Padding d d' f)
    {limit : Limit} (off : limit.lines ≤ 0) {c : Nat} (hc : c < d.length) :
    ScansAlike d d' limit f c where
  start := findStart_padded off padding hc
  last := findEnd_padded off padding hc
  extent := findExtent_padded off padding hc
  owner := findOwner_padded off padding hc
  scope := currentScope_padded off padding hc
  function := currentFunction_padded off padding hc
  struct := fun column => documentable_padded off padding hc column .struct
  trait := fun column => documentable_padded off padding hc column .trait
  current := current_padded off padding hc

/-- A method without any comment. -/
def bareMethod : Document :=
  ["impl S \x7b", "  fn f() \x7b", "    x", "  \x7d", "\x7d"]

/-- The method with a line comment that holds a brace in its body, a block comment that holds a
declaration above it, and a blank line. -/
def paddedMethod : Document :=
  ["impl S \x7b", "", "  /* fn g() \x7b */", "  fn f() \x7b", "    x", "    // \x7d", "  \x7d",
    "\x7d"]

theorem bareMethod_scansAlike :
    Padding bareMethod paddedMethod (shiftFrom 1 ∘ shiftFrom 1 ∘ shiftFrom 3) ∧
    2 < bareMethod.length ∧
    current bareMethod ⟨0⟩ ⟨(2 : Nat), 4⟩ =
      .ok ⟨.function, "f", ⟨⟨1, 0⟩, ⟨3, 2⟩⟩, "  ", some ⟨.structImpl, "S"⟩⟩ ∧
    current paddedMethod ⟨0⟩ ⟨(4 : Nat), 4⟩ =
      .ok ⟨.function, "f", ⟨⟨3, 0⟩, ⟨6, 2⟩⟩, "  ", some ⟨.structImpl, "S"⟩⟩ ∧
    ScansAlike bareMethod paddedMethod ⟨0⟩ (shiftFrom 1 ∘ shiftFrom 1 ∘ shiftFrom 3) 2 := by
  have padding : Padding bareMethod paddedMethod (shiftFrom 1 ∘ shiftFrom 1 ∘ shiftFrom 3) :=
    (((Padding.refl bareMethod).insert 3 (by decide)).insert 1 (by decide)).insert 1
      (by decide)
  exact ⟨padding, by decide, by decide +kernel, by decide +kernel,
    padding.scansAlike (by decide) (by decide)⟩

end Scan

end DocScribe
