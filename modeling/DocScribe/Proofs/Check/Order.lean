import DocScribe.Proofs.Check.Agreement

/-!
# The order of the differences

The parser may list its functions in any order. Sorting by line keeps the differences of one line in
the order in which they were found (`onLine_mergeSort`), so the listing is known as soon as it is
known line by line (`eq_of_onLine`). On one line stand the differences of the functions
declared there and then the line itself if the parser has no function on it (`onLine_compare`).
Where no two functions share a line, none of this depends on the order of the functions
(`compare_eq_of_perm`).
-/

namespace DocScribe.Check

open Source Scan

/-- The differences on one line. -/
def onLine (n : Int) (mismatches : List Mismatch) : List Mismatch :=
  mismatches.filter fun m => m.line == n

/-- Sorting by line keeps the differences of a line in their order. -/
theorem onLine_mergeSort (n : Int) (mismatches : List Mismatch) :
    onLine n (mismatches.mergeSort fun a b => a.line ≤ b.line) = onLine n mismatches := by
  have hflat : (onLine n mismatches).Pairwise fun a b => decide (a.line ≤ b.line) = true := by
    refine List.pairwise_of_forall_mem_list fun a ha b hb => ?_
    have hline : a.line = n := beq_iff_eq.1 (List.mem_filter.1 ha).2
    have hline' : b.line = n := beq_iff_eq.1 (List.mem_filter.1 hb).2
    rw [decide_eq_true_eq, hline, hline']
  have hkept : (onLine n mismatches).Sublist (mismatches.mergeSort fun a b => a.line ≤ b.line) :=
    List.sublist_mergeSort byLine_trans byLine_total hflat List.filter_sublist
  have hsublist := hkept.filter fun m => m.line == n
  rw [onLine, List.filter_filter] at hsublist
  simp only [Bool.and_self] at hsublist
  refine (hsublist.eq_of_length ?_).symm
  exact ((List.mergeSort_perm mismatches _).filter _).length_eq.symm

/-- A listing by line is known from what it lists on each line. -/
theorem eq_of_onLine {xs ys : List Mismatch}
    (hxs : xs.Pairwise fun a b => a.line ≤ b.line) (hys : ys.Pairwise fun a b => a.line ≤ b.line)
    (same : ∀ n, onLine n xs = onLine n ys) : xs = ys := by
  induction xs generalizing ys with
  | nil =>
    cases ys with
    | nil => rfl
    | cons y ys =>
      have hline := same y.line
      simp [onLine] at hline
  | cons x xs ih =>
    cases ys with
    | nil =>
      have hline := same x.line
      simp [onLine] at hline
    | cons y ys =>
      -- Each head is listed by the other side, on no later line than that side's own head.
      have hx : x ∈ y :: ys := by
        have hmem : x ∈ onLine x.line (x :: xs) := List.mem_filter.2 ⟨List.mem_cons_self, by simp⟩
        exact (List.mem_filter.1 (same x.line ▸ hmem)).1
      have hy : y ∈ x :: xs := by
        have hmem : y ∈ onLine y.line (y :: ys) := List.mem_filter.2 ⟨List.mem_cons_self, by simp⟩
        exact (List.mem_filter.1 (same y.line ▸ hmem)).1
      obtain ⟨hfirst, hxs'⟩ := List.pairwise_cons.1 hxs
      obtain ⟨hfirst', hys'⟩ := List.pairwise_cons.1 hys
      have hle : x.line ≤ y.line := by
        rcases List.mem_cons.1 hy with rfl | hmem
        · exact Int.le_refl _
        · exact hfirst y hmem
      have hge : y.line ≤ x.line := by
        rcases List.mem_cons.1 hx with rfl | hmem
        · exact Int.le_refl _
        · exact hfirst' x hmem
      have hline : x.line = y.line := Int.le_antisymm hle hge
      have hhead := same x.line
      simp only [onLine, List.filter_cons, hline, beq_self_eq_true, if_true] at hhead
      obtain rfl := (List.cons.inj hhead).1
      refine congrArg (x :: ·) (ih hxs' hys' fun n => ?_)
      have hrest := same n
      simp only [onLine, List.filter_cons] at hrest
      split at hrest
      · exact (List.cons.inj hrest).2
      · exact hrest

/-- What is different about a function is listed on its line. -/
theorem line_of_mem_compareFunction {d : Document} {limit : Limit} {item : Item} {m : Mismatch}
    (h : m ∈ compareFunction d limit item) : m.line = item.line := by
  rw [compareFunction] at h
  split at h
  · rw [List.mem_singleton.1 h]
  · simp only [List.mem_append, List.mem_ite_nil_left, List.mem_singleton] at h
    rcases h with ((⟨-, rfl⟩ | ⟨-, rfl⟩) | ⟨-, rfl⟩) | howner
    · rfl
    · rfl
    · rfl
    · split at howner
      · rw [List.mem_singleton.1 howner]
      · rw [List.mem_singleton.1 (List.mem_ite_nil_left.1 howner).2]

theorem onLine_compareFunctions (d : Document) (limit : Limit) (n : Int) (items : List Item) :
    onLine n (items.flatMap (compareFunction d limit)) =
      (items.filter fun i => i.line == n).flatMap (compareFunction d limit) := by
  induction items with
  | nil => rfl
  | cons item items ih =>
    have hitem : onLine n (compareFunction d limit item) =
        if item.line == n then compareFunction d limit item else [] := by
      split
      · next hline =>
        refine List.filter_eq_self.2 fun m hm => ?_
        rw [line_of_mem_compareFunction hm, hline]
      · next hline =>
        refine List.filter_eq_nil_iff.2 fun m hm => ?_
        rwa [line_of_mem_compareFunction hm]
    rw [onLine] at ih hitem
    rw [onLine, List.flatMap_cons, List.filter_append, ih, hitem, List.filter_cons]
    split
    · rw [List.flatMap_cons]
    · rw [List.nil_append]

/-- The functions with a body, in the order in which the parser lists them. -/
def bodies (items : List Item) : List Item :=
  items.filter fun i => i.kind == .function && i.hasBody

/-- On a line stand the differences of the functions declared there, and then the line itself if it
is unmatched. -/
theorem onLine_compare (d : Document) (limit : Limit) (items : List Item) (n : Int) :
    onLine n (compare d limit items) =
      ((bodies items).filter fun i => i.line == n).flatMap (compareFunction d limit) ++
        onLine n (unmatched items 0 d) := by
  rw [compare, onLine_mergeSort, ← onLine_compareFunctions, bodies]
  exact List.filter_append ..

/-- No two functions of the list are declared on one line. -/
def Apart (items : List Item) : Prop :=
  (items.filter fun i => i.kind == .function).Pairwise fun i j => i.line ≠ j.line

instance (items : List Item) : Decidable (Apart items) :=
  inferInstanceAs (Decidable (List.Pairwise _ _))

theorem Apart.pairwise_bodies {items : List Item} (apart : Apart items) :
    (bodies items).Pairwise fun i j => i.line ≠ j.line := by
  have hfunctions : bodies items =
      (items.filter fun i => i.kind == .function).filter fun i => i.hasBody := by
    rw [bodies, List.filter_filter]
    exact List.filter_congr fun i _ => Bool.and_comm ..
  rw [hfunctions]
  exact apart.filter _

/-- At most one function of the list is declared on a line. -/
theorem Apart.filter_bodies_eq {items others : List Item} (apart : Apart items)
    (h : items.Perm others) (n : Int) :
    (bodies items).filter (fun i => i.line == n) = (bodies others).filter fun i => i.line == n := by
  have hperm : ((bodies items).filter fun i => i.line == n).Perm
      ((bodies others).filter fun i => i.line == n) := (h.filter _).filter _
  have hpairwise := apart.pairwise_bodies.filter fun i => i.line == n
  have hline : ∀ i ∈ (bodies items).filter fun i => i.line == n, i.line = n := fun i hi =>
    beq_iff_eq.1 (List.mem_filter.1 hi).2
  match hfound : (bodies items).filter fun i => i.line == n with
  | [] =>
    rw [hfound] at hperm
    rw [hfound]
    exact hperm.nil_eq
  | [item] =>
    rw [hfound] at hperm
    rw [hfound]
    exact List.singleton_perm.1 hperm
  | first :: second :: rest =>
    rw [hfound] at hpairwise hline
    have hne := (List.pairwise_cons.1 hpairwise).1 second List.mem_cons_self
    exact absurd ((hline first (by simp)).trans (hline second (by simp)).symm) hne

theorem unmatched_eq_of_perm {items others : List Item} (h : items.Perm others) (n : Nat)
    (lines : List Text) : unmatched items n lines = unmatched others n lines := by
  induction lines generalizing n with
  | nil => rfl
  | cons line lines ih => rw [unmatched, unmatched, h.any_eq, ih]

/-- **The order of the parser's list does not matter**: where no two functions share a line, the
cross-check lists the same differences in the same order for every permutation of the items. -/
theorem compare_eq_of_perm (d : Document) (limit : Limit) {items others : List Item}
    (apart : Apart items) (h : items.Perm others) :
    compare d limit items = compare d limit others := by
  refine eq_of_onLine (pairwise_compare d limit items) (pairwise_compare d limit others) ?_
  intro n
  rw [onLine_compare, onLine_compare, apart.filter_bodies_eq h, unmatched_eq_of_perm h]

/-- Two functions with a line between them that only looks like one. -/
def lookalike : Document :=
  ["fn first() \x7b", "\x7d", "// ", "let s = \" fn fake\";", "fn second() \x7b", "\x7d"]

/-- What a parser may say of `lookalike`, with a wrong end and a wrong name for each function. -/
def misread : List Item :=
  [{ kind := .function, name := "one", line := 0, endLine := 3, hasBody := true },
    { kind := .struct, name := "Other", line := 4 },
    { kind := .function, name := "two", line := 4, endLine := 4, hasBody := true }]

theorem compare_misread_reverse :
    Apart misread ∧ misread.Perm misread.reverse ∧
      compare lookalike ⟨0⟩ misread = compare lookalike ⟨0⟩ misread.reverse :=
  ⟨by decide, (List.reverse_perm misread).symm,
    compare_eq_of_perm lookalike ⟨0⟩ (by decide) (List.reverse_perm misread).symm⟩

/-- The differences of one function stay in the order of their fields. -/
example : (onLine 4 (compare lookalike ⟨0⟩ misread.reverse)).map (·.field) = ["end", "name"] := by
  rw [onLine_compare]
  decide +kernel

end DocScribe.Check
