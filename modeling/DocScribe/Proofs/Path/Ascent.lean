import DocScribe.Proofs.Path.Lexical

/-!
# Going up

Cleaning a path only leaves parts out, so it gives the path itself, a dot or a shorter text
(`clean_cases`), and the directory of a path is the path itself or lower in `height`
(`height_directory_lt`). So going from directory to directory ends. From an absolute path it goes
by the names of the path, from the last to the first (`directory_dropLast`).
-/

namespace DocScribe.Path

/-! Leaving parts out. -/

theorem cleanStep_sublist (rooted : Bool) {done rest : List Text} {part : Text}
    (h : done.reverse.Sublist rest) :
    (cleanStep rooted done part).reverse.Sublist (rest ++ [part]) := by
  have hleft : done.reverse.Sublist (rest ++ [part]) := h.trans (List.sublist_append_left ..)
  have hcons : (part :: done).reverse.Sublist (rest ++ [part]) := by
    rw [List.reverse_cons]
    exact h.append (List.Sublist.refl _)
  unfold cleanStep
  split
  · exact hleft
  · split
    · cases done with
      | nil =>
        dsimp only
        split
        · exact List.nil_sublist _
        · exact hcons
      | cons last before =>
        dsimp only
        split
        · exact hcons
        · rw [List.reverse_cons] at hleft
          exact (List.sublist_append_left ..).trans hleft
    · exact hcons

theorem foldl_cleanStep_sublist (rooted : Bool) (names : List Text) {done rest : List Text}
    (h : done.reverse.Sublist rest) :
    (names.foldl (cleanStep rooted) done).reverse.Sublist (rest ++ names) := by
  induction names generalizing done rest with
  | nil => simpa using h
  | cons name names ih =>
    rw [List.foldl_cons, ← List.singleton_append, ← List.append_assoc]
    exact ih (cleanStep_sublist rooted h)

theorem cleaned_sublist (rooted : Bool) (names : List Text) :
    (names.foldl (cleanStep rooted) []).reverse.Sublist names :=
  @foldl_cleanStep_sublist rooted names [] [] (List.Sublist.refl [])

theorem join_cons_cons (sep name other : Text) (names : List Text) :
    Text.join sep (name :: other :: names) = name ++ sep ++ Text.join sep (other :: names) :=
  rfl

/-- Fewer names make a shorter text, unless only an empty name is left out. -/
theorem join_of_sublist {fewer names : List Text} (h : fewer.Sublist names) :
    Text.join [Text.slash] fewer = Text.join [Text.slash] names ∨
      (Text.join [Text.slash] fewer).length < (Text.join [Text.slash] names).length := by
  induction h with
  | slnil => exact .inl rfl
  | @cons fewer names name hrest ih =>
    cases names with
    | nil =>
      obtain rfl := List.sublist_nil.1 hrest
      cases name with
      | nil => exact .inl rfl
      | cons b s => exact .inr (Nat.zero_lt_succ _)
    | cons other names =>
      right
      have hle : (Text.join [Text.slash] fewer).length ≤
          (Text.join [Text.slash] (other :: names)).length :=
        ih.elim (fun heq => Nat.le_of_eq (congrArg List.length heq)) Nat.le_of_lt
      rw [join_cons_cons, List.length_append, List.length_append, List.length_singleton]
      omega
  | @cons_cons fewer names name hrest ih =>
    cases names with
    | nil =>
      obtain rfl := List.sublist_nil.1 hrest
      exact .inl rfl
    | cons other names =>
      cases fewer with
      | nil =>
        right
        rw [join_cons_cons, List.length_append, List.length_append, List.length_singleton]
        change name.length < _
        omega
      | cons first fewer =>
        rw [join_cons_cons, join_cons_cons]
        rcases ih with heq | hlt
        · exact .inl (by rw [heq])
        · right
          simp only [List.length_append]
          omega

/-- Cleaning a path that is not empty gives the path itself, a dot or something shorter. -/
theorem clean_cases {path : Text} (hne : path ≠ []) :
    clean path = path ∨ clean path = "." ∨ (clean path).length < path.length := by
  have hjoin : Text.join [Text.slash] (parts path) = path := Text.join_splitOnByte Text.slash path
  rw [clean]
  cases habsolute : isAbsolute path with
  | true =>
    obtain ⟨b, rest, rfl⟩ := List.exists_cons_of_ne_nil hne
    obtain rfl : b = Text.slash := by simpa [isAbsolute] using habsolute
    have hparts : parts (Text.slash :: rest) = [] :: parts rest :=
      Text.splitOnByte_append_cons Text.slash [] rest
    have hsublist : (cleanParts (Text.slash :: rest)).Sublist (parts rest) := by
      rw [cleanParts, hparts, List.foldl_cons, cleanStep_here rfl]
      exact cleaned_sublist _ (parts rest)
    have hrest : Text.join [Text.slash] (parts rest) = rest :=
      Text.join_splitOnByte Text.slash rest
    have hcases := join_of_sublist hsublist
    rw [hrest] at hcases
    rw [ofParts, if_pos rfl]
    rcases hcases with heq | hlt
    · exact .inl (by rw [heq])
    · exact .inr (.inr (Nat.succ_lt_succ hlt))
  | false =>
    have hcases := join_of_sublist (cleaned_sublist (isAbsolute path) (parts path))
    rw [hjoin, habsolute] at hcases
    rw [ofParts, if_neg Bool.false_ne_true, cleanParts, habsolute]
    split
    · exact .inr (.inl rfl)
    · exact hcases.imp id .inr

/-! Directories. -/

/-- How far up it goes from a path at most. -/
def height (path : Text) : Nat :=
  if path = ("." : Text) then 0 else path.length + 1

theorem height_le (path : Text) : height path ≤ path.length + 1 := by
  unfold height
  split <;> omega

/-- The directory of a path is lower than the path, unless it is the path. -/
theorem height_directory_lt {path : Text} (hne : directory path ≠ path) :
    height (directory path) < height path := by
  have hdot : path ≠ "." := fun h => hne (by rw [h]; rfl)
  have hheight : height path = path.length + 1 := if_neg hdot
  have hbelow : directory path = "." → height (directory path) < height path := by
    intro h
    rw [h, hheight]
    exact Nat.zero_lt_succ _
  obtain ⟨front, last, hparts⟩ : ∃ front last, parts path = front ++ [last] :=
    ⟨_, _, (List.dropLast_concat_getLast (Text.splitOnByte_ne_nil Text.slash path)).symm⟩
  have hpath : Text.join [Text.slash] (front ++ [last]) = path := by
    rw [← hparts]
    exact Text.join_splitOnByte Text.slash path
  by_cases hfront : front = []
  · refine hbelow ?_
    rw [directory, hparts, hfront]
    rfl
  · -- The part of the path up to its last slash is cleaned.
    have hdirectory := directory_eq_clean hparts hfront
    rw [Text.join_concat, List.append_nil] at hdirectory
    rw [Text.join_concat] at hpath
    have hupper : Text.terminate [Text.slash] front ≠ [] := by
      rw [Text.terminate_eq_join_append _ hfront]
      simp
    have hlength := congrArg List.length hpath
    rw [List.length_append] at hlength
    rcases clean_cases hupper with hsame | hroot | hshorter
    · rw [hdirectory, hsame, hheight]
      have hlast : last ≠ [] := by
        rintro rfl
        rw [List.append_nil] at hpath
        exact hne (by rw [hdirectory, hsame, hpath])
      have hpositive := List.length_pos_iff.2 hlast
      exact Nat.lt_of_le_of_lt (height_le _) (by omega)
    · exact hbelow (by rw [hdirectory, hroot])
    · rw [hdirectory, hheight]
      exact Nat.lt_of_le_of_lt (height_le _) (by omega)

/-- The directory of an absolute path has all its names but the last. -/
theorem directory_dropLast {names : List Text} (entries : ∀ name ∈ names, IsEntry name) :
    directory (ofParts true names) = ofParts true names.dropLast := by
  by_cases hne : names = []
  · rw [hne]
    rfl
  · conv => lhs; rw [← List.dropLast_concat_getLast hne]
    exact directory_ofParts (fun name hname => entries name (List.dropLast_subset names hname))
      (entries _ (List.getLast_mem hne))

/-- A path taken from an absolute directory is written from names. -/
theorem exists_absolute_eq_ofParts {working : Text} (h : isAbsolute working = true)
    (path : Text) :
    ∃ names, (∀ name ∈ names, IsEntry name) ∧ absolute working path = ofParts true names := by
  have hclean : ∀ p, isAbsolute p = true →
      ∃ names, (∀ name ∈ names, IsEntry name) ∧ clean p = ofParts true names := by
    intro p hp
    refine ⟨cleanParts p, ?_, by rw [clean, hp]⟩
    intro name hname
    rw [cleanParts, hp] at hname
    exact isEntry_of_mem_foldl (fun _ hnil => absurd hnil List.not_mem_nil)
      (fun part hpart => Text.not_mem_of_mem_splitOnByte hpart) name (List.mem_reverse.1 hname)
  rw [absolute]
  split
  · next hpath => exact hclean path hpath
  · have hworking : working ≠ [] := by
      rintro rfl
      cases h
    obtain ⟨b, s, rfl⟩ := List.exists_cons_of_ne_nil hworking
    by_cases hpath : path = []
    · rw [hpath]
      exact hclean _ h
    · rw [join_pair (List.cons_ne_nil b s) hpath]
      exact hclean _ h

end DocScribe.Path
