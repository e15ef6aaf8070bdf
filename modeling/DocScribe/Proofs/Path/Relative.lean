import DocScribe.Proofs.Path.Lexical

/-!
# Relative paths

A clean relative path goes up first and then down by entries (`IsClean`). Cleaning a path keeps
what it means: its absolute form is the same before and after (`absoluteParts_clean`), so a name may
be joined before or after a path is made absolute (`absolute_join`).
-/

namespace DocScribe.Path

theorem cleanStep_up {done : List Text} (hdone : ∀ name ∈ done, IsEntry name) :
    cleanStep true done ".." = done.tail := by
  cases done with
  | nil => rfl
  | cons last rest =>
    have hlast : ¬ (last == (".." : Text)) = true := by
      rw [beq_iff_eq]
      exact (hdone last List.mem_cons_self).ne_dots
    exact if_neg hlast

/-! The names of clean relative paths. -/

/-- The names of a clean relative path: it goes up only at its start. -/
inductive IsClean : List Text → Prop
  | down {names : List Text} (entries : ∀ name ∈ names, IsEntry name) : IsClean names
  | up {names : List Text} (clean : IsClean names) : IsClean (".." :: names)

theorem isClean_nil : IsClean [] :=
  .down fun _ h => absurd h List.not_mem_nil

theorem IsClean.concat {names : List Text} (clean : IsClean names) {name : Text}
    (hname : IsEntry name) : IsClean (names ++ [name]) := by
  induction clean with
  | down entries =>
    refine .down fun other hother => ?_
    rcases List.mem_append.1 hother with hother | hother
    · exact entries other hother
    · rw [List.mem_singleton.1 hother]
      exact hname
  | up _ ih => exact ih.up

theorem IsClean.init {names : List Text} {last : Text} (clean : IsClean (names ++ [last])) :
    IsClean names := by
  induction names with
  | nil => exact isClean_nil
  | cons name names ih =>
    cases clean with
    | down entries => exact .down fun other hother => entries other (List.mem_append_left _ hother)
    | up clean => exact (ih clean).up

/-- Where the last name goes up, all names do. -/
theorem IsClean.up_concat {names : List Text} (clean : IsClean (names ++ [(".." : Text)])) :
    IsClean (names ++ [(".." : Text)] ++ [(".." : Text)]) := by
  induction names with
  | nil => exact isClean_nil.up.up
  | cons name names ih =>
    cases clean with
    | down entries =>
      have hdots : (".." : Text) ∈ name :: names ++ [(".." : Text)] := by simp
      exact absurd rfl (entries ".." hdots).ne_dots
    | up clean => exact (ih clean).up

/-- The parts that are done, of which the last comes first, stay those of a clean path. -/
theorem isClean_cleanStep {done : List Text} {part : Text} (clean : IsClean done.reverse)
    (hpart : Text.slash ∉ part) : IsClean (cleanStep false done part).reverse := by
  unfold cleanStep
  split
  · exact clean
  · next hhere =>
    split
    · next hdots =>
      obtain rfl := beq_iff_eq.1 hdots
      cases done with
      | nil => exact isClean_nil.up
      | cons last rest =>
        dsimp only
        rw [List.reverse_cons] at clean
        split
        · next hlast =>
          obtain rfl := beq_iff_eq.1 hlast
          rw [List.reverse_cons, List.reverse_cons]
          exact clean.up_concat
        · exact clean.init
    · next hdots =>
      rw [List.reverse_cons]
      exact clean.concat ⟨isName_of_not hhere hdots, hpart⟩

theorem isClean_cleanParts {path : Text} (hrelative : isAbsolute path = false) :
    IsClean (cleanParts path) := by
  have hfold : ∀ (names done : List Text), (∀ name ∈ names, Text.slash ∉ name) →
      IsClean done.reverse → IsClean (names.foldl (cleanStep false) done).reverse := by
    intro names
    induction names with
    | nil => exact fun _ _ clean => clean
    | cons name names ih =>
      intro done hnames clean
      obtain ⟨hname, hrest⟩ := List.forall_mem_cons.1 hnames
      exact ih _ hrest (isClean_cleanStep clean hname)
  rw [cleanParts, hrelative]
  exact hfold _ [] (fun name hname => Text.not_mem_of_mem_splitOnByte hname) isClean_nil

/-- No name of a clean path is empty or a dot. -/
theorem IsClean.not_here {names : List Text} (clean : IsClean names) :
    ∀ name ∈ names, ¬ (name.isEmpty || name == ("." : Text)) = true := by
  induction clean with
  | down entries =>
    intro name hname
    simp [(entries name hname).ne_nil, (entries name hname).ne_dot]
  | up _ ih => exact List.forall_mem_cons.2 ⟨by decide, ih⟩

theorem IsClean.nil_not_mem {names : List Text} (clean : IsClean names) : [] ∉ names :=
  fun h => clean.not_here [] h rfl

theorem IsClean.slash_not_mem {names : List Text} (clean : IsClean names) :
    ∀ name ∈ names, Text.slash ∉ name := by
  induction clean with
  | down entries => exact fun name hname => (entries name hname).slash_not_mem
  | up _ ih => exact List.forall_mem_cons.2 ⟨by decide, ih⟩

theorem IsClean.parts_ofParts {names : List Text} (clean : IsClean names) (hne : names ≠ []) :
    parts (ofParts false names) = names := by
  rw [ofParts, if_neg Bool.false_ne_true, if_neg (by simpa using hne)]
  exact Text.splitOnByte_join hne clean.slash_not_mem

theorem IsClean.isAbsolute_ofParts {names : List Text} (clean : IsClean names) :
    isAbsolute (ofParts false names) = false := by
  by_cases hne : names = []
  · rw [hne]
    rfl
  · rw [Bool.eq_false_iff]
    intro habsolute
    obtain ⟨rest, hrest⟩ : ∃ rest, ofParts false names = Text.slash :: rest := by
      rw [isAbsolute, beq_iff_eq] at habsolute
      exact List.head?_eq_some_iff.1 habsolute
    -- The part before the leading slash is empty.
    have hparts := clean.parts_ofParts hne
    rw [hrest, parts, Text.splitOnByte, if_pos (by decide)] at hparts
    exact clean.nil_not_mem (by rw [← hparts]; exact List.mem_cons_self)

/-! Cleaning keeps what a path means. -/

theorem clean_ne_nil (path : Text) : clean path ≠ [] := by
  rw [clean, ofParts]
  split
  · exact List.cons_ne_nil _ _
  · next hrelative =>
    rw [Bool.not_eq_true] at hrelative
    have clean := isClean_cleanParts hrelative
    split
    · decide
    · next hne =>
      intro hjoin
      have hparts := clean.parts_ofParts (by simpa using hne)
      rw [ofParts, if_neg Bool.false_ne_true, if_neg hne, hjoin] at hparts
      exact clean.nil_not_mem (by rw [← hparts]; exact List.mem_cons_self)

theorem cleanParts_of_isAbsolute {path : Text} (habsolute : isAbsolute path = true) :
    ∀ name ∈ cleanParts path, IsEntry name := by
  intro name hname
  rw [cleanParts, habsolute] at hname
  exact isEntry_of_mem_foldl (fun _ h => absurd h List.not_mem_nil)
    (fun part hpart => Text.not_mem_of_mem_splitOnByte hpart) name (List.mem_reverse.1 hname)

theorem isAbsolute_clean (path : Text) : isAbsolute (clean path) = isAbsolute path := by
  cases habsolute : isAbsolute path with
  | true =>
    rw [clean, habsolute]
    rfl
  | false =>
    rw [clean, habsolute]
    exact (isClean_cleanParts habsolute).isAbsolute_ofParts

/-- A part of a relative path works alike on what is done and on where that leads. -/
theorem foldl_cleanStep_cleanStep {done : List Text} (clean : IsClean done.reverse)
    (working : List Text) (part : Text) :
    (cleanStep false done part).reverse.foldl (cleanStep true) working =
      cleanStep true (done.reverse.foldl (cleanStep true) working) part := by
  have hcons : (part :: done).reverse.foldl (cleanStep true) working =
      cleanStep true (done.reverse.foldl (cleanStep true) working) part := by
    rw [List.reverse_cons, List.foldl_append]
    rfl
  by_cases hhere : (part.isEmpty || part == ("." : Text)) = true
  · rw [cleanStep_here hhere, cleanStep_here hhere]
  by_cases hdots : (part == (".." : Text)) = true
  · obtain rfl := beq_iff_eq.1 hdots
    cases done with
    | nil => exact hcons
    | cons last rest =>
      by_cases hlast : (last == (".." : Text)) = true
      · have hstep : cleanStep false (last :: rest) ".." = (".." : Text) :: last :: rest :=
          if_pos hlast
        rw [hstep, hcons]
      · -- The name that was done last is left again.
        have hname : IsName last :=
          isName_of_not (clean.not_here last (by simp)) hlast
        rw [show cleanStep false (last :: rest) ".." = rest from if_neg hlast, List.reverse_cons,
          List.foldl_append, List.foldl_cons, List.foldl_nil, cleanStep_name hname]
        exact (if_neg hlast).symm
  · rw [cleanStep_name (isName_of_not hhere hdots), hcons]

theorem IsClean.foldl_parts {names : List Text} (clean : IsClean names) (working : List Text) :
    (parts (ofParts false names)).foldl (cleanStep true) working =
      names.foldl (cleanStep true) working := by
  by_cases hne : names = []
  · rw [hne]
    exact @cleanStep_here "." rfl true working
  · rw [clean.parts_ofParts hne]

/-- A path and its clean form have the same absolute parts. -/
theorem absoluteParts_clean (working : List Text) (path : Text) :
    absoluteParts working (clean path) = absoluteParts working path := by
  rw [absoluteParts, absoluteParts, isAbsolute_clean]
  cases habsolute : isAbsolute path with
  | true =>
    have hclean : clean path = ofParts true (cleanParts path) := by rw [clean, habsolute]
    rw [if_pos rfl, hclean, foldl_parts_ofParts (cleanParts_of_isAbsolute habsolute),
      List.append_nil, List.reverse_reverse, cleanParts, habsolute]
  | false =>
    have hclean : clean path = ofParts false (cleanParts path) := by rw [clean, habsolute]
    have hfold : ∀ (names done : List Text), (∀ name ∈ names, Text.slash ∉ name) →
        IsClean done.reverse →
        (names.foldl (cleanStep false) done).reverse.foldl (cleanStep true) working.reverse =
          names.foldl (cleanStep true) (done.reverse.foldl (cleanStep true) working.reverse) := by
      intro names
      induction names with
      | nil => exact fun _ _ _ => rfl
      | cons name names ih =>
        intro done hnames clean
        obtain ⟨hname, hrest⟩ := List.forall_mem_cons.1 hnames
        rw [List.foldl_cons, List.foldl_cons, ih _ hrest (isClean_cleanStep clean hname),
          foldl_cleanStep_cleanStep clean]
    rw [if_neg Bool.false_ne_true, hclean, (isClean_cleanParts habsolute).foldl_parts, cleanParts,
      habsolute, hfold (parts path) [] (fun name hname => Text.not_mem_of_mem_splitOnByte hname)
        isClean_nil]
    rfl

/-- A name may be joined before or after a path is made absolute. -/
theorem absolute_join {working : List Text} (entries : ∀ name ∈ working, IsEntry name)
    {dir name : Text} (hdir : dir ≠ []) (hname : IsEntry name) :
    absolute (ofParts true working) (join [dir, name]) =
      join [absolute (ofParts true working) dir, name] := by
  have hparts := @absoluteParts_append working dir hdir [name] (List.cons_ne_nil name [])
    (by simpa using hname)
  rw [absolute_eq_ofParts entries, absolute_eq_ofParts entries,
    join_ofParts (isEntry_of_mem_absoluteParts entries dir) hname, join_pair hdir hname.ne_nil,
    absoluteParts_clean]
  exact congrArg (ofParts true) hparts

end DocScribe.Path
