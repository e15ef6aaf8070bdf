import DocScribe.Proofs.FileSystem.Node
import DocScribe.Proofs.Path.Lexical

/-!
# Where a path leads

A walk reads directories and links on its way and looks at its last name only to see whether it is
a link. So it goes the same way in every file system that `Keeps` the directories and links of the
first (`walk_keeps`): a walk to a directory ends there (`walk_directory`), what comes before its
last names leads to a directory (`walk_passes`), and a walk to a free place leads by any other last
name to another place of the same directory (`walk_sibling`).
-/

namespace DocScribe.FileSystem

open DocScribe.Path (IsName isName_of_not)

/-- The directories and links of `fs` are also in `fs'`. -/
def Keeps (fs fs' : FileSystem) : Prop :=
  ∀ place node, fs.node? place = some node → (∀ content, node ≠ .file content) →
    fs'.node? place = some node

theorem Keeps.refl (fs : FileSystem) : Keeps fs fs :=
  fun _ _ h _ => h

theorem Keeps.directory {fs fs' : FileSystem} (keeps : Keeps fs fs') {place : Place}
    (h : fs.node? place = some .directory) : fs'.node? place = some .directory := by
  refine keeps place .directory h fun content heq => ?_
  cases heq

theorem Keeps.link {fs fs' : FileSystem} (keeps : Keeps fs fs') {place : Place} {target : Text}
    (h : fs.node? place = some (.link target)) : fs'.node? place = some (.link target) := by
  refine keeps place (.link target) h fun content heq => ?_
  cases heq

/-! The steps of a walk. -/

section Steps

variable {fs : FileSystem} {follow : Bool} {links : Nat} {place : Place} {name : Text}
  {rest : List Text} (hdir : fs.node? place = some .directory)
include hdir

theorem walk_here (hname : (name.isEmpty || name == ("." : Text)) = true) :
    walk fs follow links place (name :: rest) = walk fs follow links place rest := by
  rw [walk.eq_def, hdir]
  dsimp only
  rw [if_pos hname]

theorem walk_up (hname : name = "..") :
    walk fs follow links place (name :: rest) = walk fs follow links place.dropLast rest := by
  subst hname
  rw [walk.eq_def, hdir]
  rfl

theorem walk_name (hname : IsName name) :
    walk fs follow links place (name :: rest) =
      match fs.node? (place ++ [name]) with
      | none => if rest.isEmpty then .ok (place ++ [name]) else .error .missing
      | some (.link target) =>
        if rest.isEmpty && !follow then .ok (place ++ [name])
        else
          match links with
          | 0 => .error .tooManyLinks
          | links + 1 =>
            walk fs follow links (if Path.isAbsolute target then [] else place)
              (Path.parts target ++ rest)
      | some _ => walk fs follow links (place ++ [name]) rest := by
  have hhere : ¬ (name.isEmpty || name == ("." : Text)) = true := by
    simp [hname.ne_nil, hname.ne_dot]
  have hup : ¬ (name == (".." : Text)) = true := by simp [hname.ne_dots]
  rw [walk.eq_def, hdir]
  dsimp only
  rw [if_neg hhere]
  exact if_neg hup

theorem walk_link (hname : IsName name) {target : Text}
    (hlink : fs.node? (place ++ [name]) = some (.link target)) (hon : rest ≠ [] ∨ follow = true) :
    walk fs follow (links + 1) place (name :: rest) =
      walk fs follow links (if Path.isAbsolute target then [] else place)
        (Path.parts target ++ rest) := by
  rw [walk_name hdir hname, hlink]
  dsimp only
  rw [if_neg]
  rcases hon with hon | hon <;> simp [hon]

theorem walk_into (hname : IsName name) (hnext : fs.node? (place ++ [name]) = some .directory) :
    walk fs follow links place (name :: rest) = walk fs follow links (place ++ [name]) rest := by
  rw [walk_name hdir hname, hnext]

/-- The last name of a walk leads to its place, whether or not a node stands there. -/
theorem walk_last (hname : IsName name)
    (hend : follow = true → ∀ target, fs.node? (place ++ [name]) ≠ some (.link target)) :
    walk fs follow links place [name] = .ok (place ++ [name]) := by
  rw [walk_name hdir hname]
  cases hnode : fs.node? (place ++ [name]) with
  | none => rfl
  | some node =>
    cases node with
    | link target =>
      cases follow with
      | false => rfl
      | true => exact absurd hnode (hend rfl target)
    | _ =>
      dsimp only
      rw [walk.eq_def]

end Steps

theorem ne_directory_of_error {fs : FileSystem} {place : Place} {node : FileNode}
    (h : fs.node? place = some node) (hnode : node ≠ .directory) (follow : Bool) (links : Nat)
    (name : Text) (rest : List Text) (target : Place) :
    walk fs follow links place (name :: rest) ≠ .ok target := by
  rw [walk.eq_def, h]
  cases node with
  | directory => exact absurd rfl hnode
  | file content =>
    intro heq
    cases heq
  | link text =>
    intro heq
    cases heq

/-- A walk ends at the same place in every file system that keeps what it reads, unless it is now
led on from there by a link. -/
theorem walk_keeps {fs fs' : FileSystem} (keeps : Keeps fs fs') {follow follow' : Bool}
    (hfollow : follow = true → follow' = true) {links : Nat} {place target : Place}
    {names : List Text} (h : walk fs follow links place names = .ok target)
    (hend : follow' = true → ∀ text, fs'.node? target ≠ some (.link text)) :
    walk fs' follow' links place names = .ok target := by
  fun_induction walk fs follow links place names with
  | case1 links place =>
    cases h
    rw [walk.eq_def]
  | case2 => cases h
  | case3 => cases h
  | case4 => cases h
  | case5 links place name rest hdir hhere ih =>
    rw [walk_here (keeps.directory hdir) hhere]
    exact ih h
  | case6 links place name rest hdir hhere hup ih =>
    rw [walk_up (keeps.directory hdir) (beq_iff_eq.1 hup)]
    exact ih h
  | case7 links place name rest hdir hhere hup next hfree hrest =>
    obtain rfl : rest = [] := List.isEmpty_iff.1 hrest
    rw [← Except.ok.inj h] at hend ⊢
    exact walk_last (keeps.directory hdir) (isName_of_not hhere hup) hend
  | case8 => cases h
  | case9 links place name rest hdir hhere hup next text hlink hlast =>
    simp only [Bool.and_eq_true, List.isEmpty_iff] at hlast
    obtain rfl : rest = [] := hlast.1
    rw [← Except.ok.inj h] at hend ⊢
    exact walk_last (keeps.directory hdir) (isName_of_not hhere hup) hend
  | case10 => cases h
  | case11 place name rest hdir hhere hup next text hlink hlast links ih =>
    have hon : rest ≠ [] ∨ follow' = true := by
      cases rest with
      | cons other rest => exact .inl (by simp)
      | nil => exact .inr (hfollow (by simpa using hlast))
    rw [walk_link (keeps.directory hdir) (isName_of_not hhere hup) (keeps.link hlink) hon]
    exact ih h
  | case12 links place name rest hdir hhere hup next node hnolink hnode ih =>
    have hname := isName_of_not hhere hup
    by_cases hnext : node = .directory
    · rw [hnext] at hnode
      rw [walk_into (keeps.directory hdir) hname (keeps.directory hnode)]
      exact ih h
    · -- A file ends the walk, so it is the target.
      cases rest with
      | cons other rest => exact absurd h (ne_directory_of_error hnode hnext _ _ _ _ _)
      | nil =>
        rw [walk.eq_def] at h
        rw [← Except.ok.inj h] at hend ⊢
        exact walk_last (keeps.directory hdir) hname hend

/-- A walk to a directory ends there in every file system that keeps what it reads. -/
theorem walk_directory {fs fs' : FileSystem} (keeps : Keeps fs fs') {follow : Bool} {links : Nat}
    {place target : Place} {names : List Text}
    (h : walk fs follow links place names = .ok target)
    (htarget : fs.node? target = some .directory) :
    walk fs' true links place names = .ok target := by
  refine walk_keeps keeps (fun _ => rfl) h fun _ text => ?_
  rw [keeps.directory htarget]
  simp

/-! A walk by several names. -/

/-- A walk by these names leads to a directory with this many links left, and goes on from there. -/
structure Passes (fs : FileSystem) (links : Nat) (place : Place) (front : List Text) (left : Nat)
    (dir : Place) : Prop where
  directory : fs.node? dir = some .directory
  goesOn : ∀ fs' follow names, Keeps fs fs' → names ≠ [] →
    walk fs' follow links place (front ++ names) = walk fs' follow left dir names

theorem Passes.here {fs : FileSystem} {place : Place} (h : fs.node? place = some .directory)
    (links : Nat) : Passes fs links place [] links place :=
  ⟨h, fun _ _ _ _ _ => rfl⟩

theorem Passes.of_step {fs : FileSystem} {links links' left : Nat} {place place' dir : Place}
    {front front' : List Text} (passes : Passes fs links' place' front' left dir)
    (hstep : ∀ fs' follow names, Keeps fs fs' → names ≠ [] →
      walk fs' follow links place (front ++ names) =
        walk fs' follow links' place' (front' ++ names)) :
    Passes fs links place front left dir := by
  refine ⟨passes.directory, fun fs' follow names keeps hnames => ?_⟩
  rw [hstep fs' follow names keeps hnames]
  exact passes.goesOn fs' follow names keeps hnames

/-- Nothing comes before the last names when they are a single one. -/
theorem eq_nil_of_append_eq_singleton {front names : List Text} {name : Text} (hnames : names ≠ [])
    (h : front ++ names = [name]) : front = [] := by
  rcases List.append_eq_singleton_iff.1 h with ⟨hfront, -⟩ | ⟨-, hnil⟩
  · exact hfront
  · exact absurd hnil hnames

/-- Whatever comes before the last names of a walk leads to a directory. -/
theorem walk_passes {fs : FileSystem} {follow : Bool} {links : Nat} {place target : Place}
    {front names : List Text} (hnames : names ≠ [])
    (h : walk fs follow links place (front ++ names) = .ok target) :
    ∃ left dir, Passes fs links place front left dir := by
  generalize hall : front ++ names = all at h
  revert front
  fun_induction walk fs follow links place all with
  | case1 => simp [hnames]
  | case2 => cases h
  | case3 => cases h
  | case4 => cases h
  | case5 links place name rest hdir hhere ih =>
    intro front hall
    cases front with
    | nil => exact ⟨links, place, .here hdir links⟩
    | cons other front =>
      obtain ⟨rfl, hrest⟩ := List.cons.inj hall
      obtain ⟨left, dir, passes⟩ := ih h hrest
      exact ⟨left, dir, passes.of_step fun _ _ _ keeps _ =>
        walk_here (keeps.directory hdir) hhere⟩
  | case6 links place name rest hdir hhere hup ih =>
    intro front hall
    cases front with
    | nil => exact ⟨links, place, .here hdir links⟩
    | cons other front =>
      obtain ⟨rfl, hrest⟩ := List.cons.inj hall
      obtain ⟨left, dir, passes⟩ := ih h hrest
      exact ⟨left, dir, passes.of_step fun _ _ _ keeps _ =>
        walk_up (keeps.directory hdir) (beq_iff_eq.1 hup)⟩
  | case7 links place name rest hdir hhere hup next hnone hrest =>
    intro front hall
    -- Nothing stands at the next place, so its name is the only one left.
    obtain rfl : rest = [] := List.isEmpty_iff.1 hrest
    obtain rfl := eq_nil_of_append_eq_singleton hnames hall
    exact ⟨links, place, .here hdir links⟩
  | case8 => cases h
  | case9 links place name rest hdir hhere hup next text hlink hend =>
    intro front hall
    simp only [Bool.and_eq_true, List.isEmpty_iff] at hend
    obtain rfl := eq_nil_of_append_eq_singleton hnames (hend.1 ▸ hall)
    exact ⟨links, place, .here hdir links⟩
  | case10 => cases h
  | case11 place name rest hdir hhere hup next text hlink hend links ih =>
    intro front hall
    cases front with
    | nil => exact ⟨links + 1, place, .here hdir (links + 1)⟩
    | cons other front =>
      obtain ⟨rfl, hrest⟩ := List.cons.inj hall
      subst hrest
      obtain ⟨left, dir, passes⟩ := ih h (List.append_assoc _ _ _)
      refine ⟨left, dir, passes.of_step fun fs' follow' names' keeps hnames' => ?_⟩
      rw [List.cons_append, walk_link (keeps.directory hdir) (isName_of_not hhere hup)
        (keeps.link hlink) (.inl (by simp [hnames'])), List.append_assoc]
      rfl
  | case12 links place name rest hdir hhere hup next node hnolink hnode ih =>
    intro front hall
    cases front with
    | nil => exact ⟨links, place, .here hdir links⟩
    | cons other front =>
      obtain ⟨rfl, hrest⟩ := List.cons.inj hall
      by_cases hnext : node = .directory
      · obtain ⟨left, dir, passes⟩ := ih h hrest
        rw [hnext] at hnode
        exact ⟨left, dir, passes.of_step fun _ _ _ keeps _ =>
          walk_into (keeps.directory hdir) (isName_of_not hhere hup) (keeps.directory hnode)⟩
      · obtain ⟨first, rest', hcons⟩ := List.exists_cons_of_ne_nil
          (show front ++ names ≠ [] by simp [hnames])
        rw [← hrest, show front.append names = first :: rest' from hcons] at h
        exact absurd h (ne_directory_of_error hnode hnext _ _ _ _ _)

/-- A name that stands for the directory or the one above it leads to a directory. -/
theorem exists_walk_unnamed {fs : FileSystem} (follow : Bool) (links : Nat) {dir : Place}
    {name : Text} (hdir : fs.node? dir = some .directory)
    (habove : fs.node? dir.dropLast = some .directory) (hname : ¬ IsName name) :
    ∃ target, walk fs follow links dir [name] = .ok target ∧
      fs.node? target = some .directory := by
  by_cases hhere : (name.isEmpty || name == ("." : Text)) = true
  · exact ⟨dir, by rw [walk_here hdir hhere, walk.eq_def], hdir⟩
  · by_cases hup : (name == (".." : Text)) = true
    · exact ⟨dir.dropLast, by rw [walk_up hdir (beq_iff_eq.1 hup), walk.eq_def], habove⟩
    · exact absurd (isName_of_not hhere hup) hname

/-- A walk that follows links ends at a directory, at a file, or at a free place of a directory. -/
theorem walk_target {fs : FileSystem} (rooted : Rooted fs) {links : Nat} {place target : Place}
    {names : List Text} (hplace : fs.node? place = some .directory)
    (h : walk fs true links place names = .ok target) :
    fs.node? target = some .directory ∨ (∃ content, fs.node? target = some (.file content)) ∨
      fs.node? target = none ∧ fs.node? target.dropLast = some .directory := by
  fun_induction walk fs true links place names with
  | case1 links place =>
    rw [← Except.ok.inj h]
    exact .inl hplace
  | case2 => cases h
  | case3 => cases h
  | case4 => cases h
  | case5 links place name rest hdir hhere ih => exact ih hdir h
  | case6 links place name rest hdir hhere hup ih => exact ih (rooted place _ hdir) h
  | case7 links place name rest hdir hhere hup next hfree hrest =>
    rw [← Except.ok.inj h, hfree, show next.dropLast = place from List.dropLast_concat]
    exact .inr (.inr ⟨rfl, hdir⟩)
  | case8 => cases h
  | case9 links place name rest hdir hhere hup next text hlink hlast => simp at hlast
  | case10 => cases h
  | case11 place name rest hdir hhere hup next text hlink hlast links ih =>
    refine ih ?_ h
    split
    · rfl
    · exact hdir
  | case12 links place name rest hdir hhere hup next node hnolink hnode ih =>
    cases node with
    | directory => exact ih hnode h
    | link text => exact absurd rfl (hnolink text)
    | file content =>
      cases rest with
      | cons other rest => exact absurd h (ne_directory_of_error hnode (by simp) _ _ _ _ _)
      | nil =>
        rw [walk.eq_def] at h
        rw [← Except.ok.inj h]
        exact .inr (.inl ⟨content, hnode⟩)

/-- A walk to a free place ends in a directory with a last name, and any other last name leads to
another place of that directory. -/
structure LeadsTo (fs : FileSystem) (links : Nat) (place : Place) (front : List Text) (last : Text)
    (dir : Place) : Prop where
  directory : fs.node? dir = some .directory
  isName : IsName last
  sibling : ∀ fs' name follow, Keeps fs fs' → IsName name →
    (follow = true → ∀ target, fs'.node? (dir ++ [name]) ≠ some (.link target)) →
    walk fs' follow links place (front ++ [name]) = .ok (dir ++ [name])

theorem walk_sibling {fs : FileSystem} (rooted : Rooted fs) {links : Nat} {place target : Place}
    {front : List Text} {last : Text}
    (h : walk fs false links place (front ++ [last]) = .ok target)
    (hfree : fs.node? target = none) :
    ∃ dir, target = dir ++ [last] ∧ LeadsTo fs links place front last dir := by
  obtain ⟨left, dir, passes⟩ := walk_passes (List.cons_ne_nil last []) h
  rw [passes.goesOn fs false [last] (Keeps.refl fs) (by simp)] at h
  have hname : IsName last := by
    by_contra hname
    obtain ⟨there, hthere, hnode⟩ := exists_walk_unnamed false left passes.directory
      (rooted _ _ passes.directory) hname
    rw [h] at hthere
    rw [Except.ok.inj hthere, hnode] at hfree
    cases hfree
  have htarget : walk fs false left dir [last] = .ok (dir ++ [last]) :=
    walk_last passes.directory hname (by simp)
  rw [htarget] at h
  refine ⟨dir, (Except.ok.inj h).symm, passes.directory, hname, ?_⟩
  intro fs' name follow keeps hname hend
  rw [passes.goesOn fs' follow [name] keeps (by simp)]
  exact walk_last (keeps.directory passes.directory) hname hend

end DocScribe.FileSystem
