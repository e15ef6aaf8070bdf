import DocScribe.Proofs.FileSystem.Directory

/-!
# Sound file systems

A file system is `Sound` if every node stands in a directory and the working directory is one, with
names that entries can have. Then the working directory can be left and entered again by its own
path, so a path is located where its absolute form is as long as no `..` in it follows a link.
-/

namespace DocScribe.FileSystem

open DocScribe.Path (IsEntry isName_of_not)

/-- Nodes stand in directories, and relative paths start in one. -/
structure Sound (fs : FileSystem) : Prop where
  rooted : Rooted fs
  working : fs.node? fs.working = some .directory
  entries : ∀ name ∈ fs.working, IsEntry name

/-- A clean absolute path is walked from the root by its names. -/
theorem locate_ofParts (fs : FileSystem) (follow : Bool) {names : List Text}
    (entries : ∀ name ∈ names, IsEntry name) :
    fs.locate follow (Path.ofParts true names) = walk fs follow maxLinks [] names := by
  have habsolute : Path.isAbsolute (Path.ofParts true names) = true := rfl
  rw [locate_of_ne_nil fs follow (by simp [Path.ofParts]), if_pos habsolute]
  by_cases hne : names = []
  · have hparts : Path.parts (Path.ofParts true []) = [[], []] := rfl
    rw [hne, hparts, walk_here fs.node?_nil rfl, walk_here fs.node?_nil rfl]
  · rw [Path.parts_ofParts entries hne, walk_here fs.node?_nil rfl]

/-- A walk leads to a place whose names are those of entries. -/
theorem isEntry_of_walk {fs : FileSystem} {follow : Bool} {links : Nat} {place target : Place}
    {names : List Text} (hplace : ∀ name ∈ place, IsEntry name)
    (hnames : ∀ name ∈ names, Text.slash ∉ name)
    (h : walk fs follow links place names = .ok target) : ∀ name ∈ target, IsEntry name := by
  -- A name that is walked by is added to the place as it is.
  have hnext : ∀ {place : Place} {name : Text} {rest : List Text},
      (∀ name ∈ place, IsEntry name) → (∀ other ∈ name :: rest, Text.slash ∉ other) →
      ¬ (name.isEmpty || name == ("." : Text)) = true → ¬ (name == (".." : Text)) = true →
      ∀ other ∈ place ++ [name], IsEntry other := by
    intro place name rest hplace hnames hhere hup other hother
    rcases List.mem_append.1 hother with hother | hother
    · exact hplace other hother
    · rw [List.mem_singleton.1 hother]
      exact ⟨isName_of_not hhere hup, hnames name List.mem_cons_self⟩
  fun_induction walk fs follow links place names with
  | case1 => exact Except.ok.inj h ▸ hplace
  | case2 => cases h
  | case3 => cases h
  | case4 => cases h
  | case5 links place name rest hdir hhere ih =>
    exact ih hplace (List.forall_mem_cons.1 hnames).2 h
  | case6 links place name rest hdir hhere hup ih =>
    exact ih (fun name hname => hplace name (List.dropLast_subset place hname))
      (List.forall_mem_cons.1 hnames).2 h
  | case7 links place name rest hdir hhere hup next hfree hrest =>
    exact Except.ok.inj h ▸ hnext hplace hnames hhere hup
  | case8 => cases h
  | case9 links place name rest hdir hhere hup next text hlink hlast =>
    exact Except.ok.inj h ▸ hnext hplace hnames hhere hup
  | case10 => cases h
  | case11 place name rest hdir hhere hup next text hlink hlast links ih =>
    refine ih ?_ ?_ h
    · split
      · exact fun _ hmem => absurd hmem List.not_mem_nil
      · exact hplace
    · intro part hpart
      rcases List.mem_append.1 hpart with hpart | hpart
      · exact Text.not_mem_of_mem_splitOnByte hpart
      · exact hnames part (List.mem_cons_of_mem name hpart)
  | case12 links place name rest hdir hhere hup next node hnolink hnode ih =>
    exact ih (hnext hplace hnames hhere hup) (List.forall_mem_cons.1 hnames).2 h

end DocScribe.FileSystem
