import DocScribe.Path.Canonical
import DocScribe.Proofs.FileSystem.Sound
import Mathlib

/-!
# Paths below a root

What a path below a root is shown as. The links of the path and of the root are followed
separately, and a path to nothing keeps its links. So a path is shown by the names that come after
the root if it exists or the root is reached through no link, unless a file stands on its way;
otherwise it is not (`shownBelow_iff`).
-/

namespace DocScribe.Path

open FileSystem (Rooted Sound)

/-! The steps of following links. -/

section Steps

variable {fs : FileSystem} {links : Nat} {place : Place} {name : Text} {rest : List Text}

theorem follow_nil : follow fs links place [] = .ok place := by
  rw [follow.eq_def]

theorem follow_here (hname : (name.isEmpty || name == ("." : Text)) = true) :
    follow fs links place (name :: rest) = follow fs links place rest := by
  rw [follow.eq_def]
  dsimp only
  rw [if_pos hname]

theorem follow_up (hname : name = "..") :
    follow fs links place (name :: rest) = follow fs links place.dropLast rest := by
  subst hname
  rw [follow.eq_def]
  rfl

theorem follow_name (hname : IsName name) :
    follow fs links place (name :: rest) =
      match fs.node? (place ++ [name]) with
      | none => .error .missing
      | some .directory => follow fs links (place ++ [name]) rest
      | some (.file _) => if rest.isEmpty then .ok (place ++ [name]) else .error .notDirectory
      | some (.link target) =>
        match links with
        | 0 => .error .tooMany
        | links + 1 =>
          follow fs links (if isAbsolute target then [] else place) (parts target ++ rest) := by
  have hhere : ¬ (name.isEmpty || name == ("." : Text)) = true := by
    simp [hname.ne_nil, hname.ne_dot]
  have hup : ¬ (name == (".." : Text)) = true := by simp [hname.ne_dots]
  rw [follow.eq_def]
  dsimp only
  rw [if_neg hhere]
  exact if_neg hup

end Steps

theorem follow_parts_ofParts {fs : FileSystem} {links : Nat} {names : List Text}
    (entries : ∀ name ∈ names, IsEntry name) :
    follow fs links [] (parts (ofParts true names)) = follow fs links [] names := by
  by_cases hne : names = []
  · have hparts : parts (ofParts true []) = [[], []] := rfl
    rw [hne, hparts, follow_here rfl, follow_here rfl]
  · rw [parts_ofParts entries hne, follow_here rfl]

/-- Where a path leads to a directory, its links can be followed there, and on from there. -/
theorem exists_follow_of_walk {fs : FileSystem} {links : Nat} {place dir : Place}
    {front : List Text} (h : FileSystem.walk fs true links place front = .ok dir)
    (hdir : fs.node? dir = some .directory) (spare : Nat) :
    ∃ left, ∀ names, follow fs (links + spare) place (front ++ names) =
      follow fs left dir names := by
  generalize hfollow : true = on at h
  fun_induction FileSystem.walk fs on links place front with
  | case1 links place =>
    rw [← Except.ok.inj h]
    exact ⟨links + spare, fun _ => rfl⟩
  | case2 => cases h
  | case3 => cases h
  | case4 => cases h
  | case5 links place name rest hplace hhere ih =>
    obtain ⟨left, hleft⟩ := ih h
    exact ⟨left, fun names => (follow_here hhere).trans (hleft names)⟩
  | case6 links place name rest hplace hhere hup ih =>
    obtain ⟨left, hleft⟩ := ih h
    exact ⟨left, fun names => (follow_up (beq_iff_eq.1 hup)).trans (hleft names)⟩
  | case7 links place name rest hplace hhere hup next hfree hrest =>
    rw [← Except.ok.inj h, hfree] at hdir
    cases hdir
  | case8 => cases h
  | case9 links place name rest hplace hhere hup next text hlink hlast =>
    rw [← hfollow] at hlast
    simp at hlast
  | case10 => cases h
  | case11 place name rest hplace hhere hup next text hlink hlast links ih =>
    obtain ⟨left, hleft⟩ := ih h
    refine ⟨left, fun names => ?_⟩
    rw [← hleft names, List.append_assoc, List.cons_append,
      follow_name (isName_of_not hhere hup), hlink,
      show links + 1 + spare = links + spare + 1 by omega]
    rfl
  | case12 links place name rest hplace hhere hup next node hnolink hnode ih =>
    cases node with
    | link text => exact absurd rfl (hnolink text)
    | directory =>
      obtain ⟨left, hleft⟩ := ih h
      refine ⟨left, fun names => ?_⟩
      rw [← hleft names, List.cons_append, follow_name (isName_of_not hhere hup), hnode]
    | file content =>
      -- A walk does not go on from a file, nor does it end there.
      cases rest with
      | cons other rest =>
        exact absurd h (FileSystem.ne_directory_of_error hnode (by simp) _ _ _ _ _)
      | nil =>
        rw [FileSystem.walk.eq_def] at h
        rw [← Except.ok.inj h, hnode] at hdir
        cases hdir

/-- A file stands on the way by these names. -/
def Blocked (fs : FileSystem) (place : Place) (names : List Text) : Prop :=
  ∃ front rest content, names = front ++ rest ∧ rest ≠ [] ∧
    fs.node? (place ++ front) = some (.file content)

/-- The ways by names that are no links: to what is there, into a file, or to nothing. -/
theorem follow_below {fs : FileSystem} (rooted : Rooted fs) (links : Nat) {place : Place}
    {names : List Text} (hplace : fs.node? place = some .directory)
    (hnames : ∀ name ∈ names, IsName name)
    (hlinks : ∀ front rest target, names = front ++ rest →
      fs.node? (place ++ front) ≠ some (.link target)) :
    (∃ node, fs.node? (place ++ names) = some node) ∧
        follow fs links place names = .ok (place ++ names) ∨
      fs.node? (place ++ names) = none ∧ Blocked fs place names ∧
        follow fs links place names = .error .notDirectory ∨
      fs.node? (place ++ names) = none ∧ ¬ Blocked fs place names ∧
        follow fs links place names = .error .missing := by
  induction names generalizing place with
  | nil =>
    rw [List.append_nil, follow_nil]
    exact .inl ⟨⟨.directory, hplace⟩, rfl⟩
  | cons name rest ih =>
    obtain ⟨hname, hrest⟩ := List.forall_mem_cons.1 hnames
    -- What blocks the way from the next place blocks it from here.
    have hblocked : Blocked fs place (name :: rest) ↔ Blocked fs (place ++ [name]) rest := by
      constructor
      · rintro ⟨front, back, content, hsplit, hback, hfile⟩
        cases front with
        | nil =>
          rw [List.append_nil, hplace] at hfile
          cases hfile
        | cons first front =>
          obtain ⟨rfl, htail⟩ := List.cons.inj hsplit
          exact ⟨front, back, content, htail, hback, by simpa using hfile⟩
      · rintro ⟨front, back, content, hsplit, hback, hfile⟩
        exact ⟨name :: front, back, content, by rw [hsplit]; rfl, hback, by simpa using hfile⟩
    rw [follow_name hname, List.append_cons place name rest, hblocked]
    cases hnode : fs.node? (place ++ [name]) with
    | none =>
      refine .inr (.inr ⟨rooted.node?_eq_none hnode rest, ?_, rfl⟩)
      rintro ⟨front, back, content, -, -, hfile⟩
      rw [rooted.node?_eq_none hnode front] at hfile
      cases hfile
    | some node =>
      cases node with
      | directory =>
        refine ih hnode hrest fun front back target hsplit => ?_
        have hlink := hlinks (name :: front) back target (by rw [hsplit]; rfl)
        rwa [List.append_cons] at hlink
      | link target => exact absurd hnode (hlinks [name] rest target rfl)
      | file content =>
        by_cases hend : rest = []
        · rw [hend, List.append_nil]
          exact .inl ⟨⟨.file content, hnode⟩, rfl⟩
        · refine .inr (.inl ⟨?_, ⟨[], rest, content, rfl, hend, by simpa using hnode⟩, ?_⟩)
          · by_contra hsome
            obtain ⟨below, hbelow⟩ := Option.ne_none_iff_exists'.1 hsome
            rw [rooted.node?_of_append hend hbelow] at hnode
            cases hnode
          · exact if_neg (by simpa using hend)

/-! Paths below a root. -/

/-- The absolute form of the root leads to the directory at `place`, through links or not. -/
structure IsRoot (fs : FileSystem) (root : Text) (place : Place) : Prop where
  ne_nil : root ≠ []
  located : fs.locate true (absolute fs.workingPath root) = .ok place
  directory : fs.node? place = some .directory

/-- Names of entries, none of which is a link below the directory at `place`. -/
structure PlainBelow (fs : FileSystem) (place : Place) (names : List Text) : Prop where
  ne_nil : names ≠ []
  entries : ∀ name ∈ names, IsEntry name
  noLink : ∀ front rest target, names = front ++ rest →
    fs.node? (place ++ front) ≠ some (.link target)

/-- The path of `names` below a root. -/
def below (root : Text) (names : List Text) : Text :=
  root ++ Text.slash :: Text.join [Text.slash] names

/-- A path below a root is known by its names. -/
structure ShownBelow (fs : FileSystem) (root : Text) (names : List Text) : Prop where
  canonical : canonicalize fs (below root names) root = .ok (Text.join [Text.slash] names)
  within : isWithin fs (below root names) root = true
  displayed : display fs (below root names) root = Text.join [Text.slash] names

theorem shownBelow_iff_canonicalize {fs : FileSystem} {root : Text} {names : List Text}
    (hroot : root ≠ []) (hne : names ≠ []) (entries : ∀ name ∈ names, IsEntry name) :
    ShownBelow fs root names ↔
      canonicalize fs (below root names) root = .ok (Text.join [Text.slash] names) := by
  refine ⟨ShownBelow.canonical, fun h => ?_⟩
  have hparts := parts_join entries hne
  have hup : Text.join [Text.slash] names ≠ ".." := by
    intro hdots
    rw [hdots] at hparts
    exact (entries ".." (by rw [← hparts]; decide)).ne_dots rfl
  have hstart : Text.startsWith (Text.join [Text.slash] names) "../" = false := by
    rw [Bool.eq_false_iff, ne_eq, Text.startsWith_iff]
    rintro ⟨rest, hrest⟩
    have hsplit : parts ((".." : Text) ++ Text.slash :: rest) = parts ".." ++ parts rest :=
      Text.splitOnByte_append_cons _ _ _
    rw [← hrest, show ("../" : Text) ++ rest = (".." : Text) ++ Text.slash :: rest from rfl,
      hsplit] at hparts
    exact (entries ".." (by rw [← hparts]; exact List.mem_append_left _ (by decide))).ne_dots rfl
  have hwithin : isWithin fs (below root names) root = true := by
    rw [isWithin, h]
    simp [hup, hstart]
  refine ⟨h, hwithin, ?_⟩
  rw [display, hwithin, h, if_neg (by simp [hroot])]

section Root

variable {fs : FileSystem} (sound : Sound fs) {root : Text} {place : Place}
  (isRoot : IsRoot fs root place)
include sound

theorem resolve_eq (path : Text) :
    resolve fs path =
      match follow fs maxLinks [] (absoluteParts fs.working path) with
      | .ok place => .ok (ofParts true place)
      | .error .missing => .ok (ofParts true (absoluteParts fs.working path))
      | .error p => .error p.fault := by
  rw [resolve, FileSystem.workingPath, absolute_eq_ofParts sound.entries]
  exact follow_parts_ofParts (isEntry_of_mem_absoluteParts sound.entries path) ▸ rfl

include isRoot

theorem walk_absoluteParts :
    FileSystem.walk fs true FileSystem.maxLinks [] (absoluteParts fs.working root) = .ok place := by
  rw [← FileSystem.locate_ofParts fs true (isEntry_of_mem_absoluteParts sound.entries root),
    ← absolute_eq_ofParts sound.entries]
  exact isRoot.located

/-- The links of a path below a root are followed as those of the root, then on from there. -/
theorem exists_follow_below :
    ∃ left, ∀ names, follow fs maxLinks [] (absoluteParts fs.working root ++ names) =
      follow fs left place names :=
  exists_follow_of_walk (walk_absoluteParts sound isRoot) isRoot.directory 215

theorem resolve_root : resolve fs root = .ok (ofParts true place) := by
  obtain ⟨left, hleft⟩ := exists_follow_below sound isRoot
  have hroot := hleft []
  rw [List.append_nil, follow_nil] at hroot
  rw [resolve_eq sound, hroot]

theorem canonicalize_root (path : Text) :
    canonicalize fs path root = (resolve fs path).map (relativeTo (ofParts true place)) := by
  rw [canonicalize, resolve_root sound isRoot]
  cases resolve fs path <;> rfl

/-- A path below a root is known by its names iff it exists, or the root is reached through no
link and no file stands on the way. -/
theorem shownBelow_iff {names : List Text} (plain : PlainBelow fs place names) :
    ShownBelow fs root names ↔
      fs.node? (place ++ names) ≠ none ∨
        absolute fs.workingPath root = ofParts true place ∧ ¬ Blocked fs place names := by
  have hplace : ∀ name ∈ place, IsEntry name := by
    refine FileSystem.isEntry_of_walk (by simp) (fun name hname => ?_)
      (walk_absoluteParts sound isRoot)
    exact (isEntry_of_mem_absoluteParts sound.entries root name hname).slash_not_mem
  have hfull := isEntry_of_mem_absoluteParts sound.entries root
  obtain ⟨left, hleft⟩ := exists_follow_below sound isRoot
  rw [shownBelow_iff_canonicalize isRoot.ne_nil plain.ne_nil plain.entries,
    canonicalize_root sound isRoot, resolve_eq sound, below,
    absoluteParts_append isRoot.ne_nil plain.ne_nil plain.entries, hleft]
  rcases follow_below sound.rooted left isRoot.directory
    (fun name hname => (plain.entries name hname).toIsName) plain.noLink with
    ⟨⟨node, hnode⟩, hfollow⟩ | ⟨hnone, hblocked, hfollow⟩ | ⟨hnone, hfree, hfollow⟩
  · have hrelative := (relativeTo_eq_join_iff hplace hplace plain.entries plain.ne_nil).2 rfl
    rw [hfollow, hnode]
    simpa [Except.map] using hrelative
  · rw [hfollow, hnone]
    simp [Except.map, hblocked]
  · -- Nothing is there, so the root stands in the path as it was given.
    have hrelative := relativeTo_eq_join_iff hplace hfull plain.entries plain.ne_nil
    have hsame : absolute fs.workingPath root = ofParts true place ↔
        absoluteParts fs.working root = place := by
      rw [FileSystem.workingPath, absolute_eq_ofParts sound.entries]
      exact ⟨ofParts_injective hfull hplace, fun h => by rw [h]⟩
    rw [hfollow, hnone, hsame, ← hrelative]
    simp [Except.map, hfree]

end Root

/-- A project that is also reached through a link. -/
def linkedProject : FileSystem :=
  { nodes := [(["real"], .directory), (["real", "lib.rs"], .file "fn f() {}"),
      (["link"], .link "real")] }

theorem sound_linkedProject : Sound linkedProject where
  rooted := FileSystem.rooted_of_nodes (by decide)
  working := rfl
  entries := by simp [linkedProject]

theorem isRoot_linkedProject : IsRoot linkedProject "link" ["real"] where
  ne_nil := by decide
  located := by cbv
  directory := by cbv

theorem node?_linkedProject :
    linkedProject.node? ((["real"] : Place) ++ (["lib.rs"] : Place)) =
      some (.file "fn f() {}") := by
  cbv

theorem plainBelow_linkedProject : PlainBelow linkedProject ["real"] ["lib.rs"] where
  ne_nil := by simp
  entries name hname := by
    rw [List.mem_singleton.1 hname]
    exact ⟨⟨by decide, by decide, by decide⟩, by decide⟩
  noLink front rest target hsplit := by
    rcases List.append_eq_singleton_iff.1 hsplit.symm with ⟨rfl, -⟩ | ⟨rfl, -⟩
    · rw [List.append_nil, isRoot_linkedProject.directory]
      simp
    · rw [node?_linkedProject]
      simp

theorem linkedProject_shownBelow :
    Sound linkedProject ∧ IsRoot linkedProject "link" ["real"] ∧
      PlainBelow linkedProject ["real"] ["lib.rs"] ∧ ShownBelow linkedProject "link" ["lib.rs"] :=
  ⟨sound_linkedProject, isRoot_linkedProject, plainBelow_linkedProject,
    (shownBelow_iff sound_linkedProject isRoot_linkedProject plainBelow_linkedProject).2
      (.inl (by simp only [node?_linkedProject, ne_eq, reduceCtorEq, not_false_eq_true]))⟩

/-- A file that is not there yet is shown as if it were outside the root. -/
theorem linkedProject_new_file_outside :
    ¬ ShownBelow linkedProject "link" ["new.rs"] ∧
    canonicalize linkedProject "link/new.rs" "link" = .ok "../link/new.rs" ∧
    isWithin linkedProject "link/new.rs" "link" = false ∧
    display linkedProject "link/new.rs" "link" = "link/new.rs" := by
  have houtside : isWithin linkedProject "link/new.rs" "link" = false := by cbv
  refine ⟨fun shown => ?_, by cbv, houtside, by cbv⟩
  have hwithin := shown.within
  rw [show below "link" ["new.rs"] = "link/new.rs" by cbv, houtside] at hwithin
  cases hwithin

end DocScribe.Path
