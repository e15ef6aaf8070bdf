import DocScribe.Proofs.FileSystem.Walk
import DocScribe.Proofs.Text.Lines
import Mathlib.Data.List.Basic

/-!
# Directories of a path

`Free fs path` says that the path leads into a directory that has nothing by its last name; then a
longer last name leads into the same directory (`Free.exists_entry`). Making the directories of a
path leaves a file system in which the last of them is there (`stat_of_makeDirectories`); a cleaned
path does not end in a slash unless it is the root, so it is made as it is written.
-/

namespace DocScribe

namespace Path

theorem parts_append {path rest : Text} {front : List Text} {last : Text}
    (h : parts path = front ++ [last]) (hrest : Text.slash ∉ rest) :
    parts (path ++ rest) = front ++ [last ++ rest] := by
  have hfree : ∀ part ∈ front ++ [last], Text.slash ∉ part := by
    rw [← h]
    exact fun part hpart => Text.not_mem_of_mem_splitOnByte hpart
  have hpath : path = Text.join [Text.slash] (front ++ [last]) := by
    rw [← h, parts, Text.join_splitOnByte]
  have hlonger : path ++ rest = Text.join [Text.slash] (front ++ [last ++ rest]) := by
    rw [hpath, Text.join_concat, Text.join_concat, List.append_assoc]
  rw [hlonger, parts]
  refine Text.splitOnByte_join (by simp) fun part hpart => ?_
  rcases List.mem_append.1 hpart with hfront | hlast
  · exact hfree part (List.mem_append_left _ hfront)
  · rw [List.mem_singleton.1 hlast]
    exact fun hmem => (List.mem_append.1 hmem).elim (hfree last (by simp)) hrest

theorem exists_parts_eq_concat (path : Text) : ∃ front last, parts path = front ++ [last] :=
  ⟨_, _, (List.dropLast_concat_getLast (Text.splitOnByte_ne_nil Text.slash path)).symm⟩

/-- What a cleaned path is made of: parts that are not empty and have no slash. -/
def IsPart (part : Text) : Prop :=
  part ≠ [] ∧ Text.slash ∉ part

theorem isPart_of_mem_cleanStep {rooted : Bool} {done : List Text} {part : Text}
    (hdone : ∀ p ∈ done, IsPart p) (hpart : Text.slash ∉ part) :
    ∀ p ∈ cleanStep rooted done part, IsPart p := by
  have hcons : (part.isEmpty || part == ("." : Text)) ≠ true → ∀ p ∈ part :: done, IsPart p := by
    intro hne
    simp only [Bool.or_eq_true, List.isEmpty_iff, not_or, ne_eq] at hne
    exact List.forall_mem_cons.2 ⟨⟨hne.1, hpart⟩, hdone⟩
  unfold cleanStep
  split
  · exact hdone
  · next hne =>
    split
    · cases done with
      | nil =>
        cases rooted with
        | true => exact hdone
        | false => exact hcons hne
      | cons last rest =>
        dsimp only
        split
        · exact hcons hne
        · exact (List.forall_mem_cons.1 hdone).2
    · exact hcons hne

theorem isPart_of_mem_cleanParts {path part : Text} (h : part ∈ cleanParts path) :
    IsPart part := by
  have hfold : ∀ (names done : List Text), (∀ p ∈ done, IsPart p) →
      (∀ name ∈ names, Text.slash ∉ name) →
      ∀ p ∈ names.foldl (cleanStep (isAbsolute path)) done, IsPart p := by
    intro names
    induction names with
    | nil => exact fun done hdone _ => hdone
    | cons name names ih =>
      intro done hdone hnames
      obtain ⟨hname, hrest⟩ := List.forall_mem_cons.1 hnames
      exact ih _ (isPart_of_mem_cleanStep hdone hname) hrest
  refine hfold (parts path) [] (by simp) (fun name hname => ?_) part (List.mem_reverse.1 h)
  exact Text.not_mem_of_mem_splitOnByte hname

theorem getLast?_join_ne_slash {names : List Text} (hne : names ≠ [])
    (hnames : ∀ name ∈ names, IsPart name) :
    (Text.join [Text.slash] names).getLast? ≠ some Text.slash := by
  have hlast := hnames (names.getLast hne) (List.getLast_mem hne)
  rw [← List.dropLast_concat_getLast hne, Text.join_concat,
    List.getLast?_append_of_ne_nil _ hlast.1]
  exact fun h => hlast.2 (List.mem_of_getLast? h)

/-- A cleaned path is the root or does not end in a slash. -/
theorem getLast?_clean (path : Text) :
    clean path = [Text.slash] ∨ (clean path).getLast? ≠ some Text.slash := by
  have hparts : ∀ part ∈ cleanParts path, IsPart part := fun _ => isPart_of_mem_cleanParts
  rw [clean, ofParts]
  by_cases hnil : cleanParts path = []
  · rw [hnil]
    split
    · exact .inl rfl
    · exact .inr (by decide)
  · have hlast := getLast?_join_ne_slash hnil hparts
    refine .inr ?_
    split
    · obtain ⟨b, s, hcons⟩ := List.exists_cons_of_ne_nil
        (show Text.join [Text.slash] (cleanParts path) ≠ [] from fun h => by
          have hfirst := hparts _ (List.getLast_mem hnil)
          rw [← List.dropLast_concat_getLast hnil, Text.join_concat] at h
          exact hfirst.1 (List.append_eq_nil_iff.1 h).2)
      rw [hcons] at hlast
      rw [hcons, List.getLast?_cons_cons]
      exact hlast
    · rw [if_neg (by simpa using hnil)]
      exact hlast

theorem getLast?_directory (path : Text) :
    directory path = [Text.slash] ∨ (directory path).getLast? ≠ some Text.slash := by
  rw [directory]
  split
  · exact .inr (by decide)
  · exact .inr (by decide)
  · exact getLast?_clean _

end Path

namespace FileSystem

open DocScribe.Path (IsName isName_of_not)

theorem locate_of_ne_nil (fs : FileSystem) (follow : Bool) {path : Text} (h : path ≠ []) :
    fs.locate follow path = walk fs follow maxLinks
      (if Path.isAbsolute path then [] else fs.working) (Path.parts path) := by
  rw [locate, if_neg (by simpa using h)]

theorem ne_nil_of_locate {fs : FileSystem} {follow : Bool} {path : Text} {place : Place}
    (h : fs.locate follow path = .ok place) : path ≠ [] := by
  rintro rfl
  cases h

/-- The path leads into a directory that has nothing by its last name. -/
def Free (fs : FileSystem) (path : Text) : Prop :=
  ∃ place, fs.locate false path = .ok place ∧ fs.node? place = none

/-- Where a free path leads, and every path that goes on with its last name. -/
structure Entry (fs : FileSystem) (path : Text) (dir : Place) (last : Text) : Prop where
  directory : fs.node? dir = some .directory
  free : fs.node? (dir ++ [last]) = none
  isName : IsName last
  locate : ∀ fs' rest follow, Keeps fs fs' → fs'.working = fs.working → Text.slash ∉ rest →
    IsName (last ++ rest) →
    (follow = true → ∀ target, fs'.node? (dir ++ [last ++ rest]) ≠ some (.link target)) →
    fs'.locate follow (path ++ rest) = .ok (dir ++ [last ++ rest])

theorem Free.exists_entry {fs : FileSystem} (rooted : Rooted fs) {path : Text}
    (h : Free fs path) : ∃ dir last, Entry fs path dir last := by
  obtain ⟨place, hlocate, hfree⟩ := h
  have hpath := ne_nil_of_locate hlocate
  obtain ⟨front, last, hparts⟩ := Path.exists_parts_eq_concat path
  rw [locate_of_ne_nil fs false hpath, hparts] at hlocate
  obtain ⟨dir, rfl, leads⟩ := walk_sibling rooted hlocate hfree
  refine ⟨dir, last, leads.directory, hfree, leads.isName, ?_⟩
  intro fs' rest follow keeps hworking hrest hname hend
  have habsolute : Path.isAbsolute (path ++ rest) = Path.isAbsolute path := by
    obtain ⟨b, s, rfl⟩ := List.exists_cons_of_ne_nil hpath
    rfl
  rw [locate_of_ne_nil fs' follow (by simp [hpath]), habsolute, hworking,
    Path.parts_append hparts hrest]
  exact leads.sibling fs' (last ++ rest) follow keeps hname hend

theorem Entry.locate_self {fs : FileSystem} {path : Text} {dir : Place} {last : Text}
    (entry : Entry fs path dir last) {fs' : FileSystem} (keeps : Keeps fs fs')
    (hworking : fs'.working = fs.working) {follow : Bool}
    (hend : follow = true → ∀ target, fs'.node? (dir ++ [last]) ≠ some (.link target)) :
    fs'.locate follow path = .ok (dir ++ [last]) := by
  have h := entry.locate fs' [] follow keeps hworking List.not_mem_nil
  rw [List.append_nil, List.append_nil] at h
  exact h entry.isName hend

/-! Making directories. -/

theorem trimSlashes_eq_self {path : Text} (h : path.getLast? ≠ some Text.slash) :
    trimSlashes path = path := by
  rw [trimSlashes]
  rcases List.eq_nil_or_concat path with rfl | ⟨front, last, rfl⟩
  · rfl
  · rw [List.concat_eq_append, List.getLast?_append_cons] at h
    have hlast : (last == Text.slash) = false := by
      rw [beq_eq_false_iff_ne]
      exact fun heq => h (by rw [heq]; rfl)
    simp [hlast]

theorem keeps_put {fs : FileSystem} {place : Place} (hne : place ≠ [])
    (hfree : fs.node? place = none) (node : FileNode) : Keeps fs (fs.put place node) := by
  intro other found h _
  rw [fs.node?_put hne, if_neg, h]
  rintro rfl
  rw [hfree] at h
  cases h

/-- A directory that is made was there before, or stands at a free place of another directory. -/
theorem makeDirectory_cases {fs made : FileSystem} (rooted : Rooted fs) {path : Text}
    (h : fs.makeDirectory path = .ok made) :
    (made = fs ∧ ∃ place, fs.locate false (trimSlashes path) = .ok place ∧
      fs.node? place = some .directory) ∨
    ∃ dir last, Entry fs (trimSlashes path) dir last ∧
      made = fs.put (dir ++ [last]) .directory := by
  rw [makeDirectory] at h
  split at h
  · cases h
  · next place hplace =>
    split at h
    · next hdir =>
      cases h
      exact .inl ⟨rfl, place, hplace, hdir⟩
    · cases h
    · next hfree =>
      cases h
      have free : Free fs (trimSlashes path) := ⟨place, hplace, hfree⟩
      obtain ⟨dir, last, entry⟩ := free.exists_entry rooted
      have hself : fs.locate false (trimSlashes path) = .ok (dir ++ [last]) :=
        entry.locate_self (Keeps.refl fs) rfl (by simp)
      rw [hplace] at hself
      rw [Except.ok.inj hself]
      exact .inr ⟨dir, last, entry, rfl⟩

theorem Rooted.makeDirectory {fs made : FileSystem} (rooted : Rooted fs) {path : Text}
    (h : fs.makeDirectory path = .ok made) : Rooted made := by
  rcases makeDirectory_cases rooted h with ⟨rfl, -⟩ | ⟨dir, last, entry, rfl⟩
  · exact rooted
  · exact rooted.put entry.directory entry.free .directory

theorem stat_of_makeDirectory {fs made : FileSystem} (rooted : Rooted fs) {path : Text}
    (hpath : trimSlashes path = path) (h : fs.makeDirectory path = .ok made) :
    made.stat path = .ok .directory := by
  rcases makeDirectory_cases rooted h with ⟨rfl, place, hplace, hdir⟩ | ⟨dir, last, entry, rfl⟩
  · rw [hpath] at hplace
    have hpath := ne_nil_of_locate hplace
    rw [locate_of_ne_nil made false hpath] at hplace
    rw [stat, locate_of_ne_nil made true hpath, walk_directory (Keeps.refl made) hplace hdir]
    dsimp only
    rw [hdir]
  · rw [hpath] at entry
    have hne : dir ++ [last] ≠ [] := by simp
    have hnode : (fs.put (dir ++ [last]) .directory).node? (dir ++ [last]) = some .directory := by
      rw [fs.node?_put hne, if_pos rfl]
    rw [stat, entry.locate_self (keeps_put hne entry.free _) rfl (by rw [hnode]; simp)]
    dsimp only
    rw [hnode]

theorem Rooted.makeAll {fs made : FileSystem} (rooted : Rooted fs) {paths : List Text}
    (h : fs.makeAll paths = .ok made) : Rooted made := by
  induction paths generalizing fs with
  | nil =>
    cases h
    exact rooted
  | cons path paths ih =>
    rw [FileSystem.makeAll] at h
    split at h
    · exact ih rooted h
    · cases h
    · split at h
      · cases h
      · next next hnext => exact ih (rooted.makeDirectory hnext) h

theorem stat_of_makeAll {fs made : FileSystem} (rooted : Rooted fs) {paths : List Text}
    {path : Text} (hpath : trimSlashes path = path) (h : fs.makeAll (paths ++ [path]) = .ok made) :
    made.stat path = .ok .directory := by
  induction paths generalizing fs with
  | nil =>
    rw [List.nil_append, makeAll] at h
    split at h
    · next hthere =>
      cases h
      exact hthere
    · cases h
    · split at h
      · cases h
      · next next hnext =>
        cases h
        exact stat_of_makeDirectory rooted hpath hnext
  | cons first paths ih =>
    rw [List.cons_append, makeAll] at h
    split at h
    · exact ih rooted h
    · cases h
    · split at h
      · cases h
      · next next hnext => exact ih (rooted.makeDirectory hnext) h

theorem stat_root (fs : FileSystem) : fs.stat [Text.slash] = .ok .directory := by
  have hparts : Path.parts [Text.slash] = [[], []] := rfl
  have habsolute : Path.isAbsolute [Text.slash] = true := rfl
  have hplace : fs.locate true [Text.slash] = .ok [] := by
    rw [locate_of_ne_nil fs true (List.cons_ne_nil _ _), hparts, if_pos habsolute,
      walk_here fs.node?_nil rfl, walk_here fs.node?_nil rfl, walk.eq_def]
  rw [stat, hplace]
  rfl

/-- Made directories are there, and the file system stays rooted. -/
theorem stat_of_makeDirectories {fs made : FileSystem} (rooted : Rooted fs) {path : Text}
    (h : fs.makeDirectories (Path.directory path) = .ok made) :
    Rooted made ∧ made.stat (Path.directory path) = .ok .directory := by
  rw [makeDirectories] at h
  split at h
  · next hthere =>
    cases h
    exact ⟨rooted, hthere⟩
  · cases h
  · next problem hstat =>
    refine ⟨rooted.makeAll h, ?_⟩
    rcases Path.getLast?_directory path with hroot | hlast
    · -- The root is always there.
      rw [hroot, stat_root] at hstat
      cases hstat
    · exact stat_of_makeAll rooted (trimSlashes_eq_self hlast) h

end FileSystem

end DocScribe
