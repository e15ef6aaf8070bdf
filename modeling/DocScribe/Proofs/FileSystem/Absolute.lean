import DocScribe.Proofs.FileSystem.Operation
import DocScribe.Proofs.FileSystem.Sound
import DocScribe.Proofs.Path.Relative

/-!
# A path and its absolute form

In a sound file system no link stands on the way to the working directory, so going up from it and
starting at the root lead to the same place. A clean path and its absolute form are located alike
(`locate_absolute`).
-/

namespace DocScribe.FileSystem

open DocScribe.Path (IsEntry IsName IsClean)

/-! Walks through directories. -/

/-- A directory is reached from one above it by its names. -/
theorem walk_down {fs : FileSystem} (rooted : Rooted fs) (follow : Bool) (links : Nat)
    {place names : Place} (hnames : ∀ name ∈ names, IsName name)
    (hdir : fs.node? (place ++ names) = some .directory) (rest : List Text) :
    walk fs follow links place (names ++ rest) = walk fs follow links (place ++ names) rest := by
  induction names generalizing place with
  | nil => rw [List.append_nil, List.nil_append]
  | cons name names ih =>
    obtain ⟨hname, htail⟩ := List.forall_mem_cons.1 hnames
    have hplace : fs.node? place = some .directory :=
      rooted.node?_of_append (List.cons_ne_nil name names) hdir
    rw [List.append_cons] at hdir ⊢
    have hnext : fs.node? (place ++ [name]) = some .directory := by
      by_cases hend : names = []
      · rwa [hend, List.append_nil] at hdir
      · exact rooted.node?_of_append hend hdir
    rw [List.cons_append, walk_into hplace hname hnext]
    exact ih htail hdir

/-- Going up from a directory and starting at the root lead to the same place. -/
theorem walk_absolute {fs : FileSystem} (rooted : Rooted fs) (follow : Bool) (links : Nat)
    {names : List Text} (clean : IsClean names) {place : Place}
    (hdir : fs.node? place = some .directory) (hplace : ∀ name ∈ place, IsEntry name) :
    walk fs follow links place names =
      walk fs follow links [] (names.foldl (Path.cleanStep true) place.reverse).reverse := by
  induction clean generalizing place with
  | down entries =>
    have hnames : ∀ name ∈ place, IsName name := fun name hname => (hplace name hname).toIsName
    rw [Path.foldl_cleanStep entries, List.reverse_append, List.reverse_reverse,
      List.reverse_reverse, walk_down rooted follow links hnames (by rwa [List.nil_append])]
    rfl
  | up clean ih =>
    have hstep : Path.cleanStep true place.reverse ".." = place.dropLast.reverse := by
      rw [← List.tail_reverse]
      exact Path.cleanStep_up fun name hname => hplace name (List.mem_reverse.1 hname)
    rw [walk_up hdir rfl, List.foldl_cons, hstep]
    exact ih (rooted place _ hdir) fun name hname =>
      hplace name (List.dropLast_subset place hname)

/-- A clean path is located where its absolute form is. -/
theorem locate_absolute {fs : FileSystem} (sound : Sound fs) (follow : Bool) (path : Text) :
    fs.locate follow (Path.clean path) =
      fs.locate follow (Path.absolute fs.workingPath (Path.clean path)) := by
  rw [workingPath, Path.absolute_eq_ofParts sound.entries,
    locate_ofParts fs follow (Path.isEntry_of_mem_absoluteParts sound.entries _)]
  cases habsolute : Path.isAbsolute path with
  | true =>
    have entries := Path.cleanParts_of_isAbsolute habsolute
    have hpath : Path.clean path = Path.ofParts true (Path.cleanParts path) := by
      rw [Path.clean, habsolute]
    rw [hpath, locate_ofParts fs follow entries, Path.absoluteParts,
      show Path.isAbsolute (Path.ofParts true (Path.cleanParts path)) = true from rfl, if_pos rfl,
      Path.foldl_parts_ofParts entries, List.append_nil, List.reverse_reverse]
  | false =>
    have clean := Path.isClean_cleanParts habsolute
    have hpath : Path.clean path = Path.ofParts false (Path.cleanParts path) := by
      rw [Path.clean, habsolute]
    have hrelative : Path.isAbsolute (Path.ofParts false (Path.cleanParts path)) = false :=
      clean.isAbsolute_ofParts
    rw [locate_of_ne_nil fs follow (Path.clean_ne_nil path), hpath, Path.absoluteParts, hrelative,
      if_neg Bool.false_ne_true, if_neg Bool.false_ne_true, clean.foldl_parts,
      ← walk_absolute sound.rooted follow maxLinks clean sound.working sound.entries]
    by_cases hne : Path.cleanParts path = []
    · rw [hne]
      exact walk_here sound.working rfl
    · rw [clean.parts_ofParts hne]

/-! Soundness is kept. -/

theorem Sound.put {fs : FileSystem} (sound : Sound fs) {dir : Place} {name : Text}
    (hdir : fs.node? dir = some .directory) (hfree : fs.node? (dir ++ [name]) = none)
    (node : FileNode) : Sound (fs.put (dir ++ [name]) node) where
  rooted := sound.rooted.put hdir hfree node
  working := keeps_put (by simp) hfree node _ _ sound.working (by simp)
  entries := sound.entries

theorem Sound.makeDirectory {fs made : FileSystem} (sound : Sound fs) {path : Text}
    (h : fs.makeDirectory path = .ok made) : Sound made := by
  rcases makeDirectory_cases sound.rooted h with ⟨rfl, -⟩ | ⟨dir, last, entry, rfl⟩
  · exact sound
  · exact sound.put entry.directory entry.free .directory

theorem Sound.makeAll {fs made : FileSystem} (sound : Sound fs) {paths : List Text}
    (h : fs.makeAll paths = .ok made) : Sound made := by
  induction paths generalizing fs with
  | nil =>
    cases h
    exact sound
  | cons path paths ih =>
    rw [FileSystem.makeAll] at h
    split at h
    · exact ih sound h
    · cases h
    · split at h
      · cases h
      · next next hnext => exact ih (sound.makeDirectory hnext) h

theorem Sound.makeDirectories {fs made : FileSystem} (sound : Sound fs) {path : Text}
    (h : fs.makeDirectories path = .ok made) : Sound made := by
  rw [FileSystem.makeDirectories] at h
  split at h
  · cases h
    exact sound
  · cases h
  · exact sound.makeAll h

theorem Sound.written {fs after : FileSystem} (sound : Sound fs) {path content : Text}
    {place : Place} (written : Written fs path content place after) : Sound after where
  rooted := written.rooted
  working := by
    rw [written.working]
    exact written.keeps.directory sound.working
  entries := by
    rw [written.working]
    exact sound.entries

/-- A written file is read at its path. -/
theorem Written.stat {fs after : FileSystem} {path content : Text} {place : Place}
    (written : Written fs path content place after) : after.stat path = .ok (.file content) := by
  have hnode : after.node? place = some (.file content) := by rw [written.node, if_pos rfl]
  have hplace := written.keeps.locate written.working written.located
    fun _ text => by rw [hnode]; simp
  rw [FileSystem.stat, hplace]
  dsimp only
  rw [hnode]

theorem stat_absolute {fs : FileSystem} (sound : Sound fs) (path : Text) :
    fs.stat (Path.absolute fs.workingPath (Path.clean path)) = fs.stat (Path.clean path) := by
  rw [FileSystem.stat, FileSystem.stat, locate_absolute sound true path]

end DocScribe.FileSystem
