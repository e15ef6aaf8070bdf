import DocScribe.Proofs.FileSystem.Directory

/-!
# What file operations do

Writing a file puts it at the place that its path leads to, and keeps the directories and links of
the file system (`exists_of_writeFile`), so paths lead where they led before (`Keeps.locate`). A
node that is no directory is renamed by moving it, unless the target is a directory or cannot be
reached (`rename_eq_move`, `exists_rename_eq_error`).
-/

namespace DocScribe.FileSystem

theorem directory_of_walk {fs : FileSystem} {follow : Bool} {links : Nat} {place target : Place}
    {names : List Text} (hnames : names ≠ [])
    (h : walk fs follow links place names = .ok target) :
    fs.node? place = some .directory := by
  obtain ⟨name, rest, rfl⟩ := List.exists_cons_of_ne_nil hnames
  cases hnode : fs.node? place with
  | none =>
    rw [walk.eq_def, hnode] at h
    cases h
  | some node =>
    by_cases hdir : node = .directory
    · rw [hdir]
    · exact absurd h (ne_directory_of_error hnode hdir follow links name rest target)

/-- A path leads to the same place in every file system that keeps what is on its way. -/
theorem Keeps.locate {fs fs' : FileSystem} (keeps : Keeps fs fs')
    (hworking : fs'.working = fs.working) {follow : Bool} {path : Text} {place : Place}
    (h : fs.locate follow path = .ok place)
    (hend : follow = true → ∀ text, fs'.node? place ≠ some (.link text)) :
    fs'.locate follow path = .ok place := by
  have hpath := ne_nil_of_locate h
  rw [locate_of_ne_nil fs follow hpath] at h
  rw [locate_of_ne_nil fs' follow hpath, hworking]
  exact walk_keeps keeps id h hend

/-- A path that does not end at a link leads to the same place whether or not links are followed. -/
theorem locate_follow {fs : FileSystem} {path : Text} {place : Place}
    (h : fs.locate false path = .ok place) (hend : ∀ text, fs.node? place ≠ some (.link text)) :
    fs.locate true path = .ok place := by
  have hpath := ne_nil_of_locate h
  rw [locate_of_ne_nil fs false hpath] at h
  rw [locate_of_ne_nil fs true hpath]
  exact walk_keeps (Keeps.refl fs) (fun _ => rfl) h fun _ => hend

/-- Where a path leads when links are followed. -/
theorem locate_target {fs : FileSystem} (rooted : Rooted fs) {path : Text} {place : Place}
    (h : fs.locate true path = .ok place) :
    fs.node? place = some .directory ∨ (∃ content, fs.node? place = some (.file content)) ∨
      fs.node? place = none ∧ fs.node? place.dropLast = some .directory := by
  rw [locate_of_ne_nil fs true (ne_nil_of_locate h)] at h
  have hparts : Path.parts path ≠ [] := Text.splitOnByte_ne_nil Text.slash path
  exact walk_target rooted (directory_of_walk hparts h) h

/-- A file that was written stands where its path leads, and no directory or link was there. -/
structure Written (fs : FileSystem) (path content : Text) (place : Place) (after : FileSystem) :
    Prop where
  located : fs.locate true path = .ok place
  node : ∀ q, after.node? q = if q = place then some (.file content) else fs.node? q
  working : after.working = fs.working
  rooted : Rooted after
  keeps : Keeps fs after

theorem exists_of_writeFile {fs after : FileSystem} (rooted : Rooted fs) {path content : Text}
    (h : fs.writeFile path content = .ok after) :
    ∃ place, Written fs path content place after := by
  rw [writeFile, writablePlace] at h
  split at h
  · cases h
  · next place hplace =>
    split at h
    · cases h
    · next hnode =>
      cases h
      have hnone : place ≠ [] := by
        rintro rfl
        exact hnode fs.node?_nil
      have hkept : fs.node? place = none ∨ ∃ old, fs.node? place = some (.file old) := by
        rcases locate_target rooted hplace with hdir | hfile | ⟨hfree, -⟩
        · exact absurd hdir hnode
        · exact .inr hfile
        · exact .inl hfree
      have habove : fs.node? place.dropLast = some .directory := by
        rcases locate_target rooted hplace with hdir | ⟨old, hfile⟩ | ⟨-, habove⟩
        · exact absurd hdir hnode
        · exact rooted place _ hfile
        · exact habove
      refine ⟨place, hplace, fs.node?_put hnone _, rfl,
        rooted.replace hnone habove hnode _, fun q found hq hfile => ?_⟩
      rw [fs.node?_put hnone, if_neg, hq]
      rintro rfl
      rcases hkept with hfree | ⟨old, hold⟩
      · rw [hfree] at hq
        cases hq
      · rw [hold] at hq
        exact hfile old (Option.some.inj hq).symm

/-- What stands where the path of a written file leads: a link to it, or the file itself. -/
theorem Written.exists_node {fs after : FileSystem} {path content : Text} {place entry : Place}
    (written : Written fs path content place after) (h : fs.locate false path = .ok entry) :
    ∃ node, after.node? entry = some node ∧ node ≠ .directory := by
  by_cases hlink : ∃ text, fs.node? entry = some (.link text)
  · obtain ⟨text, hlink⟩ := hlink
    exact ⟨.link text, written.keeps.link hlink, by simp⟩
  · have hplace := locate_follow h (fun text htext => hlink ⟨text, htext⟩)
    rw [written.located] at hplace
    refine ⟨.file content, ?_, by simp⟩
    rw [written.node, if_pos (Except.ok.inj hplace).symm]

/-- Nothing stands below a node that is no directory. -/
theorem Rooted.alone {fs : FileSystem} (rooted : Rooted fs) {place : Place}
    (h : fs.node? place ≠ some .directory) (rest : Place) (hrest : rest ≠ []) :
    fs.node? (place ++ rest) = none := by
  by_contra hsome
  obtain ⟨node, hnode⟩ := Option.ne_none_iff_exists'.1 hsome
  exact h (rooted.node?_of_append hrest hnode)

section Rename

variable {fs : FileSystem} {source target : Text} {old : Place} {node : FileNode}
  (hsource : fs.locate false source = .ok old) (hold : fs.node? old = some node)
include hsource hold

theorem linkStat_of_locate : fs.linkStat source = .ok node := by
  rw [linkStat, hsource]
  dsimp only
  rw [hold]

theorem remove_eq_erase (hnode : node ≠ .directory) : fs.remove source = .ok (fs.erase old) := by
  rw [remove, hsource]
  dsimp only
  rw [hold]
  cases node with
  | directory => exact absurd rfl hnode
  | _ => rfl

theorem rename_eq_move (hnode : node ≠ .directory) {new : Place}
    (htarget : fs.locate false target = .ok new) (hnew : fs.node? new ≠ some .directory)
    (hne : old ≠ new) : fs.rename source target = .ok (fs.move old new) := by
  have hplaces : (old == new) = false := beq_eq_false_iff_ne.2 hne
  rw [rename, linkStat_of_locate hsource hold, linkStat, htarget, hsource]
  dsimp only
  cases hfound : fs.node? new with
  | none =>
    dsimp only
    rw [hplaces, if_neg Bool.false_ne_true]
    cases node <;> rfl
  | some found =>
    cases found with
    | directory => exact absurd hfound hnew
    | _ =>
      dsimp only
      rw [hplaces, if_neg Bool.false_ne_true]
      cases node with
      | directory => exact absurd rfl hnode
      | _ => rfl

theorem exists_rename_eq_error (h : fs.linkStat target = .ok .directory ∨
    ∃ problem, fs.locate false target = .error problem) :
    ∃ fault, fs.rename source target = .error fault := by
  rw [rename, linkStat_of_locate hsource hold]
  rcases h with h | ⟨problem, h⟩
  · rw [h]
    exact ⟨_, rfl⟩
  · rw [linkStat, h, hsource]
    exact ⟨_, rfl⟩

end Rename

end DocScribe.FileSystem
