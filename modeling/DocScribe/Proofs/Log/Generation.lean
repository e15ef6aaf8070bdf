import DocScribe.Log.Rotation
import DocScribe.Proofs.Fault.Marks
import DocScribe.Proofs.FileSystem.Directory
import DocScribe.Proofs.Number.Digits
import Mathlib.Logic.Function.Basic

/-!
# Generations of a log

Generation 0 of a log is its file, generation `i` its backup of number `i`. Where none of them was
there at first, all of them stand in one directory (`Site`), and a file system is described by the
records that each generation holds (`Holds`). Every operation of a rotation then updates that
description: making room moves each generation up by one and drops the oldest (`Holds.makeRoom`).
-/

namespace DocScribe.Log

open FileSystem
open DocScribe.Path (IsName)

/-- What the path of a generation has after the path of the log. -/
def generationSuffix : Nat → Text
  | 0 => []
  | i + 1 => 0x2e :: Number.decimal (i + 1)

/-- The path of a generation of a log. -/
def generation (path : Text) (i : Nat) : Text :=
  path ++ generationSuffix i

@[simp] theorem generation_zero (path : Text) : generation path 0 = path :=
  List.append_nil path

theorem RotatingFile.backupPath_eq_generation (file : RotatingFile) (i : Nat) :
    file.backupPath (i + 1 : Nat) = generation file.path (i + 1) := rfl

theorem slash_not_mem_generationSuffix (i : Nat) : Text.slash ∉ generationSuffix i := by
  cases i with
  | zero => exact List.not_mem_nil
  | succ i =>
    rw [generationSuffix, List.mem_cons, not_or]
    exact ⟨by decide, Number.not_mem_decimal (by decide) (i + 1)⟩

theorem generationSuffix_injective {i j : Nat} (h : generationSuffix i = generationSuffix j) :
    i = j := by
  cases i with
  | zero =>
    cases j with
    | zero => rfl
    | succ j => cases h
  | succ i =>
    cases j with
    | zero => cases h
    | succ j => exact Number.decimal_injective (List.cons.inj h).2

/-- A backup is named, because its name has at least three bytes. -/
theorem isName_append_generationSuffix {last : Text} (h : IsName last) (i : Nat) :
    IsName (last ++ generationSuffix i) := by
  cases i with
  | zero =>
    rw [generationSuffix, List.append_nil]
    exact h
  | succ i =>
    have hlast := List.length_pos_of_ne_nil h.ne_nil
    have hdigits := List.length_pos_of_ne_nil (Number.decimal_ne_nil (i + 1))
    have hlength : 2 < (last ++ generationSuffix (i + 1)).length := by
      rw [List.length_append, generationSuffix, List.length_cons]
      omega
    constructor <;> intro heq <;> rw [heq] at hlength <;> exact absurd hlength (by decide)

/-- A directory for a log, in which no generation of it exists. -/
structure Site where
  base : FileSystem
  path : Text
  dir : Place
  last : Text
  rooted : Rooted base
  entry : Entry base path dir last
  free : ∀ i, base.node? (dir ++ [last ++ generationSuffix i]) = none
  there : base.stat (Path.directory path) = .ok .directory

/-- Where nothing stands at the path of any generation, there is room for the log. -/
theorem exists_site {base : FileSystem} {path : Text} (rooted : Rooted base)
    (there : base.stat (Path.directory path) = .ok .directory)
    (free : ∀ i, Free base (generation path i)) :
    ∃ site : Site, site.base = base ∧ site.path = path := by
  have hfree := free 0
  rw [generation_zero] at hfree
  obtain ⟨dir, last, entry⟩ := hfree.exists_entry rooted
  refine ⟨⟨base, path, dir, last, rooted, entry, fun i => ?_, there⟩, rfl, rfl⟩
  obtain ⟨place, hplace, hnode⟩ := free i
  have hlocate := entry.locate base (generationSuffix i) false (Keeps.refl base) rfl
    (slash_not_mem_generationSuffix i) (isName_append_generationSuffix entry.isName i) (by simp)
  rw [generation, hlocate] at hplace
  rw [Except.ok.inj hplace]
  exact hnode

namespace Site

variable (site : Site)

/-- The place of a generation. -/
def slot (i : Nat) : Place :=
  site.dir ++ [site.last ++ generationSuffix i]

theorem slot_ne_nil (i : Nat) : site.slot i ≠ [] := by
  simp [slot]

theorem slot_injective : Function.Injective site.slot := by
  intro i j h
  have hname := List.singleton_inj.1 (List.append_cancel_left h)
  exact generationSuffix_injective (List.append_cancel_left hname)

theorem below_slot_ne {rest : Place} (h : rest ≠ []) (i j : Nat) :
    site.slot i ++ rest ≠ site.slot j := by
  intro heq
  have hlength := congrArg List.length heq
  simp only [slot, List.length_append, List.length_singleton] at hlength
  exact h (List.eq_nil_of_length_eq_zero (by omega))

end Site

/-! What the generations hold, and how it moves. -/

/-- The records in each generation that exists. -/
abbrev Cells := Nat → Option (List Text)

/-- Generation `i` becomes generation `j`. -/
def moved (cells : Cells) (i j : Nat) : Cells :=
  Function.update (Function.update cells i none) j (cells i)

theorem moved_eq_self {cells : Cells} {i j : Nat} (hi : cells i = none)
    (hj : cells j = none) : moved cells i j = cells := by
  have hsame : Function.update cells i none = cells := Function.update_eq_self_iff.2 hi.symm
  rw [moved, hsame]
  exact Function.update_eq_self_iff.2 (hi.trans hj.symm)

/-- The backups from the first to number `n` have moved up by one. -/
def shifted (cells : Cells) (n : Nat) : Cells :=
  fun j => if j = 1 then none else if 1 < j ∧ j ≤ n + 1 then cells (j - 1) else cells j

theorem shifted_succ (cells : Cells) (n : Nat) :
    shifted (moved cells (n + 1) (n + 2)) n = shifted cells (n + 1) := by
  funext j
  simp only [shifted, moved, Function.update_apply]
  grind

/-- Every generation has moved up by one, of which `m` are kept. -/
def rolled (cells : Cells) (m : Nat) : Cells
  | 0 => none
  | j + 1 => if j < m then cells j else none

/-- A rotation in three steps: the oldest backup goes, the others shift, the file becomes the
first. -/
theorem moved_shifted_eq_rolled {cells : Cells} {m : Nat}
    (hcells : ∀ i, m + 1 < i → cells i = none) :
    moved (shifted (Function.update cells (m + 1) none) m) 0 1 = rolled cells (m + 1) := by
  funext j
  rcases j with - | - | j
  · rfl
  · simp [moved, shifted, rolled]
  · have hbeyond := hcells (j + 2)
    simp only [moved, shifted, rolled, Function.update_apply]
    grind

/-- A file system that differs from the one of the site in the generations of the log, which hold
these records, if they exist. -/
structure Holds (site : Site) (cells : Cells) (fs : FileSystem) : Prop where
  working : fs.working = site.base.working
  node : ∀ i, fs.node? (site.slot i) = (cells i).map fun records => .file records.flatten
  other : ∀ place, (∀ i, place ≠ site.slot i) → fs.node? place = site.base.node? place

theorem Site.holds (site : Site) : Holds site (fun _ => none) site.base :=
  ⟨rfl, site.free, fun _ _ => rfl⟩

namespace Holds

variable {site : Site} {cells : Cells} {fs : FileSystem}
  (holds : Holds site cells fs)
include holds

theorem keeps : Keeps site.base fs := by
  intro place node hnode _
  rw [holds.other place, hnode]
  rintro i rfl
  rw [Site.slot, site.free i] at hnode
  cases hnode

theorem locate (follow : Bool) (i : Nat) :
    fs.locate follow (generation site.path i) = .ok (site.slot i) := by
  refine site.entry.locate fs (generationSuffix i) follow holds.keeps holds.working
    (slash_not_mem_generationSuffix i) (isName_append_generationSuffix site.entry.isName i) ?_
  intro _ target hlink
  have hnode := holds.node i
  rw [Site.slot, hlink] at hnode
  cases hcell : cells i with
  | none => rw [hcell] at hnode; cases hnode
  | some records => rw [hcell] at hnode; cases hnode

theorem alone (i : Nat) (rest : Place) (hrest : rest ≠ []) :
    fs.node? (site.slot i ++ rest) = none := by
  rw [holds.other _ (site.below_slot_ne hrest i)]
  exact site.rooted.node?_eq_none (site.free i) rest

theorem makeDirectories : fs.makeDirectories (Path.directory site.path) = .ok fs := by
  have hthere : fs.stat (Path.directory site.path) = .ok .directory := by
    have hbase := site.there
    rw [FileSystem.stat] at hbase
    split at hbase
    · cases hbase
    · next place hplace =>
      split at hbase
      · next node hnode =>
        obtain rfl := Except.ok.inj hbase
        have hpath := ne_nil_of_locate hplace
        rw [locate_of_ne_nil site.base true hpath] at hplace
        rw [FileSystem.stat, locate_of_ne_nil fs true hpath, holds.working,
          walk_directory holds.keeps hplace hnode]
        dsimp only
        rw [holds.keeps.directory hnode]
      · cases hbase
  rw [FileSystem.makeDirectories, hthere]

/-- One generation changes and nothing else. -/
theorem update {after : FileSystem} (i : Nat) (cell : Option (List Text))
    (hnode : ∀ q, after.node? q =
      if q = site.slot i then cell.map fun records => .file records.flatten else fs.node? q)
    (hworking : after.working = fs.working) :
    Holds site (Function.update cells i cell) after := by
  refine ⟨hworking.trans holds.working, fun j => ?_, fun place hplace => ?_⟩
  · by_cases hj : j = i
    · rw [hnode, hj, if_pos rfl, Function.update_self]
    · rw [hnode, if_neg (site.slot_injective.ne hj), holds.node, Function.update_of_ne hj]
  · rw [hnode, if_neg (hplace i), holds.other place hplace]

theorem put (i : Nat) (records : List Text) :
    Holds site (Function.update cells i (some records))
      (fs.put (site.slot i) (.file records.flatten)) :=
  holds.update i (some records) (fs.node?_put (site.slot_ne_nil i) _) rfl

theorem erase (i : Nat) :
    Holds site (Function.update cells i none) (fs.erase (site.slot i)) :=
  holds.update i none (fs.node?_erase (site.slot_ne_nil i)) rfl

theorem move {i j : Nat} (hne : i ≠ j) :
    Holds site (moved cells i j) (fs.move (site.slot i) (site.slot j)) := by
  refine (holds.erase i).update j (cells i) (fun q => ?_) rfl
  rw [fs.node?_move (site.slot_ne_nil i) (site.slot_ne_nil j) (site.slot_injective.ne hne)
    (holds.alone i), fs.node?_erase (site.slot_ne_nil i), holds.node]

theorem stat (i : Nat) :
    fs.stat (generation site.path i) =
      match cells i with
      | some records => .ok (.file records.flatten)
      | none => .error .missing := by
  rw [FileSystem.stat, holds.locate]
  dsimp only
  rw [holds.node]
  cases cells i <;> rfl

theorem linkStat (i : Nat) :
    fs.linkStat (generation site.path i) =
      match cells i with
      | some records => .ok (.file records.flatten)
      | none => .error .missing := by
  rw [FileSystem.linkStat, holds.locate]
  dsimp only
  rw [holds.node]
  cases cells i <;> rfl

theorem hasPath (i : Nat) : fs.hasPath (generation site.path i) = (cells i).isSome := by
  rw [FileSystem.hasPath, holds.stat]
  cases cells i <;> rfl

theorem remove_of_some {i : Nat} {records : List Text} (hcell : cells i = some records) :
    fs.remove (generation site.path i) = .ok (fs.erase (site.slot i)) := by
  rw [FileSystem.remove, holds.locate]
  dsimp only
  rw [holds.node, hcell]
  rfl

theorem remove_of_none {i : Nat} (hcell : cells i = none) :
    fs.remove (generation site.path i) =
      .error (.file "remove" (generation site.path i) .missing) := by
  rw [FileSystem.remove, holds.locate]
  dsimp only
  rw [holds.node, hcell]
  rfl

theorem rename_of_some {i j : Nat} (hne : i ≠ j) {records : List Text}
    (hcell : cells i = some records) :
    fs.rename (generation site.path i) (generation site.path j) =
      .ok (fs.move (site.slot i) (site.slot j)) := by
  have hslots : (site.slot i == site.slot j) = false :=
    beq_eq_false_iff_ne.2 (site.slot_injective.ne hne)
  rw [FileSystem.rename, holds.linkStat, holds.linkStat, hcell, holds.locate, holds.locate]
  cases cells j <;> simp [hslots]

theorem rename_of_none {i : Nat} (hcell : cells i = none) (target : Text) :
    fs.rename (generation site.path i) target =
      .error (renameFault (generation site.path i) target .missing) := by
  rw [FileSystem.rename, holds.linkStat, hcell]

theorem contentAt (i : Nat) : fs.contentAt (site.slot i) = ((cells i).getD []).flatten := by
  rw [FileSystem.contentAt, holds.node]
  cases cells i <;> rfl

/-! The operations of a rotation. -/

section Rotation

open RotatingFile

theorem remove (i : Nat) : ∃ after, Holds site (Function.update cells i none) after ∧
    (fs.remove (generation site.path i) = .ok after ∨
      after = fs ∧ ∃ f, fs.remove (generation site.path i) = .error f ∧ f.isMissing = true) := by
  cases hcell : cells i with
  | none =>
    rw [holds.remove_of_none hcell, Function.update_eq_self_iff.2 hcell.symm]
    exact ⟨fs, holds, .inr ⟨rfl, _, rfl, Fault.isMissing_file_missing _ _⟩⟩
  | some records =>
    rw [holds.remove_of_some hcell]
    exact ⟨_, holds.erase i, .inl rfl⟩

theorem unlessMissing_rename {i j : Nat} (hne : i ≠ j) (hfree : cells j = none) : ∃ after,
    unlessMissing fs (fs.rename (generation site.path i) (generation site.path j)) = .ok after ∧
      Holds site (moved cells i j) after := by
  cases hcell : cells i with
  | none =>
    rw [holds.rename_of_none hcell, moved_eq_self hcell hfree, unlessMissing, renameFault,
      if_pos (Fault.isMissing_file_missing _ _)]
    exact ⟨fs, rfl, holds⟩
  | some records =>
    rw [holds.rename_of_some hne hcell]
    exact ⟨_, rfl, holds.move hne⟩

/-- The shift goes from the last backup to the first, so each one moves to a free path. -/
theorem shiftBackups {file : RotatingFile} (hpath : file.path = site.path) (n : Nat)
    (hfree : cells (n + 1) = none) : ∃ after,
    file.shiftBackups fs n = (after, .ok ()) ∧ Holds site (shifted cells n) after := by
  induction n generalizing cells fs with
  | zero =>
    have hsame : shifted cells 0 = cells := by
      funext j
      simp only [shifted]
      grind
    exact ⟨fs, rfl, hsame.symm ▸ holds⟩
  | succ n ih =>
    have hmoved : moved cells (n + 1) (n + 2) (n + 1) = none := by
      rw [moved, Function.update_of_ne (by omega), Function.update_self]
    have hsource : file.backupPath (n + 1 : Nat) = generation site.path (n + 1) := by
      rw [backupPath_eq_generation, hpath]
    have htarget : file.backupPath (n + 2 : Nat) = generation site.path (n + 2) := by
      rw [backupPath_eq_generation, hpath]
    rw [RotatingFile.shiftBackups, ← Int.natCast_succ, hsource, holds.hasPath, ← shifted_succ]
    cases hcell : cells (n + 1) with
    | none =>
      rw [if_neg (by simp)]
      refine ih ?_ hmoved
      rw [moved_eq_self hcell hfree]
      exact holds
    | some records =>
      rw [if_pos (by simp)]
      rw [show ((n : Int) + 2) = (n + 2 : Nat) from rfl, htarget,
        holds.rename_of_some (by omega) hcell]
      exact ih (holds.move (by omega)) hmoved

/-- Making room moves every generation up by one, and the oldest is gone. -/
theorem makeRoom {file : RotatingFile} (hpath : file.path = site.path) {m : Nat}
    (hbackups : file.maxBackups = m) (hcells : ∀ i, m < i → cells i = none) : ∃ after,
    file.makeRoom fs = (after, .ok ()) ∧ Holds site (rolled cells m) after := by
  have hfile : file.path = generation site.path 0 := by rw [hpath, generation_zero]
  cases m with
  | zero =>
    obtain ⟨after, hafter, hremove⟩ := holds.remove 0
    have hrolled : Function.update cells 0 none = rolled cells 0 := by
      funext j
      cases j with
      | zero => rfl
      | succ j => exact hcells (j + 1) (by omega)
    refine ⟨after, ?_, hrolled ▸ hafter⟩
    rw [RotatingFile.makeRoom, hbackups, if_pos (by simp), hfile]
    rcases hremove with hremove | ⟨rfl, fault, hremove, hmissing⟩
    · rw [hremove, unlessMissing]
    · rw [hremove, unlessMissing, if_pos hmissing]
  | succ m =>
    have holdest : file.backupPath file.maxBackups = generation site.path (m + 1) := by
      rw [hbackups, backupPath_eq_generation, hpath]
    have hfirst : file.backupPath 1 = generation site.path 1 := by
      rw [show (1 : Int) = (0 + 1 : Nat) from rfl, backupPath_eq_generation, hpath]
    have hcount : (file.maxBackups - 1).toNat = m := by omega
    obtain ⟨start, hstart, hremove⟩ := holds.remove (m + 1)
    obtain ⟨mid, hshift, hmid⟩ := hstart.shiftBackups hpath m (Function.update_self ..)
    obtain ⟨after, hrename, hafter⟩ := hmid.unlessMissing_rename Nat.zero_ne_one (by simp [shifted])
    refine ⟨after, ?_, moved_shifted_eq_rolled hcells ▸ hafter⟩
    rw [RotatingFile.makeRoom, if_neg (by simp [hbackups]; omega), holdest, hcount]
    -- Whether or not there was an oldest backup, `start` is without one.
    rcases hremove with hremove | ⟨rfl, fault, hremove, -⟩
    all_goals
      rw [hremove]
      dsimp only
      rw [hshift, hfirst, hfile]
      dsimp only
      rw [hrename]

theorem writablePlace : fs.writablePlace site.path = .ok (site.slot 0) := by
  have hlocate := holds.locate true 0
  rw [generation_zero] at hlocate
  rw [FileSystem.writablePlace, hlocate]
  dsimp only
  rw [holds.node]
  cases cells 0 <;> rfl

/-- Opening the log leaves its records, and makes its file if there is none. -/
theorem opened (file : RotatingFile) (hpath : file.path = site.path) {before : FileSystem}
    (hmade : before.makeDirectories (Path.directory site.path) = .ok fs) : ∃ after,
    file.opened before =
      (after, .ok { file with
        place := some (site.slot 0)
        size := ((cells 0).getD []).flatten.length }) ∧
    Holds site (Function.update cells 0 (some ((cells 0).getD []))) after := by
  refine ⟨_, ?_, holds.put 0 ((cells 0).getD [])⟩
  rw [RotatingFile.opened, hpath, hmade]
  dsimp only
  rw [holds.writablePlace]
  dsimp only
  rw [holds.contentAt]

/-- A rotation leaves a file without records, with every generation moved up by one. -/
theorem rotate {file : RotatingFile} (hpath : file.path = site.path) {m : Nat}
    (hbackups : file.maxBackups = m) (hcells : ∀ i, m < i → cells i = none) : ∃ after,
    file.rotate fs = (after, .ok { file with place := some (site.slot 0), size := 0 }) ∧
    Holds site (Function.update (rolled cells m) 0 (some [])) after := by
  obtain ⟨mid, hroom, hmid⟩ := holds.makeRoom hpath hbackups hcells
  obtain ⟨after, hopened, hafter⟩ :=
    hmid.opened file.closed hpath hmid.makeDirectories
  refine ⟨after, ?_, hafter⟩
  rw [RotatingFile.rotate, hroom]
  exact hopened

theorem appendAt (data : Text) :
    Holds site (Function.update cells 0 (some ((cells 0).getD [] ++ [data])))
      (fs.appendAt (site.slot 0) data) := by
  have hcontent : fs.contentAt (site.slot 0) ++ data = ((cells 0).getD [] ++ [data]).flatten := by
    rw [holds.contentAt, List.flatten_append, List.flatten_singleton]
  rw [FileSystem.appendAt, hcontent]
  exact holds.put 0 _

end Rotation

end Holds

end DocScribe.Log
