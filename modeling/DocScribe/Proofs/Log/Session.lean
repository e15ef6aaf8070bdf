import DocScribe.Log.Rotation
import Mathlib

/-!
# Sessions with a rotating file

A session is what a user does with one rotating file, action by action. A write finds the file
closed, fails to rotate it and leaves it closed, or appends (`write_cases`); so along a session
without reopening the file is closed once it was told to close or once a rotation has failed
(`Session.place_run_eq_none_iff`), and from then on every write is refused.
-/

namespace DocScribe.Log

/-- What a user does with a rotating file. -/
inductive Action where
  | write (data : Text)
  | close
  /-- Opens the file again, with the same path and limits. -/
  | reopen
deriving DecidableEq

/-- A rotating file in use, with what was written to it. -/
structure Session where
  file : RotatingFile
  fs : FileSystem
  /-- The records that were written without a fault, oldest first. -/
  written : List Text := []
  /-- How often a write had the file rotated. -/
  rotations : Nat := 0

namespace RotatingFile

/-- Whether the file must be rotated before the data is written. -/
def isFullFor (file : RotatingFile) (data : Text) : Bool :=
  0 < file.maxSize && 0 < file.size && file.maxSize < file.size + data.length

/-- The write fails because the file cannot be rotated. -/
def RotationFails (file : RotatingFile) (fs : FileSystem) (data : Text) : Prop :=
  ∃ cause, (file.write fs data).fault = some (.wrap (("rotate " : Text) ++ file.path) cause)

end RotatingFile

namespace Session

/-- The session after a write. -/
def write (s : Session) (data : Text) : Session :=
  let result := s.file.write s.fs data
  { file := result.file
    fs := result.fs
    written := if result.fault.isNone then s.written ++ [data] else s.written
    rotations :=
      if s.file.place.isSome && s.file.isFullFor data then s.rotations + 1 else s.rotations }

/-- The session after an action. -/
def act (s : Session) : Action → Session
  | .write data => s.write data
  | .close => { s with file := s.file.closed }
  | .reopen =>
    match s.file.closed.opened s.fs with
    | (fs, .ok file) => { s with file, fs }
    | (fs, .error _) => { s with file := s.file.closed, fs }

/-- The session after actions one after the other. -/
def run (s : Session) (actions : List Action) : Session :=
  actions.foldl act s

theorem run_concat (s : Session) (actions : List Action) (action : Action) :
    s.run (actions ++ [action]) = (s.run actions).act action := by
  rw [run, run, List.foldl_append, List.foldl_cons, List.foldl_nil]

end Session

namespace RotatingFile

theorem place_opened {file fresh : RotatingFile} {fs fs' : FileSystem}
    (h : file.opened fs = (fs', .ok fresh)) : ∃ place, fresh.place = some place := by
  rw [opened] at h
  split at h
  · cases h
  · split at h
    · cases h
    · next place hplace =>
      obtain ⟨-, hfresh⟩ := Prod.mk.inj h
      exact ⟨place, by rw [← Except.ok.inj hfresh]⟩

theorem place_rotate {file fresh : RotatingFile} {fs fs' : FileSystem}
    (h : file.rotate fs = (fs', .ok fresh)) : ∃ place, fresh.place = some place := by
  rw [rotate] at h
  split at h
  · cases h
  · exact place_opened h

/-! No operation changes the limit of a file. -/

theorem maxSize_opened {file fresh : RotatingFile} {fs fs' : FileSystem}
    (h : file.opened fs = (fs', .ok fresh)) : fresh.maxSize = file.maxSize := by
  rw [opened] at h
  split at h
  · cases h
  · split at h
    · cases h
    · obtain ⟨-, hfresh⟩ := Prod.mk.inj h
      rw [← Except.ok.inj hfresh]

theorem maxSize_rotate {file fresh : RotatingFile} {fs fs' : FileSystem}
    (h : file.rotate fs = (fs', .ok fresh)) : fresh.maxSize = file.maxSize := by
  rw [rotate] at h
  split at h
  · cases h
  · exact maxSize_opened h

theorem maxSize_write (file : RotatingFile) (fs : FileSystem) (data : Text) :
    (file.write fs data).file.maxSize = file.maxSize := by
  rw [write]
  split
  · rfl
  · split
    · split
      · rfl
      · next hrotate =>
        have hfresh := maxSize_rotate hrotate
        split
        · exact hfresh
        · exact hfresh
    · rfl

section Write

variable {file : RotatingFile} {fs fs' : FileSystem} {data : Text}

theorem write_of_closed (hplace : file.place = none) :
    file.write fs data = { file, fs, fault := some (.marked (.file .closed)) } := by
  rw [write, hplace]

theorem write_of_fits {place : Place} (hplace : file.place = some place)
    (hfits : file.isFullFor data = false) :
    file.write fs data = file.append fs place data := by
  rw [write, hplace]
  dsimp only
  rw [← isFullFor, hfits, if_neg Bool.false_ne_true]

theorem write_of_rotate_ok {place : Place} {fresh : RotatingFile} (hfile : file.place ≠ none)
    (hfull : file.isFullFor data = true) (hrotate : file.rotate fs = (fs', .ok fresh))
    (hfresh : fresh.place = some place) :
    file.write fs data = fresh.append fs' place data := by
  obtain ⟨here, hplace⟩ := Option.ne_none_iff_exists'.1 hfile
  rw [write, hplace]
  dsimp only
  rw [← isFullFor, hfull, if_pos rfl, hrotate]
  dsimp only
  rw [hfresh]

theorem write_of_rotate_error {cause : Fault} (hfile : file.place ≠ none)
    (hfull : file.isFullFor data = true) (hrotate : file.rotate fs = (fs', .error cause)) :
    file.write fs data =
      { file := file.closed, fs := fs',
        fault := some (.wrap (("rotate " : Text) ++ file.path) cause) } := by
  obtain ⟨here, hplace⟩ := Option.ne_none_iff_exists'.1 hfile
  rw [write, hplace]
  dsimp only
  rw [← isFullFor, hfull, if_pos rfl, hrotate]

/-- What a write can do. -/
theorem write_cases (file : RotatingFile) (fs : FileSystem) (data : Text) :
    (file.place = none ∧
      file.write fs data = { file, fs, fault := some (.marked (.file .closed)) }) ∨
    (∃ fs' cause, file.place ≠ none ∧ file.write fs data =
      { file := file.closed, fs := fs',
        fault := some (.wrap (("rotate " : Text) ++ file.path) cause) }) ∨
    (∃ fs' place, ∃ fresh : RotatingFile, file.place ≠ none ∧ fresh.place = some place ∧
      file.write fs data = fresh.append fs' place data) := by
  cases hplace : file.place with
  | none => exact .inl ⟨rfl, write_of_closed hplace⟩
  | some place =>
    have hfile : file.place ≠ none := by simp [hplace]
    refine .inr ?_
    cases hfull : file.isFullFor data with
    | false => exact .inr ⟨fs, place, file, by simp, hplace, write_of_fits hplace hfull⟩
    | true =>
      rcases hrotate : file.rotate fs with ⟨fs', cause | fresh⟩
      · exact .inl ⟨fs', cause, by simp, write_of_rotate_error hfile hfull hrotate⟩
      · obtain ⟨there, hfresh⟩ := place_rotate hrotate
        exact .inr ⟨fs', there, fresh, by simp, hfresh,
          write_of_rotate_ok hfile hfull hrotate hfresh⟩

end Write

/-- A write is refused exactly when the file is closed. -/
theorem fault_write_eq_closed_iff (file : RotatingFile) (fs : FileSystem) (data : Text) :
    (file.write fs data).fault = some (.marked (.file .closed)) ↔ file.place = none := by
  rcases write_cases file fs data with ⟨hplace, hwrite⟩ | ⟨fs', cause, hplace, hwrite⟩ |
    ⟨fs', place, fresh, hplace, -, hwrite⟩
  · simp [hwrite, hplace]
  · simp [hwrite, hplace, Fault.wrap]
  · simp [hwrite, hplace, append]

/-- A write leaves the file closed if it was closed or could not be rotated. -/
theorem place_write_eq_none_iff (file : RotatingFile) (fs : FileSystem) (data : Text) :
    (file.write fs data).file.place = none ↔ file.place = none ∨ file.RotationFails fs data := by
  rw [RotationFails]
  rcases write_cases file fs data with ⟨hplace, hwrite⟩ | ⟨fs', cause, hplace, hwrite⟩ |
    ⟨fs', place, fresh, hplace, hfresh, hwrite⟩
  · simp [hwrite, hplace]
  · simp [hwrite, closed]
  · simp [hwrite, hplace, append, hfresh]

end RotatingFile

namespace Session

theorem maxSize_act (s : Session) (action : Action) :
    (s.act action).file.maxSize = s.file.maxSize := by
  cases action with
  | write data => exact s.file.maxSize_write s.fs data
  | close => rfl
  | reopen =>
    rw [act]
    split
    · next hopened => exact RotatingFile.maxSize_opened hopened
    · rfl

/-- Some write of these actions fails because the file cannot be rotated. -/
def RotationFailsIn (s : Session) (actions : List Action) : Prop :=
  ∃ front data, front ++ [.write data] <+: actions ∧
    (s.run front).file.RotationFails (s.run front).fs data

theorem rotationFailsIn_concat (s : Session) (actions : List Action) (action : Action) :
    s.RotationFailsIn (actions ++ [action]) ↔ s.RotationFailsIn actions ∨
      ∃ data, action = .write data ∧
        (s.run actions).file.RotationFails (s.run actions).fs data := by
  constructor
  · rintro ⟨front, data, hfront, hfails⟩
    rcases List.prefix_concat_iff.1 hfront with heq | hfront
    · obtain ⟨rfl, hlast⟩ := List.append_inj' heq rfl
      exact .inr ⟨data, (List.singleton_inj.1 hlast).symm, hfails⟩
    · exact .inl ⟨front, data, hfront, hfails⟩
  · rintro (⟨front, data, hfront, hfails⟩ | ⟨data, rfl, hfails⟩)
    · exact ⟨front, data, hfront.trans (List.prefix_append _ _), hfails⟩
    · exact ⟨actions, data, List.prefix_rfl, hfails⟩

/-- What closes the file in one action. -/
theorem place_act_eq_none_iff (s : Session) {action : Action} (h : action ≠ .reopen) :
    (s.act action).file.place = none ↔ s.file.place = none ∨ action = .close ∨
      ∃ data, action = .write data ∧ s.file.RotationFails s.fs data := by
  cases action with
  | write data => simpa [act, write] using s.file.place_write_eq_none_iff s.fs data
  | close => simp [act, RotatingFile.closed]
  | reopen => exact absurd rfl h

/-- What closes the file in a session. -/
theorem place_run_eq_none_iff (s : Session) {actions : List Action} (h : .reopen ∉ actions) :
    (s.run actions).file.place = none ↔
      s.file.place = none ∨ .close ∈ actions ∨ s.RotationFailsIn actions := by
  induction actions using List.reverseRecOn with
  | nil => simp [run, RotationFailsIn]
  | append_singleton actions action ih =>
    simp only [List.mem_append, List.mem_singleton, not_or] at h ⊢
    rw [run_concat, place_act_eq_none_iff _ (Ne.symm h.2), ih h.1, rotationFailsIn_concat]
    grind

/-- **A file that cannot be rotated stays closed**: a write to an opened file is refused exactly if
the file was told to close before it, or if an earlier write could not rotate it. -/
theorem write_refused_iff {start file : RotatingFile} {before fs : FileSystem}
    (hopened : start.opened before = (fs, .ok file)) {actions : List Action}
    (h : .reopen ∉ actions) (data : Text) :
    let s := run { file, fs } actions
    ((s.file.write s.fs data).fault = some (.marked (.file .closed)) ↔
      .close ∈ actions ∨ RotationFailsIn { file, fs } actions) ∧
    (s.file.RotationFails s.fs data → (s.file.write s.fs data).file.place = none) := by
  intro s
  obtain ⟨place, hplace⟩ := RotatingFile.place_opened hopened
  refine ⟨?_, fun hfails => (s.file.place_write_eq_none_iff s.fs data).2 (.inr hfails)⟩
  rw [RotatingFile.fault_write_eq_closed_iff, place_run_eq_none_iff _ h]
  simp [hplace]

/-- A log of ten bytes with one backup, whose path is a directory that is not empty. -/
def blockedLog : RotatingFile :=
  { path := "app.log", maxSize := 10, maxBackups := 1 }

/-- The file system of `blockedLog`. -/
def blockedFiles : FileSystem :=
  { nodes := [(["app.log.1"], .directory), (["app.log.1", "x"], .file "old")] }

/-- The log just opened. -/
def blocked : Session :=
  { file := { blockedLog with place := some ["app.log"] }
    fs := blockedFiles.put ["app.log"] (.file []) }

/-- Two records, of which the second does not fit after the first. -/
def tooMuch : List Action :=
  [.write "aaaaa", .write "bbbbbbbb"]

theorem opened_blockedLog :
    blockedLog.opened blockedFiles = (blocked.fs, .ok blocked.file) := by
  cbv

theorem blocked_write_refused :
    blockedLog.opened blockedFiles = (blocked.fs, .ok blocked.file) ∧ .reopen ∉ tooMuch ∧
    let s := blocked.run tooMuch
    ((s.file.write s.fs "cc").fault = some (.marked (.file .closed)) ↔
      .close ∈ tooMuch ∨ blocked.RotationFailsIn tooMuch) ∧
    (s.file.RotationFails s.fs "cc" → (s.file.write s.fs "cc").file.place = none) :=
  ⟨opened_blockedLog, by decide, write_refused_iff opened_blockedLog (by decide) "cc"⟩

/-- The second record cannot rotate the log. The third would fit, and the log was never told to
close, but the record is refused. -/
theorem blocked_log_lost :
    blockedLog.opened blockedFiles = (blocked.fs, .ok blocked.file) ∧ .close ∉ tooMuch ∧
    (let s := blocked.run [.write "aaaaa"]
     s.file.RotationFails s.fs "bbbbbbbb" ∧ s.file.isFullFor "cc" = false) ∧
    (let s := blocked.run tooMuch
     (s.file.write s.fs "cc").fault = some (.marked (.file .closed)) ∧
       s.fs.readFile "app.log" = .ok "aaaaa") := by
  refine ⟨opened_blockedLog, by decide,
    ⟨⟨.file "rename" "app.log app.log.1" .exists, ?_⟩, ?_⟩, ?_, ?_⟩
  all_goals cbv

end Session

end DocScribe.Log
