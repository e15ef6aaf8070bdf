import DocScribe.Proofs.Log.Generation
import DocScribe.Proofs.Log.Session

/-!
# What a rotating log retains

`Tracks` describes a session by the records in each generation of its log. A write to a log with
room appends to generation 0, and a rotation drops the records of the oldest generation, which come
before all others (`kept_eq_oldest_append`). So the records that are kept, oldest generation first,
are at every point the last ones that were written, and all of them as long as no more rotations
have happened than there are backups (`Session.run_orderly`).
-/

namespace DocScribe.Log

open FileSystem

/-- The records that are kept, oldest generation first. -/
def kept (cells : Cells) (m : Nat) : List Text :=
  (List.range (m + 1)).reverse.flatMap fun i => (cells i).getD []

theorem kept_eq_append_current (cells : Cells) (m : Nat) :
    kept cells m =
      ((List.range m).reverse.flatMap fun i => (cells (i + 1)).getD []) ++ (cells 0).getD [] := by
  rw [kept, List.range_succ_eq_map, List.reverse_cons, List.flatMap_append, ← List.map_reverse,
    List.flatMap_map, List.flatMap_singleton]

theorem kept_eq_oldest_append (cells : Cells) (m : Nat) :
    kept cells m = (cells m).getD [] ++ kept (Function.update (rolled cells m) 0 (some [])) m := by
  have hrolled : ∀ i ∈ (List.range m).reverse,
      (Function.update (rolled cells m) 0 (some []) (i + 1)).getD [] = (cells i).getD [] := by
    intro i hi
    rw [Function.update_of_ne (Nat.succ_ne_zero i), rolled,
      if_pos (List.mem_range.1 (List.mem_reverse.1 hi))]
  rw [kept_eq_append_current (Function.update _ _ _), List.flatMap_congr hrolled,
    Function.update_self, Option.getD_some, List.append_nil, kept, List.range_succ,
    List.reverse_concat, List.flatMap_cons]

theorem kept_append (cells : Cells) (m : Nat) (data : Text) :
    kept (Function.update cells 0 (some ((cells 0).getD [] ++ [data]))) m =
      kept cells m ++ [data] := by
  rw [kept_eq_append_current, kept_eq_append_current, Function.update_self, Option.getD_some,
    List.append_assoc]
  simp only [Function.update_of_ne (Nat.succ_ne_zero _)]

/-- The log is full for the data: it has records, and the data would take it past the limit. -/
def FullFor (limit : Int) (cells : Cells) (data : Text) : Prop :=
  0 < limit ∧ 0 < ((cells 0).getD []).flatten.length ∧
    limit < ((cells 0).getD []).flatten.length + data.length

/-- What an action does to the generations of a log: nothing, or its file is made if there is none,
or a record is appended, after a rotation if the log is full. -/
inductive Advance (limit : Int) (m : Nat) (cells : Cells) : Cells → Prop where
  | still : Advance limit m cells cells
  | made : Advance limit m cells (Function.update cells 0 (some ((cells 0).getD [])))
  | appended {data : Text} (fits : ¬ FullFor limit cells data) :
    Advance limit m cells (Function.update cells 0 (some ((cells 0).getD [] ++ [data])))
  | rotated {data : Text} (full : FullFor limit cells data) :
    Advance limit m cells (Function.update (rolled cells m) 0 (some [data]))

namespace Session

/-- The session uses a log of the site with `m` backups, and its generations hold these records. -/
structure Tracks (site : Site) (m : Nat) (cells : Cells) (s : Session) :
    Prop where
  path : s.file.path = site.path
  backups : s.file.maxBackups = m
  holds : Holds site cells s.fs
  beyond : ∀ i, m < i → cells i = none
  recent : kept cells m <:+ s.written
  /-- A rotation takes the records one generation further. -/
  early : ∀ i, s.rotations < i → (cells i).getD [] = []
  complete : s.rotations ≤ m → kept cells m = s.written
  current : s.file.place ≠ none →
    s.file.place = some (site.slot 0) ∧ s.file.size = ((cells 0).getD []).flatten.length

namespace Tracks

variable {site : Site} {m : Nat} {cells : Cells} {s : Session}
  (tracks : Tracks site m cells s)
include tracks

theorem closed : Tracks site m cells { s with file := s.file.closed } :=
  { tracks with current := fun h => absurd rfl h }

theorem reopen :
    Tracks site m (Function.update cells 0 (some ((cells 0).getD []))) (s.act .reopen) ∧
      (s.act .reopen).file.place ≠ none := by
  obtain ⟨after, hopened, hafter⟩ :=
    tracks.holds.opened s.file.closed tracks.path tracks.holds.makeDirectories
  have hcells : ∀ i, (Function.update cells 0 (some ((cells 0).getD [])) i).getD [] =
      (cells i).getD [] := by
    intro i
    by_cases hi : i = 0
    · rw [hi, Function.update_self, Option.getD_some]
    · rw [Function.update_of_ne hi]
  have hkept : kept (Function.update cells 0 (some ((cells 0).getD []))) m = kept cells m := by
    simp only [kept, hcells]
  rw [act, hopened]
  refine ⟨⟨tracks.path, tracks.backups, hafter, fun i hi => ?_, ?_, fun i hi => ?_, fun h => ?_,
    fun _ => ?_⟩, by simp⟩
  · rw [Function.update_of_ne (by omega), tracks.beyond i hi]
  · rw [hkept]
    exact tracks.recent
  · rw [hcells]
    exact tracks.early i hi
  · rw [hkept]
    exact tracks.complete h
  · rw [hcells]
    exact ⟨rfl, rfl⟩

/-- A rotation drops the oldest generation. -/
theorem rotate : ∃ after fresh,
    s.file.rotate s.fs = (after, .ok fresh) ∧ fresh.place = some (site.slot 0) ∧
      Tracks site m (Function.update (rolled cells m) 0 (some []))
        { s with file := fresh, fs := after, rotations := s.rotations + 1 } := by
  obtain ⟨after, hrotate, hafter⟩ :=
    tracks.holds.rotate tracks.path tracks.backups tracks.beyond
  have hkept := kept_eq_oldest_append cells m
  refine ⟨after, _, hrotate, rfl, tracks.path, tracks.backups, hafter, fun i hi => ?_, ?_,
    fun i hi => ?_, fun h => ?_, fun _ => ⟨rfl, rfl⟩⟩
  · obtain ⟨j, rfl⟩ := Nat.exists_eq_succ_of_ne_zero (Nat.ne_zero_of_lt hi)
    rw [Function.update_of_ne (Nat.succ_ne_zero j), rolled, if_neg (by omega)]
  · exact (hkept ▸ List.suffix_append ..).trans tracks.recent
  · obtain ⟨j, rfl⟩ := Nat.exists_eq_succ_of_ne_zero (Nat.ne_zero_of_lt hi)
    rw [Function.update_of_ne (Nat.succ_ne_zero j), rolled]
    split
    · exact tracks.early j (by simpa using hi)
    · rfl
  · -- The oldest generation was not reached yet, so nothing is lost.
    have hoff := tracks.early m h
    rw [← tracks.complete (Nat.le_of_succ_le h), hkept, hoff, List.nil_append]

/-- A record that is appended comes after all others. -/
theorem append {place : Place} (hplace : s.file.place = some place) (data : Text) :
    Tracks site m (Function.update cells 0 (some ((cells 0).getD [] ++ [data])))
      { s with
        file := (s.file.append s.fs place data).file
        fs := (s.file.append s.fs place data).fs
        written := s.written ++ [data] } := by
  obtain ⟨hslot, hsize⟩ := tracks.current (by simp [hplace])
  obtain rfl : place = site.slot 0 := Option.some.inj (hplace.symm.trans hslot)
  refine ⟨tracks.path, tracks.backups, tracks.holds.appendAt data, fun i hi => ?_, ?_,
    fun i hi => ?_, fun h => ?_, fun _ => ⟨hslot, ?_⟩⟩
  · rw [Function.update_of_ne (by omega), tracks.beyond i hi]
  · obtain ⟨front, hfront⟩ := tracks.recent
    rw [kept_append, ← hfront, List.append_assoc]
    exact List.suffix_append front _
  · rw [Function.update_of_ne (by omega), tracks.early i hi]
  · rw [kept_append, tracks.complete h]
  · rw [Function.update_self, Option.getD_some, List.flatten_append, List.flatten_singleton,
      List.length_append, ← hsize]
    rfl

theorem isFullFor_iff (hopen : s.file.place ≠ none) (data : Text) :
    s.file.isFullFor data = true ↔ FullFor s.file.maxSize cells data := by
  rw [RotatingFile.isFullFor, FullFor, (tracks.current hopen).2, Bool.and_eq_true, Bool.and_eq_true,
    decide_eq_true_eq, decide_eq_true_eq, decide_eq_true_eq, and_assoc]

/-- A write appends its record, after a rotation if the log is full; on a closed log it does
nothing. -/
theorem write (data : Text) :
    (∃ cells', Advance s.file.maxSize m cells cells' ∧ Tracks site m cells' (s.write data)) ∧
      (s.file.place ≠ none → (s.file.write s.fs data).fault = none) := by
  cases hplace : s.file.place with
  | none =>
    refine ⟨⟨cells, .still, ?_⟩, fun h => absurd rfl h⟩
    have hsame : s.write data = s := by
      simp [Session.write, RotatingFile.write_of_closed hplace, hplace]
    rw [hsame]
    exact tracks
  | some place =>
    have hopen : s.file.place ≠ none := by simp [hplace]
    have hiff := tracks.isFullFor_iff hopen data
    cases hfull : s.file.isFullFor data with
    | false =>
      have hwrite : s.file.write s.fs data = s.file.append s.fs place data :=
        RotatingFile.write_of_fits hplace hfull
      have hsession : s.write data =
          { s with
            file := (s.file.append s.fs place data).file
            fs := (s.file.append s.fs place data).fs
            written := s.written ++ [data] } := by
        simp [Session.write, hwrite, hfull, RotatingFile.append]
      refine ⟨⟨_, .appended fun full => ?_, hsession ▸ tracks.append hplace data⟩, fun _ => ?_⟩
      · rw [hiff.2 full] at hfull
        cases hfull
      · rw [hwrite]
        rfl
    | true =>
      obtain ⟨after, fresh, hrotate, hfresh, rotated⟩ := tracks.rotate
      have hwrite := RotatingFile.write_of_rotate_ok hopen hfull hrotate hfresh
      have hsession : s.write data =
          { s with
            file := (fresh.append after (site.slot 0) data).file
            fs := (fresh.append after (site.slot 0) data).fs
            written := s.written ++ [data]
            rotations := s.rotations + 1 } := by
        simp [Session.write, hwrite, hfull, hplace, RotatingFile.append]
      have hcells : Function.update (Function.update (rolled cells m) 0 (some [])) 0
          (some ((Function.update (rolled cells m) 0 (some []) 0).getD [] ++ [data])) =
          Function.update (rolled cells m) 0 (some [data]) := by
        rw [Function.update_idem, Function.update_self, Option.getD_some, List.nil_append]
      refine ⟨⟨_, .rotated (hiff.1 hfull), ?_⟩, fun _ => ?_⟩
      · rw [hsession, ← hcells]
        exact rotated.append hfresh data
      · rw [hwrite]
        rfl

/-- What one action preserves. -/
theorem act (action : Action) :
    ∃ cells', Advance s.file.maxSize m cells cells' ∧ Tracks site m cells' (s.act action) := by
  cases action with
  | write data => exact (tracks.write data).1
  | close => exact ⟨cells, .still, tracks.closed⟩
  | reopen => exact ⟨_, .made, tracks.reopen.1⟩

end Tracks

/-- A log that is opened for the first time has its file only, without records. -/
theorem tracks_opened {site : Site} {start : RotatingFile} (hpath : start.path = site.path)
    {m : Nat} (hbackups : start.maxBackups = m) {fs : FileSystem}
    (hmade : fs.makeDirectories (Path.directory site.path) = .ok site.base) : ∃ file after,
    start.opened fs = (after, .ok file) ∧
      Tracks site m (Function.update (fun _ => none) 0 (some [])) { file, fs := after } := by
  obtain ⟨after, hopened, hafter⟩ := site.holds.opened start hpath hmade
  have hcells : ∀ i,
      (Function.update (fun _ => none) 0 (some ([] : List Text)) i).getD [] = [] := by
    intro i
    rw [Function.update_apply]
    split <;> rfl
  have hkept : kept (Function.update (fun _ => none) 0 (some [])) m = [] :=
    List.flatMap_eq_nil_iff.2 fun i _ => hcells i
  refine ⟨_, after, hopened, hpath, hbackups, hafter, fun i hi => ?_, ?_, fun i _ => hcells i,
    fun _ => hkept, fun _ => ⟨rfl, rfl⟩⟩
  · exact Function.update_of_ne (Nat.ne_zero_of_lt hi) ..
  · exact List.suffix_nil.2 hkept

theorem exists_tracks_opened {site : Site} {start : RotatingFile} (hpath : start.path = site.path)
    {m : Nat} (hbackups : start.maxBackups = m) {fs : FileSystem}
    (hmade : fs.makeDirectories (Path.directory site.path) = .ok site.base) : ∃ file after cells,
    start.opened fs = (after, .ok file) ∧ Tracks site m cells { file, fs := after } := by
  obtain ⟨file, after, hopened, tracks⟩ := tracks_opened hpath hbackups hmade
  exact ⟨file, after, _, hopened, tracks⟩

/-- What a run of actions preserves, and with it whatever each advance of the generations
preserves. -/
theorem exists_tracks_run_of {site : Site} {m : Nat} {cells : Cells} {s : Session}
    (tracks : Tracks site m cells s) {P : Cells → Prop} (initial : P cells)
    (preserves : ∀ cells cells', P cells → Advance s.file.maxSize m cells cells' → P cells')
    (actions : List Action) : ∃ cells', Tracks site m cells' (s.run actions) ∧ P cells' := by
  induction actions generalizing s cells with
  | nil => exact ⟨cells, tracks, initial⟩
  | cons action actions ih =>
    obtain ⟨cells', advance, tracks'⟩ := tracks.act action
    refine ih tracks' (preserves cells cells' initial advance) ?_
    rw [maxSize_act]
    exact preserves

theorem exists_tracks_run {site : Site} {m : Nat} {cells : Cells} {s : Session}
    (tracks : Tracks site m cells s) (actions : List Action) :
    ∃ cells', Tracks site m cells' (s.run actions) := by
  obtain ⟨cells', tracks', -⟩ :=
    exists_tracks_run_of tracks (P := fun _ => True) trivial (fun _ _ _ _ => trivial) actions
  exact ⟨cells', tracks'⟩

/-- The content of a file, empty if it cannot be read. -/
def contentOf (fs : FileSystem) (path : Text) : Text :=
  match fs.readFile path with
  | .ok content => content
  | .error _ => []

/-- The contents of a log with `m` backups, oldest generation first. -/
def contents (fs : FileSystem) (path : Text) (m : Nat) : List Text :=
  (List.range (m + 1)).reverse.map fun i => contentOf fs (generation path i)

/-- What holds of a session with a log of `m` backups that began without any of its files. -/
structure Orderly (path : Text) (m : Nat) (s : Session) : Prop where
  /-- Every record lies whole in one file, the files hold the last records in their order, and all
  of them until the backups are used up. -/
  segments : ∃ groups : List (List Text), contents s.fs path m = groups.map List.flatten ∧
    groups.flatten <:+ s.written ∧ (s.rotations ≤ m → groups.flatten = s.written)
  /-- There is no backup beyond the last. -/
  bounded : ∀ i, m < i → Free s.fs (generation path i)
  size : s.file.place ≠ none → s.file.size = (contentOf s.fs path).length
  /-- An open log takes every record. -/
  accepts : s.file.place ≠ none → ∀ data, (s.file.write s.fs data).fault = none
  reopens : (s.act .reopen).file.place ≠ none

namespace Tracks

variable {site : Site} {m : Nat} {cells : Cells} {s : Session}
  (tracks : Tracks site m cells s)
include tracks

theorem contentOf_generation (i : Nat) :
    contentOf s.fs (generation site.path i) = ((cells i).getD []).flatten := by
  rw [contentOf, readFile, tracks.holds.stat]
  cases cells i <;> rfl

theorem orderly : Orderly site.path m s where
  segments := by
    refine ⟨(List.range (m + 1)).reverse.map fun i => (cells i).getD [], ?_, ?_, fun h => ?_⟩
    · rw [contents, List.map_map]
      exact List.map_congr_left fun i _ => tracks.contentOf_generation i
    · exact tracks.recent
    · exact tracks.complete h
  bounded i hi := by
    refine ⟨site.slot i, tracks.holds.locate false i, ?_⟩
    rw [tracks.holds.node, tracks.beyond i hi, Option.map_none]
  size h := by
    have hcontent := tracks.contentOf_generation 0
    rw [generation_zero] at hcontent
    rw [hcontent, (tracks.current h).2]
  accepts h data := (tracks.write data).2 h
  reopens := tracks.reopen.2

end Tracks

/-- **A log keeps its last records in order**: where none of its files was there at first, the log
opens, and after any actions its files, oldest first, hold the last records that were written. -/
theorem run_orderly (start : RotatingFile) {m : Nat} (hbackups : start.maxBackups = m)
    {fs made : FileSystem} (rooted : Rooted fs)
    (hmade : fs.makeDirectories (Path.directory start.path) = .ok made)
    (free : ∀ i, Free made (generation start.path i)) :
    ∃ file after, start.opened fs = (after, .ok file) ∧
      ∀ actions, Orderly start.path m (run { file, fs := after } actions) := by
  obtain ⟨rootedMade, there⟩ := stat_of_makeDirectories rooted hmade
  obtain ⟨site, rfl, hpath⟩ := exists_site rootedMade there free
  rw [← hpath] at hmade
  obtain ⟨file, after, cells, hopened, tracks⟩ := exists_tracks_opened hpath.symm hbackups hmade
  refine ⟨file, after, hopened, fun actions => ?_⟩
  obtain ⟨cells', tracks'⟩ := exists_tracks_run tracks actions
  rw [← hpath]
  exact tracks'.orderly

/-- A log of ten bytes with two backups, in a directory that is made for it. -/
def smallLog : RotatingFile :=
  { path := "logs/app.log", maxSize := 10, maxBackups := 2 }

/-- The directory of `smallLog`. -/
def logsDirectory : FileSystem :=
  { nodes := [(["logs"], .directory)] }

theorem rooted_empty : Rooted {} := by
  intro place node h
  by_cases hplace : place = []
  · rw [hplace]
    rfl
  · rw [node?_of_ne_nil _ hplace] at h
    cases h

theorem free_logsDirectory (i : Nat) : Free logsDirectory (generation smallLog.path i) := by
  have hparts : Path.parts smallLog.path = [("logs" : Text)] ++ [("app.log" : Text)] := by decide
  have hpath : smallLog.path ++ generationSuffix i ≠ [] :=
    List.append_ne_nil_of_left_ne_nil (by decide) _
  have hworking : (if Path.isAbsolute (smallLog.path ++ generationSuffix i) then []
      else logsDirectory.working) = [] := rfl
  refine ⟨["logs", ("app.log" : Text) ++ generationSuffix i], ?_, rfl⟩
  rw [generation, locate_of_ne_nil _ _ hpath, hworking,
    Path.parts_append hparts (slash_not_mem_generationSuffix i), List.singleton_append,
    walk_into rfl ⟨by decide, by decide, by decide⟩ (by decide)]
  exact walk_last (by decide)
    (isName_append_generationSuffix ⟨by decide, by decide, by decide⟩ i) (by simp)

theorem smallLog_run_orderly :
    smallLog.maxBackups = (2 : Nat) ∧ Rooted {} ∧
    FileSystem.makeDirectories {} (Path.directory smallLog.path) = .ok logsDirectory ∧
    (∀ i, Free logsDirectory (generation smallLog.path i)) ∧
    ∃ file after, smallLog.opened {} = (after, .ok file) ∧
      ∀ actions, Orderly smallLog.path 2 (run { file, fs := after } actions) := by
  have hmade :
      FileSystem.makeDirectories {} (Path.directory smallLog.path) = .ok logsDirectory := by
    cbv
  exact ⟨rfl, rooted_empty, hmade, free_logsDirectory,
    run_orderly smallLog rfl rooted_empty hmade free_logsDirectory⟩

example :
    let opened : Session :=
      { file := { smallLog with place := some ["logs", "app.log"] }
        fs := logsDirectory.put ["logs", "app.log"] (.file []) }
    let s := opened.run [.write "aaaa", .write "bbbb", .write "cccc", .close, .write "dddd",
      .reopen, .write "eeeeeee", .write "ffff"]
    contents s.fs smallLog.path 2 = ["cccc", "eeeeeee", "ffff"] ∧
      s.written = ["aaaa", "bbbb", "cccc", "eeeeeee", "ffff"] ∧ s.rotations = 3 := by
  cbv

end Session

end DocScribe.Log
