import DocScribe.Proofs.Log.Retention

/-!
# The size of a log's files

A file that holds nothing takes a record of any size, so a file may exceed the limit of its log; but
then it holds that one record and at most empty ones beside it (`Fits`). A file that holds a byte
never grows past the limit, and only such a file becomes a backup. Both are kept by every advance of
the generations (`Filled.advance`), so they hold after any actions (`Session.run_bounded`).
-/

namespace DocScribe.Log

open FileSystem

/-- The records stay within the limit together, or one of them exceeds it alone and the others are
empty. -/
def Fits (limit : Int) (records : List Text) : Prop :=
  records.flatten.length ≤ limit ∨
    ∃ record, limit < record.length ∧ records.filter (fun r => !r.isEmpty) = [record]

theorem filter_eq_nil_of_flatten {records : List Text} (h : records.flatten = []) :
    records.filter (fun r => !r.isEmpty) = [] := by
  refine List.filter_eq_nil_iff.2 fun record hmem => ?_
  rw [List.flatten_eq_nil_iff.1 h record hmem]
  decide

/-- A record may be appended to a file that holds nothing, or that it does not take past the
limit. -/
theorem fits_append {limit : Int} {records : List Text} {data : Text}
    (h : records.flatten = [] ∨ records.flatten.length + data.length ≤ limit) (hlimit : 0 < limit) :
    Fits limit (records ++ [data]) := by
  have hlength : (records ++ [data]).flatten.length = records.flatten.length + data.length := by
    rw [List.flatten_append, List.flatten_singleton, List.length_append]
  by_cases hsmall : (records.flatten.length : Int) + data.length ≤ limit
  · left
    rw [hlength]
    exact_mod_cast hsmall
  · have hempty := h.resolve_right hsmall
    have hlarge : limit < data.length := by
      rw [hempty, List.length_nil] at hsmall
      omega
    have hdata : (!data.isEmpty) = true := by
      cases data with
      | nil =>
        rw [List.length_nil] at hlarge
        omega
      | cons b data => rfl
    right
    refine ⟨data, hlarge, ?_⟩
    rw [List.filter_append, filter_eq_nil_of_flatten hempty, List.nil_append, List.filter_singleton,
      hdata]
    rfl

/-- Every file fits the limit, and no backup is without a byte. -/
structure Filled (limit : Int) (cells : Cells) : Prop where
  fits : ∀ i records, cells i = some records → Fits limit records
  backups : ∀ i records, cells (i + 1) = some records → records.flatten ≠ []

namespace Filled

variable {limit : Int} {cells : Cells} (filled : Filled limit cells)
include filled

theorem fits_getD (hlimit : 0 < limit) (i : Nat) : Fits limit ((cells i).getD []) := by
  cases hcell : cells i with
  | none => exact .inl (Int.le_of_lt hlimit)
  | some records => exact filled.fits i records hcell

/-- The file of the log may be replaced by one that fits. -/
theorem update {records : List Text} (hfits : Fits limit records) :
    Filled limit (Function.update cells 0 (some records)) where
  fits i found h := by
    by_cases hi : i = 0
    · rw [hi, Function.update_self] at h
      rwa [← Option.some.inj h]
    · rw [Function.update_of_ne hi] at h
      exact filled.fits i found h
  backups i found h := by
    rw [Function.update_of_ne (Nat.succ_ne_zero i)] at h
    exact filled.backups i found h

/-- A file that is rotated holds a byte, so the first backup does. -/
theorem rotate {data : Text} (full : FullFor limit cells data) (m : Nat) :
    Filled limit (Function.update (rolled cells m) 0 (some [data])) where
  fits i found h := by
    cases i with
    | zero =>
      rw [Function.update_self] at h
      rw [← Option.some.inj h]
      exact fits_append (.inl List.flatten_nil) full.1
    | succ i =>
      rw [Function.update_of_ne (Nat.succ_ne_zero i), rolled] at h
      split at h
      · exact filled.fits i found h
      · cases h
  backups i found h := by
    rw [Function.update_of_ne (Nat.succ_ne_zero i), rolled] at h
    split at h
    · cases i with
      | zero =>
        have hpos := full.2.1
        rw [h, Option.getD_some] at hpos
        exact List.length_pos_iff.1 (by exact_mod_cast hpos)
      | succ i => exact filled.backups i found h
    · cases h

/-- What one advance of the generations preserves. -/
theorem advance (hlimit : 0 < limit) {m : Nat} {cells' : Cells}
    (step : Advance limit m cells cells') : Filled limit cells' := by
  cases step with
  | still => exact filled
  | made => exact filled.update (filled.fits_getD hlimit 0)
  | rotated full => exact filled.rotate full m
  | @appended data fits =>
    refine filled.update (fits_append ?_ hlimit)
    by_cases hempty : ((cells 0).getD []).flatten = []
    · exact .inl hempty
    · right
      have hpos := List.length_pos_iff.2 hempty
      by_contra hlarge
      exact fits ⟨hlimit, by exact_mod_cast hpos, Int.not_le.1 hlarge⟩

end Filled

/-- A new log has an empty file. -/
theorem filled_new {limit : Int} (hlimit : 0 < limit) :
    Filled limit (Function.update (fun _ => none) 0 (some [])) := by
  have nothing : Filled limit fun _ => none := by
    constructor
    · intro i records h
      cases h
    · intro i records h
      cases h
  exact nothing.update (.inl (Int.le_of_lt hlimit))

namespace Session

/-- What holds of the files of a session with a log of `m` backups and a positive limit. -/
structure Bounded (path : Text) (limit : Int) (m : Nat) (s : Session) : Prop where
  /-- Each file holds records that fit the limit, or one record that no file has room for. -/
  files : ∃ groups : List (List Text), contents s.fs path m = groups.map List.flatten ∧
    groups.flatten <:+ s.written ∧ ∀ group ∈ groups, Fits limit group
  backups : ∀ i content, s.fs.readFile (generation path (i + 1)) = .ok content → content ≠ []

theorem Tracks.bounded {site : Site} {m : Nat} {cells : Cells} {s : Session}
    (tracks : Tracks site m cells s) {limit : Int} (hlimit : 0 < limit)
    (filled : Filled limit cells) : Bounded site.path limit m s where
  files := by
    refine ⟨(List.range (m + 1)).reverse.map fun i => (cells i).getD [], ?_, tracks.recent, ?_⟩
    · rw [contents, List.map_map]
      exact List.map_congr_left fun i _ => tracks.contentOf_generation i
    · intro group hgroup
      obtain ⟨i, -, rfl⟩ := List.mem_map.1 hgroup
      exact filled.fits_getD hlimit i
  backups i content hread := by
    rw [readFile, tracks.holds.stat] at hread
    cases hcell : cells (i + 1) with
    | none =>
      rw [hcell] at hread
      cases hread
    | some records =>
      rw [hcell] at hread
      cases hread
      exact filled.backups i records hcell

/-- **No file of a log grows past the limit, unless it holds a single record that does**: where none
of its files was there at first, the log opens, and this holds after any actions. No backup is
empty. -/
theorem run_bounded (start : RotatingFile) (hlimit : 0 < start.maxSize) {m : Nat}
    (hbackups : start.maxBackups = m) {fs made : FileSystem} (rooted : Rooted fs)
    (hmade : fs.makeDirectories (Path.directory start.path) = .ok made)
    (free : ∀ i, Free made (generation start.path i)) :
    ∃ file after, start.opened fs = (after, .ok file) ∧
      ∀ actions, Bounded start.path start.maxSize m (run { file, fs := after } actions) := by
  obtain ⟨rootedMade, there⟩ := stat_of_makeDirectories rooted hmade
  obtain ⟨site, rfl, hpath⟩ := exists_site rootedMade there free
  rw [← hpath] at hmade
  obtain ⟨file, after, hopened, tracks⟩ := tracks_opened hpath.symm hbackups hmade
  refine ⟨file, after, hopened, fun actions => ?_⟩
  have hfile : file.maxSize = start.maxSize := RotatingFile.maxSize_opened hopened
  obtain ⟨cells, tracks', filled⟩ := exists_tracks_run_of tracks (filled_new hlimit)
    (fun _ _ filled step => filled.advance hlimit (hfile ▸ step)) actions
  rw [← hpath]
  exact tracks'.bounded hlimit filled

/-- The log of ten bytes with two backups has room for no record of eleven. -/
theorem smallLog_run_bounded :
    0 < smallLog.maxSize ∧ smallLog.maxBackups = (2 : Nat) ∧ Rooted {} ∧
    FileSystem.makeDirectories {} (Path.directory smallLog.path) = .ok logsDirectory ∧
    (∀ i, Free logsDirectory (generation smallLog.path i)) ∧
    ∃ file after, smallLog.opened {} = (after, .ok file) ∧
      ∀ actions, Bounded smallLog.path smallLog.maxSize 2 (run { file, fs := after } actions) := by
  have hlimit : 0 < smallLog.maxSize := by decide
  have hmade :
      FileSystem.makeDirectories {} (Path.directory smallLog.path) = .ok logsDirectory := by
    cbv
  exact ⟨hlimit, rfl, rooted_empty, hmade, free_logsDirectory,
    run_bounded smallLog hlimit rfl rooted_empty hmade free_logsDirectory⟩

/-- Even an empty record does not fit after one that exceeds the limit. -/
example :
    let opened : Session :=
      { file := { smallLog with place := some ["logs", "app.log"] }
        fs := logsDirectory.put ["logs", "app.log"] (.file []) }
    let s := opened.run [.write "", .write "aaaaaaaaaaa", .write "", .write "bbbbbb", .close,
      .reopen, .write "cccc", .write "d"]
    contents s.fs smallLog.path 2 = ["aaaaaaaaaaa", "bbbbbbcccc", "d"] := by
  cbv

end Session

end DocScribe.Log
