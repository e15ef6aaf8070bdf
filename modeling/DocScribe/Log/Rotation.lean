import DocScribe.FileSystem.Basic

/-!
# Rotating files

A log file that is renamed once a write would take it past its limit. Older files move up by one,
and the oldest is removed. A rotation that fails leaves the file closed, and nothing more is written
to it.
-/

namespace DocScribe.Log

/-- A file that is written at its end. -/
structure RotatingFile where
  path : Text
  /-- The size that a write may not pass; no limit unless positive. -/
  maxSize : Int
  /-- How many old files are kept. -/
  maxBackups : Int
  /-- Where the open file is, or nothing once it is closed. -/
  place : Option Place := none
  size : Nat := 0
deriving Repr

namespace RotatingFile

/-- Opens the file, which is made with its directories if it does not exist. -/
def opened (file : RotatingFile) (fs : FileSystem) : FileSystem × Except Fault RotatingFile :=
  match fs.makeDirectories (Path.directory file.path) with
  | .error f => (fs, .error f)
  | .ok fs =>
    match fs.writablePlace file.path with
    | .error f => (fs, .error f)
    | .ok place =>
      let content := fs.contentAt place
      (fs.put place (.file content), .ok { file with place := some place, size := content.length })

/-- The file closed. -/
def closed (file : RotatingFile) : RotatingFile :=
  { file with place := none }

/-- The path of an old file. -/
def backupPath (file : RotatingFile) (n : Int) : Text :=
  file.path ++ 0x2e :: Number.signed n

/-- The file system after an operation that may fail, with its fault unless it is about something
that does not exist. -/
def unlessMissing (fs : FileSystem) : Except Fault FileSystem → Except Fault FileSystem
  | .ok fs => .ok fs
  | .error f => if f.isMissing then .ok fs else .error f

/-- Moves the old files up by one, from number `n` down to the first. -/
def shiftBackups (file : RotatingFile) (fs : FileSystem) :
    (n : Nat) → FileSystem × Except Fault Unit
  | 0 => (fs, .ok ())
  | n + 1 =>
    if fs.hasPath (file.backupPath (n + 1)) then
      match fs.rename (file.backupPath (n + 1)) (file.backupPath (n + 2)) with
      | .error f => (fs, .error f)
      | .ok fs => shiftBackups file fs n
    else shiftBackups file fs n

/-- Makes room: the file becomes the first backup, or is removed if none are kept. -/
def makeRoom (file : RotatingFile) (fs : FileSystem) : FileSystem × Except Fault Unit :=
  if file.maxBackups == 0 then
    match unlessMissing fs (fs.remove file.path) with
    | .ok fs => (fs, .ok ())
    | .error f => (fs, .error f)
  else
    let fs :=
      match fs.remove (file.backupPath file.maxBackups) with
      | .ok fs => fs
      | .error _ => fs
    match file.shiftBackups fs (file.maxBackups - 1).toNat with
    | (fs, .error f) => (fs, .error f)
    | (fs, .ok _) =>
      match unlessMissing fs (fs.rename file.path (file.backupPath 1)) with
      | .ok fs => (fs, .ok ())
      | .error f => (fs, .error f)

/-- Rotates the file and opens it anew. -/
def rotate (file : RotatingFile) (fs : FileSystem) : FileSystem × Except Fault RotatingFile :=
  match file.makeRoom fs with
  | (fs, .error f) => (fs, .error f)
  | (fs, .ok _) => file.closed.opened fs

/-- What comes of a write. -/
structure Written where
  file : RotatingFile
  fs : FileSystem
  /-- How many bytes were written. -/
  count : Nat := 0
  fault : Option Fault := none

/-- Writes at the end of an open file. -/
def append (file : RotatingFile) (fs : FileSystem) (place : Place) (data : Text) : Written :=
  { file := { file with size := file.size + data.length }
    fs := fs.appendAt place data
    count := data.length }

/-- Writes data, after a rotation if it would not fit. -/
def write (file : RotatingFile) (fs : FileSystem) (data : Text) : Written :=
  match file.place with
  | none => { file, fs, fault := some (.marked (.file .closed)) }
  | some place =>
    if 0 < file.maxSize && 0 < file.size && file.maxSize < file.size + data.length then
      match file.rotate fs with
      | (fs, .error f) =>
        { file := file.closed, fs, fault := some (.wrap (("rotate " : Text) ++ file.path) f) }
      | (fs, .ok fresh) =>
        match fresh.place with
        | some place => fresh.append fs place data
        | none => { file := fresh, fs, fault := some (.marked (.file .closed)) }
    else file.append fs place data

end RotatingFile

end DocScribe.Log
