import DocScribe.Text.Basic

/-!
# Problems with files

Why an operation on a file or directory is refused, and how each reason reads.
-/

namespace DocScribe

/-- Why a file operation is refused. -/
inductive FileProblem where
  /-- A name on the way does not exist. -/
  | missing
  /-- The file does not exist, as said without looking. -/
  | absent
  | isDirectory
  | notDirectory
  | exists
  | notEmpty
  | closed
  | tooManyLinks
deriving DecidableEq, Repr

namespace FileProblem

/-- The wording of a problem. -/
def message : FileProblem → Text
  | .missing => "no such file or directory"
  | .absent => "file does not exist"
  | .isDirectory => "is a directory"
  | .notDirectory => "not a directory"
  | .exists => "file exists"
  | .notEmpty => "directory not empty"
  | .closed => "file already closed"
  | .tooManyLinks => "too many levels of symbolic links"

/-- Whether the problem is that something does not exist. -/
def isMissing : FileProblem → Bool
  | .missing => true
  | .absent => true
  | _ => false

end FileProblem

end DocScribe
