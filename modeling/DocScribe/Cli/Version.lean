import DocScribe.Text.Basic

/-!
# Version information
-/

namespace DocScribe.Cli

/-- What is known of a build. -/
structure Build where
  version : Text
  commit : Text
  date : Text

/-- This build. -/
def Build.current : Build where
  version := "0.3.0"
  commit := "unknown"
  date := "unknown"

/-- The version, with the first seven bytes of the commit when it is known and longer. -/
def Build.info (b : Build) : Text :=
  if b.commit != "unknown" && b.commit.length > 7 then
    b.version ++ (" (" : Text) ++ b.commit.take 7 ++ (")" : Text)
  else b.version

/-- The version text of several lines. -/
def Build.full (b : Build) : Text :=
  ("rustai version " : Text) ++ b.version ++ ("\nCommit: " : Text) ++ b.commit ++
    ("\nBuilt: " : Text) ++ b.date

end DocScribe.Cli
