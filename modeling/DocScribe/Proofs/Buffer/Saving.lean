import DocScribe.Buffer.Basic
import DocScribe.Proofs.FileSystem.Operation
import Mathlib

/-!
# Saving a buffer

A buffer is written to a draft beside its target, and the draft is renamed. The path and its draft
lead into one directory (`Beside`), so a save fails with nothing written, or leaves nothing at the
place of the draft (`saveAs_cases`). Where nothing was there before, only the target has changed;
a file or link that was there is lost (`saveAs_touchesOnlyTarget_iff`).
-/

namespace DocScribe.Buffer

open FileSystem
open DocScribe.Path (IsName)

/-- The path that a buffer is written to before it is renamed. -/
def draftPath (path : Text) : Text :=
  path ++ (".tmp" : Text)

/-- The name of the draft of a file. -/
def draftName (name : Text) : Text :=
  name ++ (".tmp" : Text)

theorem isName_draftName (name : Text) : IsName (draftName name) := by
  have hlength : 4 ≤ (draftName name).length := by
    rw [draftName, List.length_append]
    exact Nat.le_add_left 4 name.length
  constructor <;> intro heq <;> rw [heq] at hlength <;> exact absurd hlength (by decide)

theorem draftName_ne (name : Text) : draftName name ≠ name :=
  fun h => absurd (List.append_right_eq_self.1 h) (by decide)

/-- The directory that a path and its draft lead into, and the last name of the path; also in file
systems that keep what is on the way. -/
structure Beside (fs : FileSystem) (path : Text) (dir : Place) (last : Text) : Prop where
  directory : fs.node? dir = some .directory
  draft : ∀ fs', Keeps fs fs' → fs'.working = fs.working →
    fs'.locate false (draftPath path) = .ok (dir ++ [draftName last])
  target :
    (∀ fs', Keeps fs fs' → fs'.working = fs.working →
      fs'.locate false path = .ok (dir ++ [last])) ∨
    ∀ fs', Keeps fs fs' → fs'.working = fs.working →
      fs'.linkStat path = .ok .directory ∨ ∃ problem, fs'.locate false path = .error problem

theorem exists_beside {fs : FileSystem} (rooted : Rooted fs) {follow : Bool} {path : Text}
    {place : Place} (h : fs.locate follow (draftPath path) = .ok place) :
    ∃ dir last, Beside fs path dir last := by
  obtain ⟨front, last, hparts⟩ := Path.exists_parts_eq_concat path
  have hdraft : Path.parts (draftPath path) = front ++ [draftName last] :=
    Path.parts_append hparts (by decide)
  have hne : draftPath path ≠ [] := ne_nil_of_locate h
  rw [locate_of_ne_nil fs follow hne, hdraft] at h
  obtain ⟨left, dir, passes⟩ := walk_passes (List.cons_ne_nil _ _) h
  refine ⟨dir, last, passes.directory, fun fs' keeps hworking => ?_, ?_⟩
  · rw [locate_of_ne_nil fs' false hne, hdraft, hworking,
      passes.goesOn fs' false _ keeps (List.cons_ne_nil _ _)]
    exact walk_last (keeps.directory passes.directory) (isName_draftName last) (by simp)
  · by_cases hpath : path = []
    · exact .inr fun _ _ _ => .inr ⟨.missing, by rw [hpath]; rfl⟩
    · have habsolute : Path.isAbsolute (draftPath path) = Path.isAbsolute path := by
        obtain ⟨b, s, rfl⟩ := List.exists_cons_of_ne_nil hpath
        rfl
      have hlocate : ∀ fs', Keeps fs fs' → fs'.working = fs.working →
          fs'.locate false path = walk fs' false left dir [last] := by
        intro fs' keeps hworking
        rw [locate_of_ne_nil fs' false hpath, hparts, hworking, ← habsolute,
          passes.goesOn fs' false _ keeps (List.cons_ne_nil _ _)]
      by_cases hname : IsName last
      · refine .inl fun fs' keeps hworking => ?_
        rw [hlocate fs' keeps hworking]
        exact walk_last (keeps.directory passes.directory) hname (by simp)
      · -- The path ends in a slash, `.` or `..`.
        refine .inr fun fs' keeps hworking => .inl ?_
        obtain ⟨there, hthere, hnode⟩ := exists_walk_unnamed false left
          (keeps.directory passes.directory)
          (keeps.directory (rooted _ _ passes.directory)) hname
        rw [← hlocate fs' keeps hworking] at hthere
        exact linkStat_of_locate hthere hnode

section Outcome

variable {fs written : FileSystem} {b : Buffer} {path : Text}

theorem saveAs_of_write_error {cause : Fault}
    (h : fs.writeFile (draftPath path) b.text = .error cause) :
    b.saveAs fs path = (fs, .error (.wrap (("failed to write " : Text) ++ path) cause)) := by
  rw [draftPath] at h
  rw [saveAs]
  dsimp only
  rw [h]

theorem saveAs_of_rename_ok {after : FileSystem}
    (hwrite : fs.writeFile (draftPath path) b.text = .ok written)
    (h : written.rename (draftPath path) path = .ok after) :
    b.saveAs fs path = (after, .ok { b with path }) := by
  rw [draftPath] at hwrite h
  rw [saveAs]
  dsimp only
  rw [hwrite]
  dsimp only
  rw [h]

theorem saveAs_of_rename_error {after : FileSystem} {cause : Fault}
    (hwrite : fs.writeFile (draftPath path) b.text = .ok written)
    (h : written.rename (draftPath path) path = .error cause)
    (hremove : written.remove (draftPath path) = .ok after) :
    b.saveAs fs path =
      (after, .error (.wrap (("failed to rename " : Text) ++ draftPath path) cause)) := by
  rw [draftPath] at hwrite h hremove
  rw [saveAs]
  dsimp only
  rw [hwrite]
  dsimp only
  rw [h]
  dsimp only
  rw [hremove]
  rfl

end Outcome

/-- What a save can do: fail before anything is written; write the draft, fail to rename it and
remove it; or write the draft and rename it. -/
theorem saveAs_cases {fs : FileSystem} (rooted : Rooted fs) (b : Buffer) (path : Text) :
    (∃ cause fault, fs.writeFile (draftPath path) b.text = .error cause ∧
      b.saveAs fs path = (fs, .error fault)) ∨
    ∃ place dir last written, Written fs (draftPath path) b.text place written ∧
      fs.writeFile (draftPath path) b.text = .ok written ∧ Beside fs path dir last ∧
      ((∃ after fault, b.saveAs fs path = (after, .error fault) ∧
          ∀ q, after.node? q = if q = dir ++ [draftName last] then none else written.node? q) ∨
        ∃ after, b.saveAs fs path = (after, .ok { b with path }) ∧
          fs.locate false path = .ok (dir ++ [last]) ∧
          ∀ q, after.node? q =
            if q = dir ++ [last] then written.node? (dir ++ [draftName last])
            else if q = dir ++ [draftName last] then none else written.node? q) := by
  cases hwrite : fs.writeFile (draftPath path) b.text with
  | error cause => exact .inl ⟨cause, _, rfl, saveAs_of_write_error hwrite⟩
  | ok written =>
    obtain ⟨place, hwritten⟩ := exists_of_writeFile rooted hwrite
    obtain ⟨dir, last, beside⟩ := exists_beside rooted hwritten.located
    refine .inr ⟨place, dir, last, written, hwritten, rfl, beside, ?_⟩
    have hdraft := beside.draft written hwritten.keeps hwritten.working
    obtain ⟨node, hnode, hfile⟩ := hwritten.exists_node (beside.draft fs (Keeps.refl fs) rfl)
    have hnil : dir ++ [draftName last] ≠ [] := by simp
    have refused : (∃ fault, written.rename (draftPath path) path = .error fault) →
        ∃ after fault, b.saveAs fs path = (after, .error fault) ∧
          ∀ q, after.node? q = if q = dir ++ [draftName last] then none else written.node? q := by
      rintro ⟨fault, hrename⟩
      exact ⟨_, _, saveAs_of_rename_error hwrite hrename (remove_eq_erase hdraft hnode hfile),
        written.node?_erase hnil⟩
    rcases beside.target with htarget | htarget
    · have hafter := htarget written hwritten.keeps hwritten.working
      by_cases hthere : written.node? (dir ++ [last]) = some .directory
      · have hstat : written.linkStat path = .ok .directory := linkStat_of_locate hafter hthere
        exact .inl (refused (exists_rename_eq_error hdraft hnode (.inl hstat)))
      · have hne : dir ++ [draftName last] ≠ dir ++ [last] := by simp [draftName_ne]
        have hmove := rename_eq_move hdraft hnode hfile hafter hthere hne
        refine .inr ⟨_, saveAs_of_rename_ok hwrite hmove, htarget fs (Keeps.refl fs) rfl, ?_⟩
        exact written.node?_move hnil (by simp) hne (hwritten.rooted.alone (by simp [hnode, hfile]))
    · exact .inl (refused (exists_rename_eq_error hdraft hnode
        (htarget written hwritten.keeps hwritten.working)))

/-- A save changes nothing but its target. If it fails, the target stays as it was too; if it
succeeds, the target holds the text of the buffer, which only has a new path. -/
structure TouchesOnlyTarget (b : Buffer) (fs : FileSystem) (path : Text) : Prop where
  others : ∀ place, fs.locate false path ≠ .ok place →
    (b.saveAs fs path).1.node? place = fs.node? place
  ofError : ∀ fault, (b.saveAs fs path).2 = .error fault →
    ∀ place, (b.saveAs fs path).1.node? place = fs.node? place
  ofOk : ∀ saved, (b.saveAs fs path).2 = .ok saved → saved = { b with path } ∧
    ∃ place, fs.locate false path = .ok place ∧
      (b.saveAs fs path).1.node? place = some (.file b.text)

/-- Nothing has the name of the draft. -/
def DraftIsFree (fs : FileSystem) (path : Text) : Prop :=
  ∀ node, fs.linkStat (draftPath path) ≠ .ok node

theorem Beside.draftIsFree_iff {fs : FileSystem} {path : Text} {dir : Place} {last : Text}
    (beside : Beside fs path dir last) :
    DraftIsFree fs path ↔ fs.node? (dir ++ [draftName last]) = none := by
  have hdraft := beside.draft fs (Keeps.refl fs) rfl
  constructor
  · intro hfree
    by_contra hsome
    obtain ⟨node, hnode⟩ := Option.ne_none_iff_exists'.1 hsome
    exact hfree node (linkStat_of_locate hdraft hnode)
  · intro hnone node h
    rw [linkStat, hdraft] at h
    dsimp only at h
    rw [hnone] at h
    cases h

/-- A draft that was free is where its path leads. -/
theorem Beside.node?_written {fs written : FileSystem} {path content : Text} {place dir : Place}
    {last : Text} (beside : Beside fs path dir last)
    (hwritten : Written fs (draftPath path) content place written)
    (hfree : fs.node? (dir ++ [draftName last]) = none) (q : Place) :
    written.node? q =
      if q = dir ++ [draftName last] then some (.file content) else fs.node? q := by
  have hplace := locate_follow (beside.draft fs (Keeps.refl fs) rfl) (by simp [hfree])
  rw [hwritten.located] at hplace
  rw [hwritten.node, Except.ok.inj hplace]

/-- **A save touches only its target** exactly if nothing has the name of its draft, or the draft
cannot be written. -/
theorem saveAs_touchesOnlyTarget_iff {fs : FileSystem} (rooted : Rooted fs) (b : Buffer)
    (path : Text) :
    TouchesOnlyTarget b fs path ↔
      DraftIsFree fs path ∨ ∃ fault, fs.writeFile (draftPath path) b.text = .error fault := by
  rcases saveAs_cases rooted b path with ⟨cause, fault, hwrite, hsave⟩ |
    ⟨place, dir, last, written, hwritten, hwrite, beside, houtcome⟩
  · refine ⟨fun _ => .inr ⟨cause, hwrite⟩, fun _ => ⟨?_, ?_, ?_⟩⟩ <;> simp [hsave]
  · have hcondition : (DraftIsFree fs path ∨
        ∃ fault, fs.writeFile (draftPath path) b.text = .error fault) ↔
        fs.node? (dir ++ [draftName last]) = none := by
      simp [hwrite, beside.draftIsFree_iff]
    rw [hcondition]
    rcases houtcome with ⟨after, fault, hsave, hafter⟩ | ⟨after, hsave, htarget, hafter⟩
    · constructor
      · intro touches
        have hdraft := touches.ofError fault (by rw [hsave]) (dir ++ [draftName last])
        rw [hsave, hafter, if_pos rfl] at hdraft
        exact hdraft.symm
      · intro hfree
        have hsame : ∀ q, after.node? q = fs.node? q := by
          intro q
          rw [hafter, beside.node?_written hwritten hfree]
          split
          · next hq => rw [hq, hfree]
          · rfl
        exact ⟨by simp [hsave, hsame], by simp [hsave, hsame], by simp [hsave]⟩
    · have hne : dir ++ [draftName last] ≠ dir ++ [last] := by simp [draftName_ne]
      constructor
      · intro touches
        have hdraft := touches.others (dir ++ [draftName last]) 
          (by simp [htarget, (draftName_ne last).symm])
        rw [hsave, hafter, if_neg hne, if_pos rfl] at hdraft
        exact hdraft.symm
      · intro hfree
        have hnode : ∀ q, after.node? q =
            if q = dir ++ [last] then some (.file b.text) else fs.node? q := by
          intro q
          rw [hafter, beside.node?_written hwritten hfree, if_pos rfl,
            beside.node?_written hwritten hfree]
          grind
        refine ⟨fun place hplace => ?_, by simp [hsave], fun saved hsaved => ?_⟩
        · rw [hsave, hnode, if_neg]
          rintro rfl
          exact hplace htarget
        · rw [hsave] at hsaved ⊢
          refine ⟨(Except.ok.inj hsaved).symm, _, htarget, ?_⟩
          rw [hnode, if_pos rfl]

/-- A directory with a file, and another file that has the name of its draft. -/
def sourceFiles : FileSystem :=
  { nodes := [(["lib.rs"], .file "fn f() {}"), (["lib.rs.tmp"], .file "notes")] }

theorem rooted_sourceFiles : Rooted sourceFiles :=
  rooted_of_nodes (by decide)

theorem draftIsFree_sourceFiles : DraftIsFree sourceFiles "new.rs" := by
  have hmissing : sourceFiles.linkStat (draftPath "new.rs") = .error .missing := by cbv
  simp [DraftIsFree, hmissing]

theorem sourceFiles_touchesOnlyTarget :
    Rooted sourceFiles ∧ TouchesOnlyTarget (ofText "x") sourceFiles "new.rs" :=
  ⟨rooted_sourceFiles, (saveAs_touchesOnlyTarget_iff rooted_sourceFiles (ofText "x") "new.rs").2
    (.inl draftIsFree_sourceFiles)⟩

/-- The save succeeds, and the file beside the target is gone. -/
theorem sourceFiles_notes_lost :
    ¬ TouchesOnlyTarget (ofText "x") sourceFiles "lib.rs" ∧
    (∃ saved, ((ofText "x").saveAs sourceFiles "lib.rs").2 = .ok saved) ∧
    sourceFiles.readFile "lib.rs.tmp" = .ok "notes" ∧
    ((ofText "x").saveAs sourceFiles "lib.rs").1.readFile "lib.rs.tmp" =
      .error (.file "open" "lib.rs.tmp" .missing) := by
  refine ⟨fun touches => ?_, ⟨{ ofText "x" with path := "lib.rs" }, ?_⟩, ?_, ?_⟩
  · have htarget : sourceFiles.locate false "lib.rs" = .ok ["lib.rs"] := by cbv
    have hbefore : sourceFiles.node? ["lib.rs.tmp"] = some (.file "notes") := by cbv
    have hafter :
        ((ofText "x").saveAs sourceFiles "lib.rs").1.node? ["lib.rs.tmp"] = none := by cbv
    have hsame := touches.others ["lib.rs.tmp"] (by rw [htarget]; decide)
    rw [hbefore, hafter] at hsame
    cases hsame
  all_goals cbv

end DocScribe.Buffer
