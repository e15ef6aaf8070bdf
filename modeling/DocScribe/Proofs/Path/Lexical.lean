import DocScribe.Path.Lexical
import DocScribe.Proofs.Text.Lines

/-!
# Clean paths

A path that is written from names of entries is clean: its parts are those names
(`cleanParts_ofParts`), and taking its directory, joining a name to it or making it relative to a
path above works on the list of names. `absoluteParts` are the names of a path taken from a
directory; names that follow a path follow its absolute parts too (`absoluteParts_append`).
-/

namespace DocScribe.Path

/-- A name that stands for a node of a directory, and not for the directory or the one above it. -/
structure IsName (name : Text) : Prop where
  ne_nil : name ≠ []
  ne_dot : name ≠ "."
  ne_dots : name ≠ ".."

/-- A name that can stand for an entry of a directory. -/
structure IsEntry (name : Text) : Prop extends IsName name where
  slash_not_mem : Text.slash ∉ name

theorem isName_of_not {name : Text} (hhere : ¬ (name.isEmpty || name == ("." : Text)) = true)
    (hup : ¬ (name == (".." : Text)) = true) : IsName name := by
  simp only [Bool.or_eq_true, List.isEmpty_iff, beq_iff_eq, not_or] at hhere hup
  exact ⟨hhere.1, hhere.2, hup⟩

section Clean

variable {names : List Text} (entries : ∀ name ∈ names, IsEntry name)

theorem cleanStep_here {name : Text} (h : (name.isEmpty || name == ("." : Text)) = true)
    (rooted : Bool) (done : List Text) : cleanStep rooted done name = done := by
  rw [cleanStep.eq_def, if_pos h]

theorem cleanStep_name {name : Text} (h : IsName name) (rooted : Bool) (done : List Text) :
    cleanStep rooted done name = name :: done := by
  rw [cleanStep.eq_def, if_neg (by simp [h.ne_nil, h.ne_dot]), if_neg (by simp [h.ne_dots])]

include entries

theorem foldl_cleanStep (rooted : Bool) (done : List Text) :
    names.foldl (cleanStep rooted) done = names.reverse ++ done := by
  induction names generalizing done with
  | nil => rfl
  | cons name names ih =>
    obtain ⟨hname, hnames⟩ := List.forall_mem_cons.1 entries
    rw [List.foldl_cons, cleanStep_name hname.toIsName, ih hnames, List.reverse_cons,
      List.append_assoc]
    rfl

theorem parts_join (hne : names ≠ []) : parts (Text.join [Text.slash] names) = names :=
  Text.splitOnByte_join hne fun name hname => (entries name hname).slash_not_mem

omit entries in
theorem ofParts_eq_join (hne : names ≠ []) :
    ofParts true names = Text.join [Text.slash] ([] :: names) := by
  obtain ⟨name, rest, rfl⟩ := List.exists_cons_of_ne_nil hne
  rfl

theorem parts_ofParts (hne : names ≠ []) : parts (ofParts true names) = [] :: names := by
  rw [ofParts_eq_join hne]
  refine Text.splitOnByte_join (by simp) (List.forall_mem_cons.2 ⟨by simp, ?_⟩)
  exact fun name hname => (entries name hname).slash_not_mem

theorem foldl_parts_ofParts (done : List Text) :
    (parts (ofParts true names)).foldl (cleanStep true) done = names.reverse ++ done := by
  by_cases hne : names = []
  · rw [hne]
    rfl
  · rw [parts_ofParts entries hne, List.foldl_cons, cleanStep_here rfl, foldl_cleanStep entries]

theorem cleanParts_ofParts : cleanParts (ofParts true names) = names := by
  have hfold := foldl_parts_ofParts entries []
  rw [cleanParts, show isAbsolute (ofParts true names) = true from rfl, hfold, List.append_nil,
    List.reverse_reverse]

theorem clean_ofParts : clean (ofParts true names) = ofParts true names := by
  rw [clean, cleanParts_ofParts entries]
  rfl

theorem ofParts_injective {others : List Text} (hothers : ∀ name ∈ others, IsEntry name)
    (h : ofParts true names = ofParts true others) : names = others := by
  rw [← cleanParts_ofParts entries, h, cleanParts_ofParts hothers]

omit entries in
theorem ofParts_true_ne_nil : ofParts true names ≠ [] :=
  List.cons_ne_nil _ _

omit entries in
theorem join_pair {dir name : Text} (hdir : dir ≠ []) (hname : name ≠ []) :
    join [dir, name] = clean (dir ++ Text.slash :: name) := by
  have hpresent : [dir, name].filter (fun e => !e.isEmpty) = [dir, name] := by
    simp [hdir, hname]
  have hpath : Text.join [Text.slash] [dir, name] = dir ++ Text.slash :: name := by
    simp [Text.join]
  rw [join, hpresent, hpath, if_neg (by simp)]

/-- A name joined to a clean path is the last name of a clean path. -/
theorem join_ofParts {name : Text} (hname : IsEntry name) :
    join [ofParts true names, name] = ofParts true (names ++ [name]) := by
  have hfold : (parts (ofParts true names ++ Text.slash :: name)).foldl (cleanStep true) [] =
      (names ++ [name]).reverse := by
    rw [parts, Text.splitOnByte_append_cons, List.foldl_append]
    have hfront := foldl_parts_ofParts entries []
    rw [parts] at hfront
    rw [hfront, List.append_nil, ← parts, show parts name = [name] from
      parts_join (by simpa using hname) (List.cons_ne_nil name []), List.reverse_append]
    exact cleanStep_name hname.toIsName true names.reverse
  rw [join_pair ofParts_true_ne_nil hname.ne_nil, clean, cleanParts,
    show isAbsolute (ofParts true names ++ Text.slash :: name) = true from rfl, hfold,
    List.reverse_reverse]

omit entries in
theorem directory_eq_clean {path last : Text} (h : parts path = names ++ [last])
    (hne : names ≠ []) : directory path = clean (Text.join [Text.slash] (names ++ [[]])) := by
  have hreverse : (parts path).reverse = last :: names.reverse := by
    rw [h]
    simp
  have hslash : Text.join [Text.slash] names ++ [Text.slash] =
      Text.join [Text.slash] (names ++ [[]]) := by
    rw [Text.join_concat, Text.terminate_eq_join_append _ hne, List.append_nil]
  rw [directory, hreverse]
  split
  · next hnil => cases hnil
  · next hone => simp [hne] at hone
  · next hcons =>
    obtain ⟨-, rfl⟩ := List.cons.inj hcons
    rw [List.reverse_reverse, hslash]

/-- The directory of a clean path has all its names but the last. -/
theorem directory_ofParts {name : Text} (hname : IsEntry name) :
    directory (ofParts true (names ++ [name])) = ofParts true names := by
  have hall : ∀ n ∈ names ++ [name], IsEntry n := by
    intro n hn
    rcases List.mem_append.1 hn with hn | hn
    · exact entries n hn
    · rw [List.mem_singleton.1 hn]
      exact hname
  have hparts : parts (ofParts true (names ++ [name])) = ([] :: names) ++ [name] :=
    parts_ofParts hall (by simp)
  have hfree : ∀ part ∈ ([] :: names) ++ [[]], Text.slash ∉ part := by
    intro part hpart
    simp only [List.cons_append, List.mem_cons, List.mem_append, List.not_mem_nil,
      or_false] at hpart
    rcases hpart with rfl | hpart | rfl
    · exact List.not_mem_nil
    · exact (entries part hpart).slash_not_mem
    · exact List.not_mem_nil
  have hsplit : parts (Text.join [Text.slash] (([] :: names) ++ [[]])) = ([] :: names) ++ [[]] :=
    Text.splitOnByte_join (by simp) hfree
  have habsolute : isAbsolute (Text.join [Text.slash] (([] :: names) ++ [[]])) = true := by
    cases names <;> rfl
  rw [directory_eq_clean hparts (by simp), clean, cleanParts, habsolute, hsplit,
    List.foldl_append, List.foldl_cons, List.foldl_nil, cleanStep_here rfl, List.foldl_cons,
    cleanStep_here rfl, foldl_cleanStep entries, List.append_nil, List.reverse_reverse]

end Clean

/-- The names of a path, taken from the directory `working` if it is relative. -/
def absoluteParts (working : List Text) (path : Text) : List Text :=
  ((parts path).foldl (cleanStep true) (if isAbsolute path then [] else working.reverse)).reverse

theorem isEntry_of_mem_cleanStep {done : List Text} {part : Text}
    (hdone : ∀ name ∈ done, IsEntry name) (hpart : Text.slash ∉ part) :
    ∀ name ∈ cleanStep true done part, IsEntry name := by
  unfold cleanStep
  split
  · exact hdone
  · next hhere =>
    split
    · cases done with
      | nil => exact hdone
      | cons last rest =>
        obtain ⟨hlast, hrest⟩ := List.forall_mem_cons.1 hdone
        dsimp only
        rw [if_neg (by simp [hlast.ne_dots])]
        exact hrest
    · next hup =>
      exact List.forall_mem_cons.2 ⟨⟨isName_of_not hhere hup, hpart⟩, hdone⟩

theorem isEntry_of_mem_foldl {names done : List Text} (hdone : ∀ name ∈ done, IsEntry name)
    (hnames : ∀ name ∈ names, Text.slash ∉ name) :
    ∀ name ∈ names.foldl (cleanStep true) done, IsEntry name := by
  induction names generalizing done with
  | nil => exact hdone
  | cons name names ih =>
    obtain ⟨hname, hrest⟩ := List.forall_mem_cons.1 hnames
    exact ih (isEntry_of_mem_cleanStep hdone hname) hrest

section Absolute

variable {working : List Text} (entries : ∀ name ∈ working, IsEntry name)
include entries

theorem isEntry_of_mem_absoluteParts (path : Text) :
    ∀ name ∈ absoluteParts working path, IsEntry name := by
  intro name hname
  refine isEntry_of_mem_foldl ?_ (fun part hpart => Text.not_mem_of_mem_splitOnByte hpart) name
    (List.mem_reverse.1 hname)
  split
  · exact fun _ h => absurd h List.not_mem_nil
  · exact fun name hname => entries name (List.mem_reverse.1 hname)

/-- The absolute form of a path is written from its absolute parts. -/
theorem absolute_eq_ofParts (path : Text) :
    absolute (ofParts true working) path = ofParts true (absoluteParts working path) := by
  rw [absolute, absoluteParts]
  by_cases habsolute : isAbsolute path = true
  · rw [if_pos habsolute, if_pos habsolute, clean, cleanParts, habsolute]
  · rw [if_neg habsolute, if_neg habsolute]
    have hworking := foldl_parts_ofParts entries []
    rw [List.append_nil] at hworking
    by_cases hempty : path = []
    · have hnil : (parts []).foldl (cleanStep true) working.reverse = working.reverse :=
        @cleanStep_here [] rfl true working.reverse
      have hjoin : join [ofParts true working, []] = clean (ofParts true working) := rfl
      rw [hempty, hnil, List.reverse_reverse, hjoin, clean_ofParts entries]
    · have hparts : parts (ofParts true working ++ Text.slash :: path) =
          parts (ofParts true working) ++ parts path :=
        Text.splitOnByte_append_cons _ _ _
      rw [join_pair ofParts_true_ne_nil hempty, clean, cleanParts,
        show isAbsolute (ofParts true working ++ Text.slash :: path) = true from rfl, hparts,
        List.foldl_append, hworking]

omit entries in
/-- Names that follow a path follow its absolute parts. -/
theorem absoluteParts_append {root : Text} (hroot : root ≠ []) {names : List Text}
    (hne : names ≠ []) (hnames : ∀ name ∈ names, IsEntry name) :
    absoluteParts working (root ++ Text.slash :: Text.join [Text.slash] names) =
      absoluteParts working root ++ names := by
  have habsolute : isAbsolute (root ++ Text.slash :: Text.join [Text.slash] names) =
      isAbsolute root := by
    obtain ⟨b, s, rfl⟩ := List.exists_cons_of_ne_nil hroot
    rfl
  have hparts : parts (root ++ Text.slash :: Text.join [Text.slash] names) =
      parts root ++ names := by
    rw [parts, Text.splitOnByte_append_cons, ← parts, ← parts, parts_join hnames hne]
  rw [absoluteParts, habsolute, hparts, List.foldl_append, foldl_cleanStep hnames,
    List.reverse_append, List.reverse_reverse, ← absoluteParts]

end Absolute

/-! Relative paths. -/

theorem exists_dropCommon (base target : List Text) :
    ∃ common, base = common ++ (dropCommon base target).1 ∧
      target = common ++ (dropCommon base target).2 := by
  fun_induction dropCommon base target with
  | case1 a as b bs heq ih =>
    obtain ⟨common, hbase, htarget⟩ := ih
    refine ⟨a :: common, congrArg (a :: ·) hbase, ?_⟩
    rw [← beq_iff_eq.1 heq]
    exact congrArg (a :: ·) htarget
  | case2 a as b bs hne => exact ⟨[], rfl, rfl⟩
  | case3 as bs hnil => exact ⟨[], rfl, rfl⟩

theorem dropCommon_append (base names : List Text) :
    dropCommon base (base ++ names) = ([], names) := by
  induction base with
  | nil => cases names <;> rfl
  | cons name base ih => rw [List.cons_append, dropCommon, if_pos (beq_self_eq_true name), ih]

/-- Relative to a base, the names below a path are written alone iff the path is the base. -/
theorem relativeTo_eq_join_iff {base full names : List Text}
    (hbase : ∀ name ∈ base, IsEntry name) (hfull : ∀ name ∈ full, IsEntry name)
    (hnames : ∀ name ∈ names, IsEntry name) (hne : names ≠ []) :
    relativeTo (ofParts true base) (ofParts true (full ++ names)) =
      Text.join [Text.slash] names ↔ full = base := by
  have hall : ∀ name ∈ full ++ names, IsEntry name := by
    intro name hname
    exact (List.mem_append.1 hname).elim (hfull name) (hnames name)
  rw [relativeTo, cleanParts_ofParts hbase, cleanParts_ofParts hall]
  constructor
  · intro h
    obtain ⟨common, hcommon, htarget⟩ := exists_dropCommon base (full ++ names)
    generalize dropCommon base (full ++ names) = rest at *
    obtain ⟨up, down⟩ := rest
    dsimp only at h hcommon htarget
    rw [ofParts, if_neg Bool.false_ne_true] at h
    split at h
    · -- A path that goes nowhere is a dot, which is no entry.
      have hdot := parts_join hnames hne
      rw [← h] at hdot
      exact absurd (hnames "." (by rw [← hdot]; decide)).ne_dot (by simp)
    · next hrel =>
      have hfree : ∀ part ∈ up.map (fun _ => (".." : Text)) ++ down, Text.slash ∉ part := by
        intro part hpart
        rcases List.mem_append.1 hpart with hpart | hpart
        · obtain ⟨-, -, rfl⟩ := List.mem_map.1 hpart
          decide
        · exact (hall part (by rw [htarget]; exact List.mem_append_right _ hpart)).slash_not_mem
      have hsame : up.map (fun _ => (".." : Text)) ++ down = names := by
        rw [← parts_join hnames hne, ← h]
        exact (Text.splitOnByte_join (by simpa using hrel) hfree).symm
      have hup : up = [] := by
        cases up with
        | nil => rfl
        | cons first up =>
          exact absurd rfl (hnames ".." (by rw [← hsame]; simp)).ne_dots
      rw [hup, List.append_nil] at hcommon
      rw [hup, List.map_nil, List.nil_append] at hsame
      rw [hsame] at htarget
      exact (List.append_cancel_right htarget).trans hcommon.symm
  · rintro rfl
    rw [dropCommon_append]
    dsimp only
    rw [List.map_nil, List.nil_append, ofParts, if_neg Bool.false_ne_true,
      if_neg (by simpa using hne)]

end DocScribe.Path
