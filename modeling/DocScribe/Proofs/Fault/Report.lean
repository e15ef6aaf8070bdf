import DocScribe.Fault.Report
import DocScribe.Proofs.Fault.Marks
import Mathlib.Data.List.Basic

/-!
# What a report says

A fault is a tree, and `nodes` lists its nodes depth first (`nodes_eq`, `mem_nodes_iff`). A report
in the tree is kept, the first one if there are several (`FirstReport`). Without one the code is
that of the first entry of a fixed list whose sign occurs anywhere in the tree (`decidedCode`), so
it is the same of all faults with the same signs, however these are nested (`sameSigns_wrap`) or
joined (`sameSigns_of_perm`). The new report has the fault as its cause and bears the same signs,
and a report is its own report.
-/

namespace DocScribe.Fault

/-! The tree. -/

/-- The faults right below this one. -/
def children : Fault → List Fault
  | .report _ cause => cause.toList
  | .compound _ parts => parts
  | _ => []

/-- `g` is the fault or stands somewhere below it. -/
inductive Within (g : Fault) : Fault → Prop where
  | self : Within g g
  | under {f child : Fault} : child ∈ f.children → Within g child → Within g f

/-- Goes from the faults right below a fault to the fault. -/
@[elab_as_elim]
theorem treeInduction {motive : Fault → Prop}
    (step : ∀ f, (∀ child ∈ f.children, motive child) → motive f) (f : Fault) : motive f := by
  refine nodes.induct motive (fun parts => ∀ part ∈ parts, motive part) ?_ ?_ ?_ ?_ ?_ ?_ ?_ ?_ f
  · exact fun notice => step _ (List.forall_mem_nil _)
  · exact fun notice cause hcause => step _ (List.forall_mem_singleton.2 hcause)
  · exact fun separator parts hparts => step _ hparts
  · exact fun text => step _ (List.forall_mem_nil _)
  · exact fun mark => step _ (List.forall_mem_nil _)
  · exact fun field text => step _ (List.forall_mem_nil _)
  · exact List.forall_mem_nil _
  · exact fun part parts hpart hparts => List.forall_mem_cons.2 ⟨hpart, hparts⟩

theorem nodes_eq (f : Fault) : f.nodes = f :: f.children.flatMap nodes := by
  cases f with
  | plain text => rfl
  | marked mark => rfl
  | setting field text => rfl
  | report notice cause =>
    cases cause with
    | none => rfl
    | some cause => rw [nodes, children, Option.toList_some, List.flatMap_singleton]
  | compound separator parts => rw [nodes, allNodes_eq_flatMap, children]

theorem mem_nodes_iff {f g : Fault} : g ∈ f.nodes ↔ Within g f := by
  induction f using treeInduction with
  | step f ih =>
    rw [nodes_eq, List.mem_cons, List.mem_flatMap]
    constructor
    · rintro (rfl | ⟨child, hchild, hg⟩)
      · exact .self
      · exact .under hchild ((ih child hchild).1 hg)
    · rintro (_ | ⟨hchild, hg⟩)
      · exact .inl rfl
      · exact .inr ⟨_, hchild, (ih _ hchild).2 hg⟩

/-! The signs that decide a code. -/

/-- What the code of a report is read off. -/
inductive Sign where
  | mark (mark : Mark)
  | badSetting
  | missing

/-- The fault bears the sign by itself, whatever stands below it. -/
def Sign.IsOn : Sign → Fault → Prop
  | .mark m, f => f = .marked m
  | .badSetting, f => ∃ field message, f = .setting field message
  | .missing, f => ∃ problem : FileProblem, problem.isMissing = true ∧ f = .marked (.file problem)

/-- The sign is somewhere in the fault. -/
def Sign.OccursIn (sign : Sign) (f : Fault) : Prop :=
  ∃ g, Within g f ∧ sign.IsOn g

/-- The signs with a code of their own, most important first. -/
def priorities : List (Sign × Code) :=
  [(.mark (.scan .notFound), .constructNotFound),
   (.mark (.scan .unresolvable), .ownerUnresolvable),
   (.mark (.scan .limitExceeded), .scanLimitExceeded),
   (.mark .notConfigured, .generatorNotConfigured),
   (.mark .generationFailed, .generationFailed),
   (.mark .noParser, .parserUnavailable),
   (.badSetting, .configInvalid),
   (.missing, .fileNotFound)]

theorem occursIn_mark_iff {f : Fault} {mark : Mark} :
    (Sign.mark mark).OccursIn f ↔ f.hasMark mark = true := by
  simp only [hasMark, marks, List.contains_iff_mem, List.mem_filterMap]
  constructor
  · rintro ⟨g, hg, rfl⟩
    exact ⟨_, mem_nodes_iff.2 hg, rfl⟩
  · rintro ⟨g, hg, hmark⟩
    cases g with
    | marked m => exact ⟨_, mem_nodes_iff.1 hg, congrArg Fault.marked (Option.some.inj hmark)⟩
    | _ => cases hmark

theorem occursIn_badSetting_iff {f : Fault} :
    Sign.badSetting.OccursIn f ↔ f.settingField?.isSome = true := by
  rw [settingField?, List.findSome?_isSome_iff]
  constructor
  · rintro ⟨g, hg, field, message, rfl⟩
    exact ⟨_, mem_nodes_iff.2 hg, rfl⟩
  · rintro ⟨g, hg, hfield⟩
    cases g with
    | setting field message => exact ⟨_, mem_nodes_iff.1 hg, field, message, rfl⟩
    | _ => cases hfield

theorem occursIn_missing_iff {f : Fault} : Sign.missing.OccursIn f ↔ f.isMissing = true := by
  rw [isMissing, Bool.or_eq_true, ← occursIn_mark_iff, ← occursIn_mark_iff]
  constructor
  · rintro ⟨g, hg, problem, hproblem, rfl⟩
    cases problem with
    | missing => exact .inl ⟨_, hg, rfl⟩
    | absent => exact .inr ⟨_, hg, rfl⟩
    | _ => cases hproblem
  · rintro (⟨g, hg, rfl⟩ | ⟨g, hg, rfl⟩)
    · exact ⟨_, hg, .missing, rfl, rfl⟩
    · exact ⟨_, hg, .absent, rfl, rfl⟩

instance (sign : Sign) (f : Fault) : Decidable (sign.OccursIn f) :=
  match sign with
  | .mark _ => decidable_of_iff _ occursIn_mark_iff.symm
  | .badSetting => decidable_of_iff _ occursIn_badSetting_iff.symm
  | .missing => decidable_of_iff _ occursIn_missing_iff.symm

/-- The code of the first entry whose sign occurs anywhere in the fault, and that of an unexpected
error if there is none. -/
def decidedCode (f : Fault) : Code :=
  ((priorities.find? fun entry => entry.1.OccursIn f).map Prod.snd).getD .internalError

/-- The same signs are in both faults, at whatever depth and in whatever order. -/
def SameSigns (f g : Fault) : Prop :=
  ∀ sign : Sign, sign.OccursIn f ↔ sign.OccursIn g

theorem SameSigns.decidedCode_eq {f g : Fault} (same : SameSigns f g) :
    f.decidedCode = g.decidedCode := by
  have hoccurs : ∀ sign : Sign, sign.OccursIn f ↔ sign.OccursIn g := same
  simp only [decidedCode, hoccurs]

/-- A sign is on the fault itself or in one of the faults right below it. -/
theorem occursIn_iff {f : Fault} {sign : Sign} :
    sign.OccursIn f ↔ sign.IsOn f ∨ ∃ child ∈ f.children, sign.OccursIn child := by
  constructor
  · rintro ⟨g, _ | ⟨hchild, hg⟩, hsign⟩
    · exact .inl hsign
    · exact .inr ⟨_, hchild, g, hg, hsign⟩
  · rintro (hsign | ⟨child, hchild, g, hg, hsign⟩)
    · exact ⟨f, .self, hsign⟩
    · exact ⟨g, .under hchild hg, hsign⟩

theorem occursIn_compound_iff {separator : Text} {parts : List Fault} {sign : Sign} :
    sign.OccursIn (.compound separator parts) ↔ ∃ part ∈ parts, sign.OccursIn part := by
  have hself : ¬ sign.IsOn (.compound separator parts) := by
    cases sign <;> simp [Sign.IsOn]
  rw [occursIn_iff, or_iff_right hself, children]

/-- A report bears the signs of its cause. -/
theorem occursIn_report_iff {notice : Notice} {cause : Fault} {sign : Sign} :
    sign.OccursIn (.report notice (some cause)) ↔ sign.OccursIn cause := by
  have hself : ¬ sign.IsOn (.report notice (some cause)) := by
    cases sign <;> simp [Sign.IsOn]
  simp [occursIn_iff (f := .report notice (some cause)), hself, children]

theorem not_occursIn_plain (text : Text) (sign : Sign) : ¬ sign.OccursIn (.plain text) := by
  rw [occursIn_iff]
  cases sign <;> simp [Sign.IsOn, children]

/-- Faults may be joined in any order. -/
theorem sameSigns_of_perm {parts others : List Fault} (perm : parts.Perm others)
    (separator separator' : Text) :
    SameSigns (.compound separator parts) (.compound separator' others) := by
  intro sign
  simp only [occursIn_compound_iff, perm.mem_iff]

/-- Context may be put before a fault, any number of times. -/
theorem sameSigns_wrap (contexts : List Text) (f : Fault) :
    SameSigns (contexts.foldr wrap f) f := by
  intro sign
  induction contexts with
  | nil => rfl
  | cons context contexts ih =>
    rw [List.foldr_cons, wrap, occursIn_compound_iff, ← ih]
    simp [not_occursIn_plain]

/-! Reports. -/

/-- The fault is a report. -/
def isReport : Fault → Bool
  | .report .. => true
  | _ => false

/-- A report is somewhere in the fault. -/
def HoldsReport (f : Fault) : Prop :=
  ∃ g, Within g f ∧ g.isReport = true

/-- `found` is the first report in the fault: a fault comes before the ones below it, and of these
each comes with all below it before the next. -/
inductive FirstReport (found : Fault) : Fault → Prop where
  | self : found.isReport = true → FirstReport found found
  | under {f child : Fault} {before after : List Fault} : f.isReport = false →
      f.children = before ++ child :: after → (∀ other ∈ before, ¬ HoldsReport other) →
      FirstReport found child → FirstReport found f

theorem report?_eq (f : Fault) : f.report? = f.nodes.find? isReport := by
  refine congrArg (List.find? · f.nodes) (funext fun g => ?_)
  cases g <;> rfl

theorem report?_eq_none_iff {f : Fault} : f.report? = none ↔ ¬ HoldsReport f := by
  simp [report?_eq, List.find?_eq_none, HoldsReport, mem_nodes_iff]

/-- The search looks at the fault and then at the faults below it one after the other. -/
theorem report?_step (f : Fault) :
    f.report? = if f.isReport then some f else f.children.findSome? report? := by
  rw [report?_eq, nodes_eq, List.find?_cons, List.find?_flatMap, ← funext report?_eq]
  cases f.isReport <;> rfl

theorem report?_eq_some_iff {f found : Fault} : f.report? = some found ↔ FirstReport found f := by
  induction f using treeInduction with
  | step f ih =>
    rw [report?_step]
    cases hf : f.isReport with
    | true =>
      rw [if_pos rfl, Option.some.injEq]
      constructor
      · rintro rfl
        exact .self hf
      · rintro (_ | ⟨hno, -, -, -⟩)
        · rfl
        · rw [hf] at hno
          cases hno
    | false =>
      rw [if_neg Bool.false_ne_true, List.findSome?_eq_some_iff]
      constructor
      · rintro ⟨before, child, after, hchildren, hfound, hbefore⟩
        have hchild : child ∈ f.children := by simp [hchildren]
        exact .under hf hchildren (fun other hother => report?_eq_none_iff.1 (hbefore other hother))
          ((ih child hchild).1 hfound)
      · rintro (hself | ⟨-, hchildren, hbefore, hfirst⟩)
        · rw [hf] at hself
          cases hself
        · have hchild : _ ∈ f.children := hchildren ▸ List.mem_append_right _ List.mem_cons_self
          exact ⟨_, _, _, hchildren, (ih _ hchild).2 hfirst,
            fun other hother => report?_eq_none_iff.2 (hbefore other hother)⟩

theorem isReport_of_report? {f found : Fault} (h : f.report? = some found) :
    found.isReport = true := by
  rw [report?_eq] at h
  exact List.find?_some h

/-- A report is its own report. -/
theorem toReport_of_isReport {f : Fault} (h : f.isReport = true) : f.toReport = f := by
  rw [toReport, report?_step, if_pos h]

/-- Without a report in it, the fault becomes the cause of a new one. -/
theorem exists_notice_toReport {f : Fault} (h : ¬ HoldsReport f) :
    ∃ notice, f.toReport = .report notice (some f) ∧ notice.code = f.decidedCode := by
  have hmarks : priorities = markCodes.map (fun entry => (Sign.mark entry.1, entry.2.1)) ++
      [(.badSetting, .configInvalid), (.missing, .fileNotFound)] := rfl
  have hdecide : ((fun entry : Sign × Code => decide (entry.1.OccursIn f)) ∘
      fun entry : Mark × Code × Text => (Sign.mark entry.1, entry.2.1)) =
        fun entry => f.hasMark entry.1 := by
    funext entry
    simp [occursIn_mark_iff]
  rw [toReport, report?_eq_none_iff.2 h, decidedCode, hmarks, List.find?_append, List.find?_map,
    hdecide]
  cases hmark : markCodes.find? fun entry => f.hasMark entry.1 with
  | some entry => exact ⟨_, rfl, rfl⟩
  | none =>
    cases hfield : f.settingField? with
    | some field =>
      have hsetting : Sign.badSetting.OccursIn f := occursIn_badSetting_iff.2 (by rw [hfield]; rfl)
      exact ⟨_, rfl, by simp [hsetting]⟩
    | none =>
      have hsetting : ¬ Sign.badSetting.OccursIn f := by simp [occursIn_badSetting_iff, hfield]
      by_cases hmissing : f.isMissing = true
      · exact ⟨_, if_pos hmissing, by simp [hsetting, occursIn_missing_iff, hmissing]⟩
      · exact ⟨_, if_neg hmissing, by simp [hsetting, occursIn_missing_iff, hmissing]⟩

theorem isReport_toReport (f : Fault) : f.toReport.isReport = true := by
  by_cases h : HoldsReport f
  · obtain ⟨found, hfound⟩ := Option.ne_none_iff_exists'.1 (mt report?_eq_none_iff.1 (not_not.2 h))
    have htoReport : f.toReport = found := by rw [toReport, hfound]
    exact htoReport ▸ isReport_of_report? hfound
  · obtain ⟨notice, hnotice, -⟩ := exists_notice_toReport h
    rw [hnotice, isReport]

theorem holdsReport_iff {f : Fault} : HoldsReport f ↔ ∃ found, FirstReport found f := by
  simp only [← report?_eq_some_iff, ← Option.isSome_iff_exists, ← Option.ne_none_iff_isSome, ne_eq,
    report?_eq_none_iff, not_not]

theorem hasMark_report (notice : Notice) (cause : Fault) (mark : Mark) :
    (Fault.report notice (some cause)).hasMark mark = cause.hasMark mark := by
  rw [Bool.eq_iff_iff, ← occursIn_mark_iff, ← occursIn_mark_iff, occursIn_report_iff]

theorem isMissing_report (notice : Notice) (cause : Fault) :
    (Fault.report notice (some cause)).isMissing = cause.isMissing := by
  rw [isMissing, hasMark_report, hasMark_report, isMissing]

/-- The code that a report shows. -/
def code? (f : Fault) : Option Code :=
  f.notice?.map fun report => report.1.code

/-- What the report `r` on the fault `f` says. -/
structure ReportsOn (r f : Fault) : Prop where
  /-- The first report in the fault is kept. -/
  kept : ∀ found, FirstReport found f → r = found
  /-- Without one the fault is the cause of a new report, and its signs decide the code. -/
  decided : ¬ HoldsReport f → ∃ notice, r = .report notice (some f) ∧ notice.code = f.decidedCode
  /-- The shape of the fault decides nothing. -/
  shapeless : ¬ HoldsReport f → ∀ g, ¬ HoldsReport g → SameSigns f g → r.code? = g.toReport.code?
  /-- Callers find the same marks in the new report as in the fault. -/
  marks_eq : ¬ HoldsReport f → ∀ mark, r.hasMark mark = f.hasMark mark
  missing_eq : ¬ HoldsReport f → r.isMissing = f.isMissing
  /-- A report is its own report. -/
  again : r.toReport = r

/-- **A report is read off the whole tree**: the first report in it, or else a new one with the code
of the most important sign, wherever that stands. -/
theorem reportsOn_toReport (f : Fault) :
    ReportsOn f.toReport f ∧ (HoldsReport f ↔ ∃ found, FirstReport found f) := by
  refine ⟨⟨?_, exists_notice_toReport, ?_, ?_, ?_, toReport_of_isReport (isReport_toReport f)⟩,
    holdsReport_iff⟩
  · intro found hfirst
    rw [toReport, report?_eq_some_iff.2 hfirst]
  · intro hf g hg same
    obtain ⟨notice, hnotice, hcode⟩ := exists_notice_toReport hf
    obtain ⟨notice', hnotice', hcode'⟩ := exists_notice_toReport hg
    rw [hnotice, hnotice', code?, code?, notice?, notice?, Option.map_some, Option.map_some, hcode,
      hcode', same.decidedCode_eq]
  · intro h mark
    obtain ⟨notice, hnotice, -⟩ := exists_notice_toReport h
    rw [hnotice, hasMark_report]
  · intro h
    obtain ⟨notice, hnotice, -⟩ := exists_notice_toReport h
    rw [hnotice, isMissing_report]

example :
    (join [file "open" "a.rs" .missing, .setting "version" "bad",
      wrap "doc" (.marked .generationFailed)]).toReport.code? = some .generationFailed := by
  decide +kernel

end DocScribe.Fault
