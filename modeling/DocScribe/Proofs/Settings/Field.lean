import DocScribe.Cli.SettingsView
import DocScribe.Proofs.Settings.Document
import DocScribe.Proofs.Settings.Library
import DocScribe.Proofs.Settings.Valid
import DocScribe.Proofs.Text.Encoding

/-!
# The table of settings and the JSON form

The JSON form has one leaf for each setting of the table, but for optional ones that are empty or
zero (`leavesBelow_toJson`), and each stands where its names lead (`valueAt?_toJson`).
-/

namespace DocScribe.Settings

open Cli (leavesAt leavesBelow)
open Number (Binary64)

/-- The value as it is shown. -/
def Datum.tree : Datum → Tree
  | .text s => .text s.repaired
  | .int n => .ofJson (.int n)
  | .float x => .ofJson (.float x)

/-- The JSON form leaves a setting out. -/
def Field.isOmitted (f : Field) (s : Settings) : Bool :=
  f.optional && (f.value s).isEmpty

/-- A setting by its key, as it is shown. -/
def Field.entry (f : Field) (s : Settings) : Text × Tree :=
  (f.key, (f.value s).tree)

/-! The JSON form. -/

theorem leavesAt_json (key : Text) (d : Datum) : leavesAt key d.json = [(key, d.tree)] := by
  cases d <;> rfl

theorem leavesBelow_map (start : Text) (s : Settings) (kept : List Field) :
    leavesBelow start (kept.map fun f => (f.name, (f.value s).json)) =
      kept.map fun f => (start ++ f.name, (f.value s).tree) := by
  induction kept with
  | nil => rfl
  | cons f kept ih => rw [List.map_cons, leavesBelow, leavesAt_json, ih, List.map_cons]; rfl

/-- The members that settings of one section have. -/
def membersOf (group : List Field) (s : Settings) : List (Text × Json) :=
  (group.filter fun f => !f.isOmitted s).map fun f => (f.name, (f.value s).json)

theorem loggingMembers_eq_membersOf (s : Settings) :
    loggingMembers s.logging = membersOf loggingFields s := by
  simp only [loggingMembers, membersOf, loggingFields, Field.isOmitted, Datum.isEmpty,
    List.filter_cons, Bool.false_and, Bool.true_and, Bool.not_false, if_true, List.filter_nil]
  cases s.logging.file.isEmpty <;> cases s.logging.maxSize.isEmpty <;>
    cases s.logging.maxBackups == 0 <;> rfl

/-- The JSON form, section by section. -/
theorem toJson_eq (s : Settings) :
    s.toJson = .object
      [("version", .int s.version), ("scan", .object (membersOf scanFields s)),
        ("generation", .object (membersOf generationFields s)),
        ("logging", .object (membersOf loggingFields s))] := by
  rw [← loggingMembers_eq_membersOf]
  rfl

/-- The leaves of a section are its settings. -/
theorem leavesBelow_membersOf {start : Text} {group : List Field}
    (hkey : ∀ f ∈ group, start ++ f.name = f.key) (s : Settings) :
    leavesBelow start (membersOf group s) =
      (group.filter fun f => !f.isOmitted s).map fun f => f.entry s := by
  rw [membersOf, leavesBelow_map]
  refine List.map_congr_left fun f hf => ?_
  rw [hkey f (List.mem_filter.1 hf).1, Field.entry]

/-- The leaves of the JSON form. -/
theorem leavesBelow_toJson (s : Settings) :
    leavesBelow [] s.toJson.members =
      (fields.filter fun f => !f.isOmitted s).map fun f => f.entry s := by
  have hscan := @leavesBelow_membersOf "scan." scanFields (by decide) s
  have hgeneration := @leavesBelow_membersOf "generation." generationFields (by decide) s
  have hlogging := @leavesBelow_membersOf "logging." loggingFields (by decide) s
  have hleaves : leavesBelow [] s.toJson.members =
      (("version" : Text), (Datum.int s.version).tree) ::
        (leavesBelow "scan." (membersOf scanFields s) ++
          (leavesBelow "generation." (membersOf generationFields s) ++
            (leavesBelow "logging." (membersOf loggingFields s) ++ []))) := by
    rw [toJson_eq]
    rfl
  rw [hleaves, hscan, hgeneration, hlogging, List.append_nil, fields,
    List.filter_cons_of_pos (by rfl), List.filter_append, List.filter_append, List.map_cons,
    List.map_append, List.map_append, List.append_assoc]
  rfl

/-! A file of saved settings. -/

theorem path_scanFields : ∀ f ∈ scanFields, f.path = [("scan" : Text), f.name] := by
  decide

theorem path_generationFields :
    ∀ f ∈ generationFields, f.path = [("generation" : Text), f.name] := by
  decide

theorem path_loggingFields : ∀ f ∈ loggingFields, f.path = [("logging" : Text), f.name] := by
  decide

section Group

variable {group : List Field} (distinct : (group.map Field.name).Nodup) (s : Settings)
include distinct

theorem distinct_membersOf : ((membersOf group s).map (·.1)).Nodup := by
  rw [membersOf, List.map_map]
  exact (List.filter_sublist.map Field.name).nodup distinct

/-- A section has a member for each of its settings that is not left out. -/
theorem member?_membersOf {f : Field} (hf : f ∈ group) :
    (Json.object (membersOf group s)).member? f.name =
      if f.isOmitted s then none else some (f.value s).json := by
  cases homitted : f.isOmitted s with
  | false =>
    refine member?_eq_some (distinct_membersOf distinct s) (List.mem_map.2 ⟨f, ?_, rfl⟩)
    rw [List.mem_filter, homitted]
    exact ⟨hf, rfl⟩
  | true =>
    refine member?_eq_none_iff.2 fun hname => ?_
    rw [membersOf, List.map_map, List.mem_map] at hname
    obtain ⟨g, hg, hname⟩ := hname
    obtain ⟨hg, hkept⟩ := List.mem_filter.1 hg
    rw [List.inj_on_of_nodup_map distinct hg hf hname, homitted] at hkept
    cases hkept

theorem valueAt?_group {v : Json} {name : Text}
    (hgroup : v.member? name = some (.object (membersOf group s))) {f : Field} (hf : f ∈ group)
    (hpath : f.path = [name, f.name]) :
    valueAt? v f.path = if f.isOmitted s then none else some (f.value s).json := by
  rw [hpath, valueAt?, hgroup, Option.bind_some, valueAt?, member?_membersOf distinct s hf]
  cases f.isOmitted s <;> rfl

end Group

/-- Each setting that is not left out stands where its names lead. -/
theorem valueAt?_toJson (s : Settings) {f : Field} (hf : f ∈ fields) :
    valueAt? s.toJson f.path = if f.isOmitted s then none else some (f.value s).json := by
  rw [toJson_eq]
  rw [fields, List.mem_cons, List.mem_append, List.mem_append, or_assoc] at hf
  rcases hf with rfl | hf | hf | hf
  · rfl
  · exact valueAt?_group (by decide) s rfl hf (path_scanFields f hf)
  · exact valueAt?_group (by decide) s rfl hf (path_generationFields f hf)
  · exact valueAt?_group (by decide) s rfl hf (path_loggingFields f hf)

/-- The members of a section are settings. -/
theorem mem_fields_of_membersOf {group : List Field} {name : Text} (hgroup : group ⊆ fields)
    (hpath : ∀ f ∈ group, f.path = [name, f.name]) (s : Settings) :
    ∀ leaf ∈ membersOf group s, ∃ f ∈ fields, f.path = [name, leaf.1] := by
  intro leaf hleaf
  obtain ⟨f, hf, rfl⟩ := List.mem_map.1 hleaf
  have hmem := (List.mem_filter.1 hf).1
  exact ⟨f, hgroup hmem, hpath f hmem⟩

/-- The JSON form holds settings and nothing else. -/
theorem isFile_toJson (s : Settings) : IsFile s.toJson.members := by
  have hscan : scanFields ⊆ fields := fun f hf => by simp [fields, hf]
  have hgeneration : generationFields ⊆ fields := fun f hf => by simp [fields, hf]
  have hlogging : loggingFields ⊆ fields := fun f hf => by simp [fields, hf]
  refine ⟨show List.Nodup [("version" : Text), "scan", "generation", "logging"] by decide, ?_⟩
  rw [toJson_eq]
  simp only [Json.members, List.forall_mem_cons, List.not_mem_nil, IsEmpty.forall_iff,
    implies_true, and_true]
  refine ⟨.inl (by decide), .inr ?_, .inr ?_, .inr ?_⟩
  · exact ⟨_, rfl, distinct_membersOf (by decide) s, by decide,
      mem_fields_of_membersOf hscan path_scanFields s⟩
  · exact ⟨_, rfl, distinct_membersOf (by decide) s, by decide,
      mem_fields_of_membersOf hgeneration path_generationFields s⟩
  · exact ⟨_, rfl, distinct_membersOf (by decide) s, by decide,
      mem_fields_of_membersOf hlogging path_loggingFields s⟩

/-! What is shown of a value. -/

theorem same_text_iff (s : Text) {t : Text} (ht : 0xef ∉ t.repaired) :
    (Datum.text s).tree.same (Datum.text t).tree = true ↔ Datum.text s = .text t := by
  rw [Datum.tree, Datum.tree, Tree.same, beq_iff_eq, Datum.text.injEq]
  exact ⟨Text.eq_of_repaired ht, fun h => by rw [h]⟩

theorem same_float_iff {x y : Binary64} (hx : x.IsFinite) (hy : y.IsFinite)
    (hne : y.isNonzero = true) :
    (Datum.float x).tree.same (Datum.float y).tree = true ↔ Datum.float x = .float y := by
  have htree : ∀ {x : Binary64}, x.IsFinite → (Datum.float x).tree = .float x := by
    intro x hx
    obtain ⟨-, -, -, hread⟩ := Binary64.exists_numeral_render hx Json.floatLayout
    rw [Datum.tree, Json.float, Tree.ofJson, hread]
  rw [htree hx, htree hy, Tree.same, Datum.float.injEq]
  exact Binary64.same_iff_eq hx hy hne

/-- An integer is shown as a floating-point number, or as nothing if it is too large for one. A
small one is still told apart from all others. -/
theorem same_int_iff (n : Int) {d : Int} (hd : d.natAbs < 2 ^ 53) (hne : d ≠ 0) :
    (Datum.int n).tree.same (Datum.int d).tree = true ↔ Datum.int n = .int d := by
  obtain ⟨y, hy, hvalue⟩ := Binary64.exists_read_signed hd
  have hnonzero : y.isNonzero = true := Binary64.isNonzero_of_truncate (hvalue ▸ hne)
  rw [Datum.int.injEq, Datum.tree, Datum.tree, Json.int, Json.int, Tree.ofJson, Tree.ofJson, hy]
  cases hx : Binary64.read (Number.signed n) with
  | error e =>
    refine ⟨fun h => absurd h Bool.false_ne_true, ?_⟩
    rintro rfl
    rw [hy] at hx
    cases hx
  | ok x =>
    rw [Tree.same, Binary64.same_iff_eq (Binary64.isFinite_of_read_signed hx)
      (Binary64.isFinite_of_read_signed hy) hnonzero]
    constructor
    · rintro rfl
      exact Binary64.eq_of_read_signed hd (hx.trans hy.symm)
    · rintro rfl
      exact Except.ok.inj (hx.symm.trans hy)

/-- What is shown of a setting is what is shown of its default iff it has its default. -/
theorem same_default_iff {s : Settings} (finite : s.generation.temperature.IsFinite) :
    ∀ f ∈ fields, (f.value s).tree.same (f.value {}).tree = true ↔ f.value s = f.value {} := by
  simp only [fields, scanFields, generationFields, loggingFields, List.cons_append,
    List.nil_append, List.forall_mem_cons]
  refine ⟨?_, ?_, ?_, ?_, ?_, ?_, ?_, ?_, ?_, ?_, ?_, ?_, ?_, ?_, ?_, by simp⟩
  · exact same_int_iff _ (by decide) (by decide)
  · exact same_int_iff _ (by decide) (by decide)
  · exact same_text_iff _ (by decide)
  · exact same_text_iff _ (by decide)
  · exact same_text_iff _ (by decide)
  · exact same_float_iff finite isFinite_default (by decide)
  · exact same_int_iff _ (by decide) (by decide)
  · exact same_text_iff _ (by decide)
  · exact same_text_iff _ (by decide)
  · exact same_int_iff _ (by decide) (by decide)
  · exact same_text_iff _ (by decide)
  · exact same_text_iff _ (by decide)
  · exact same_text_iff _ (by decide)
  · exact same_text_iff _ (by decide)
  · exact same_int_iff _ (by decide) (by decide)

end DocScribe.Settings
