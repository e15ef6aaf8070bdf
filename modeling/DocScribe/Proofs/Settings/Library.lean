import DocScribe.Json.Reader
import DocScribe.Proofs.FileSystem.Sound
import DocScribe.Proofs.Number.Format
import DocScribe.Settings.Library
import Mathlib.Data.List.Nodup

/-!
# What a library of settings is relied on for

Of the library that settings are read with only one thing is needed: where no variable overrides
anything, it takes a setting from the settings file if the file has it, and else the default that is
registered for its key (`Library.TakesFile`). That is asked of files that hold settings and nothing
else (`IsFile`), whose values are written as the program writes them (`Gives`).
-/

namespace DocScribe.Settings

open FileSystem (Sound)

/-! The table of settings. -/

theorem nodup_keys : (fields.map Field.key).Nodup := by
  decide +kernel

/-- A key of the table stands for one setting. -/
theorem eq_of_key {f g : Field} (hf : f ∈ fields) (hg : g ∈ fields) (h : f.key = g.key) : f = g :=
  List.inj_on_of_nodup_map nodup_keys hf hg h

theorem lookup_eq_some_of_mem {α : Type} {entries : List (Text × α)}
    (distinct : (entries.map (·.1)).Nodup) {key : Text} {v : α} (h : (key, v) ∈ entries) :
    entries.lookup key = some v := by
  obtain ⟨before, after, rfl⟩ := List.append_of_mem h
  refine List.lookup_eq_some_iff.2 ⟨before, after, rfl, fun entry hentry => ?_⟩
  rw [bne_iff_ne]
  rintro rfl
  rw [List.map_append, List.nodup_append] at distinct
  exact distinct.2.2 _ (List.mem_map_of_mem hentry) _ List.mem_cons_self rfl

/-- Each setting is registered with its default. -/
theorem lookup_registered {f : Field} (hf : f ∈ fields) :
    registered.lookup f.key = some (f.value {}) := by
  refine lookup_eq_some_of_mem ?_ (List.mem_map_of_mem hf)
  rw [registered, List.map_map]
  exact nodup_keys

/-! Members of objects. -/

section Members

variable {ms : List (Text × Json)} {name : Text}

theorem member?_eq_some (distinct : (ms.map (·.1)).Nodup) {v : Json} (h : (name, v) ∈ ms) :
    (Json.object ms).member? name = some v := by
  have hfind : ms.reverse.find? (fun m => m.1 == name) = some (name, v) := by
    cases hfound : ms.reverse.find? (fun m => m.1 == name) with
    | none =>
      have hmem : (name, v) ∈ ms.reverse := by simpa using h
      exact absurd (beq_self_eq_true name) (List.find?_eq_none.1 hfound _ hmem)
    | some m =>
      have hmem : m ∈ ms := by simpa using List.mem_of_find?_eq_some hfound
      have hname : m.1 = name := by simpa using List.find?_some hfound
      rw [List.inj_on_of_nodup_map distinct hmem h hname]
  rw [Json.member?, Json.members, hfind]
  rfl

theorem mem_of_member? {v : Json} (h : (Json.object ms).member? name = some v) :
    (name, v) ∈ ms := by
  obtain ⟨m, hfind, rfl⟩ := Option.map_eq_some_iff.1 h
  have hmem : m ∈ ms := List.mem_reverse.1 (List.mem_of_find?_eq_some hfind)
  have hname : m.1 = name := by simpa using List.find?_some hfind
  rwa [← hname]

theorem member?_eq_none_iff : (Json.object ms).member? name = none ↔ name ∉ ms.map (·.1) := by
  rw [Json.member?, Json.members, Option.map_eq_none_iff, List.find?_eq_none]
  simp only [List.mem_reverse, beq_iff_eq, List.mem_map, not_exists, not_and]

end Members

/-! The law of a library. -/

/-- No variable overrides a setting. -/
def Environment.Unset (env : Environment) : Prop :=
  ∀ entry ∈ env, ¬ ("RUSTAI_" : Text) <+: entry.1

/-- The value that a path of names leads to in an object. -/
def valueAt? : (v : Json) → (path : List Text) → Option Json
  | v, [] => some v
  | v, name :: path => (v.member? name).bind fun inner => valueAt? inner path

/-- The object holds settings under their own names, each once, and nothing else. -/
structure IsFile (members : List (Text × Json)) : Prop where
  distinct : (members.map (·.1)).Nodup
  /-- A member is a setting outside all sections, or a section. -/
  known : ∀ m ∈ members, (∃ f ∈ fields, f.path = [m.1]) ∨
    ∃ inner, m.2 = .object inner ∧ (inner.map (·.1)).Nodup ∧ (∃ f ∈ fields, f.group = some m.1) ∧
      ∀ leaf ∈ inner, ∃ f ∈ fields, f.path = [m.1, leaf.1]

/-- The settings that are integers. -/
def integers (s : Settings) : List Int :=
  [s.version, s.scan.maxLines, s.generation.maxTokens, s.generation.timeoutSeconds,
    s.logging.maxBackups]

theorem mem_integers (s : Settings) : ∀ f ∈ fields, ∀ n, f.value s = .int n → n ∈ s.integers := by
  simp [fields, scanFields, generationFields, loggingFields, integers]

theorem eq_temperature (s : Settings) :
    ∀ f ∈ fields, ∀ x, f.value s = .float x → x = s.generation.temperature := by
  simp [fields, scanFields, generationFields, loggingFields]

/-- The integers are below `2^53` and the temperature is a number, so JSON can hold them. -/
structure FitsJson (s : Settings) : Prop where
  small : ∀ n ∈ s.integers, n.natAbs < 2 ^ 53
  finite : s.generation.temperature.IsFinite

/-- A file with these members and registered defaults give the settings: each has its value in the
file, or its default if the file does not have it. -/
def Gives (members : List (Text × Json)) (defaults : List (Text × Datum)) (s : Settings) : Prop :=
  ∀ f ∈ fields,
    match valueAt? (.object members) f.path with
    | some v => v = (f.value s).json
    | none => defaults.lookup f.key = some (f.value s)

/-- Where no variable overrides anything, the library takes each setting from the settings file, and
its registered default if the file does not have it. The path of the file has no dollar sign, which
would refer to a variable. -/
def Library.TakesFile (library : Library) : Prop :=
  ∀ {fs : FileSystem} {env : Environment} {root content : Text} {members : List (Text × Json)}
    {s : Settings}, Sound fs → env.Unset → 0x24 ∉ (request root).directory →
    fs.stat (Path.join [(request root).directory, (request root).name ++ (".json" : Text)]) =
      .ok (.file content) →
    Json.read? content = some (.object members) → IsFile members →
    Gives members (request root).defaults s → FitsJson s →
      ∃ gathered, library fs env (request root) = .ok gathered ∧ gathered.settings = .ok s

end DocScribe.Settings
