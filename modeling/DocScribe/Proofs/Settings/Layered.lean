import DocScribe.Proofs.FileSystem.Absolute
import DocScribe.Proofs.Settings.Layer
import DocScribe.Proofs.Text.Case
import DocScribe.Settings.Load
import Mathlib

/-!
# The program's library takes the settings file

Layers over a file of settings have the keys of the defaults (`keys_file`). Without variables each
key has the value that the file and the defaults give it (`value?_field`), and put together these
values are read as the settings (`read?_merged`). So the library that the program has does what is
relied on (**`takesFile_layered`**).
-/

namespace DocScribe.Settings

open FileSystem (Sound)
open Text (lowerByte)

/-! Names in lower case. -/

theorem loweredMembers_eq_map (ms : List (Text × Json)) :
    loweredMembers ms = ms.map fun m => (m.1.toLower, lowered m.2) := by
  induction ms with
  | nil => rfl
  | cons m ms ih =>
    obtain ⟨name, v⟩ := m
    rw [loweredMembers, ih, List.map_cons]

theorem membersFit_iff {ms : List (Text × Json)} :
    membersFit ms = true ↔ ∀ m ∈ ms, numbersFit m.2 = true := by
  induction ms with
  | nil => simp [membersFit]
  | cons m ms ih =>
    obtain ⟨name, v⟩ := m
    rw [membersFit, Bool.and_eq_true, ih, List.forall_mem_cons]

theorem membersFit_known_iff {known : List Text} {start : Text} {ms : List (Text × Json)} :
    MembersFit known start ms ↔ ∀ m ∈ ms, Fits known (start ++ m.1) m.2 := by
  induction ms with
  | nil => simp [MembersFit]
  | cons m ms ih =>
    obtain ⟨name, v⟩ := m
    rw [MembersFit, ih, List.forall_mem_cons]

theorem lowered_json (d : Datum) : lowered d.json = d.json := by
  cases d <;> rfl

theorem isNull_json (d : Datum) : d.json.isNull = false := by
  cases d <;> rfl

theorem fits_json {known : List Text} {key : Text} (h : key ∈ known) (d : Datum) :
    Fits known key d.json := by
  cases d <;> exact h

/-! The table of settings. -/

theorem toLower_name {f : Field} (hf : f ∈ fields) {name : Text} (h : name ∈ f.path) :
    name.toLower = name.map lowerByte := by
  have hascii : ∀ f ∈ fields, ∀ name ∈ f.path, name.all (· < 0x80) = true := by decide
  have hname := List.all_eq_true.1 (hascii f hf name h)
  exact Text.toLower_of_ascii fun b hb => of_decide_eq_true (hname b hb)

theorem toLower_key {f : Field} (hf : f ∈ fields) : f.key.toLower = f.key.map lowerByte := by
  have hascii : ∀ f ∈ fields, f.key.all (· < 0x80) = true := by decide
  have hkey := List.all_eq_true.1 (hascii f hf)
  exact Text.toLower_of_ascii fun b hb => of_decide_eq_true (hkey b hb)

theorem toLower_path {f : Field} (hf : f ∈ fields) :
    f.path.map Text.toLower = f.path.map (List.map lowerByte) :=
  List.map_congr_left fun _ hname => toLower_name hf hname

theorem splitOnByte_key {f : Field} (hf : f ∈ fields) :
    f.key.toLower.splitOnByte 0x2e = f.path.map Text.toLower := by
  have hsplit : ∀ f ∈ fields,
      Text.splitOnByte 0x2e (f.key.map lowerByte) = f.path.map (List.map lowerByte) := by
    decide
  rw [toLower_key hf, hsplit f hf, toLower_path hf]

/-- Names in lower case tell the settings apart. -/
theorem name_inj {f g : Field} (hf : f ∈ fields) (hg : g ∈ fields)
    (h : f.name.toLower = g.name.toLower) : f.name = g.name := by
  have hnodup : (fields.map fun f => f.name.map lowerByte).Nodup := by decide
  have hmem : ∀ f : Field, f.name ∈ f.path := fun f => by simp [Field.path]
  rw [toLower_name hf (hmem f), toLower_name hg (hmem g)] at h
  rw [List.inj_on_of_nodup_map hnodup hf hg h]

/-- The names at the top of a file are in lower case and have no dots. -/
theorem toLower_head {f : Field} (hf : f ∈ fields) {name : Text} (h : f.path.head? = some name) :
    name.toLower = name ∧ 0x2e ∉ name := by
  have hall : ∀ f ∈ fields, ∀ name ∈ f.path.head?, name.map lowerByte = name ∧ 0x2e ∉ name := by
    decide
  rw [toLower_name hf (List.mem_of_head? h)]
  exact hall f hf name h

theorem group_ne_path : ∀ f ∈ fields, ∀ g ∈ fields, ∀ name ∈ f.group, g.path ≠ [name] := by
  decide

theorem path_eq_singleton_iff {f : Field} {name : Text} :
    f.path = [name] ↔ f.group = none ∧ f.name = name := by
  rw [Field.path]
  cases f.group <;> simp

theorem path_eq_pair_iff {f : Field} {group name : Text} :
    f.path = [group, name] ↔ f.group = some group ∧ f.name = name := by
  rw [Field.path]
  cases f.group <;> simp

section File

variable {members : List (Text × Json)} (isFile : IsFile members)
include isFile

/-! What layers look at in a file. -/

theorem name_of_mem {m : Text × Json} (h : m ∈ members) : m.1.toLower = m.1 ∧ 0x2e ∉ m.1 := by
  rcases isFile.known m h with ⟨f, hf, hpath⟩ | ⟨-, -, -, ⟨f, hf, hgroup⟩, -⟩
  · exact toLower_head hf (by rw [hpath]; rfl)
  · exact toLower_head hf (by rw [Field.path, hgroup]; rfl)

theorem names_loweredMembers : (loweredMembers members).map (·.1) = members.map (·.1) := by
  rw [loweredMembers_eq_map, List.map_map]
  exact List.map_congr_left fun m hm => (name_of_mem isFile hm).1

theorem lowered_file : lowered (.object members) = .object (loweredMembers members) := by
  have hdistinct : ((loweredMembers members).map (·.1)).Nodup := by
    rw [names_loweredMembers isFile]
    exact isFile.distinct
  rw [lowered, lastOfEach_eq_self hdistinct]

theorem mem_loweredMembers {name : Text} {v : Json} (h : (name, v) ∈ members) :
    (name, lowered v) ∈ loweredMembers members := by
  rw [loweredMembers_eq_map]
  exact List.mem_map.2 ⟨_, h, by rw [(name_of_mem isFile h).1]⟩

/-- No member has a name with a dot. -/
theorem dotted_not_mem (group name : Text) :
    Text.join [0x2e] [group, name] ∉ (loweredMembers members).map (·.1) := by
  rw [names_loweredMembers isFile]
  intro h
  obtain ⟨m, hm, hname⟩ := List.mem_map.1 h
  refine (name_of_mem isFile hm).2 ?_
  rw [hname]
  simp [Text.join]

variable {s : Settings} (gives : Gives members registered s)
include gives

/-- A member outside all sections is a setting. -/
theorem json_of_mem {f : Field} (hf : f ∈ fields) {m : Text × Json} (hm : m ∈ members)
    (hpath : f.path = [m.1]) : m.2 = (f.value s).json := by
  have hgives := gives f hf
  rw [hpath, valueAt?, member?_eq_some isFile.distinct hm] at hgives
  exact hgives

/-- A member of a section is a setting. -/
theorem exists_field_of_mem {group : Text} {inner : List (Text × Json)}
    (hgroup : (group, .object inner) ∈ members) :
    (inner.map (·.1)).Nodup ∧ ∀ leaf ∈ inner, ∃ f ∈ fields, f.group = some group ∧
      f.name = leaf.1 ∧ leaf.2 = (f.value s).json := by
  rcases isFile.known _ hgroup with ⟨f, hf, hpath⟩ | ⟨inner', hinner, distinct, -, hleaves⟩
  · have hjson := json_of_mem isFile gives hf hgroup hpath
    cases hvalue : f.value s <;> rw [hvalue] at hjson <;> cases hjson
  · obtain rfl := Json.object.inj hinner
    refine ⟨distinct, fun leaf hleaf => ?_⟩
    obtain ⟨f, hf, hpath⟩ := hleaves leaf hleaf
    have hgives := gives f hf
    rw [hpath, valueAt?, member?_eq_some isFile.distinct hgroup, Option.bind_some, valueAt?,
      member?_eq_some distinct hleaf] at hgives
    exact ⟨f, hf, (path_eq_pair_iff.1 hpath).1, (path_eq_pair_iff.1 hpath).2, hgives⟩

/-- The members of a section with their names in lower case. -/
theorem lowered_section {group : Text} {inner : List (Text × Json)}
    (hgroup : (group, .object inner) ∈ members) :
    lowered (.object inner) = .object (inner.map fun leaf => (leaf.1.toLower, leaf.2)) ∧
      ((inner.map fun leaf => (leaf.1.toLower, leaf.2)).map (·.1)).Nodup := by
  obtain ⟨distinct, hleaves⟩ := exists_field_of_mem isFile gives hgroup
  have hsame : loweredMembers inner = inner.map fun leaf => (leaf.1.toLower, leaf.2) := by
    rw [loweredMembers_eq_map]
    refine List.map_congr_left fun leaf hleaf => ?_
    obtain ⟨f, -, -, -, hjson⟩ := hleaves leaf hleaf
    rw [hjson, lowered_json]
  have hdistinct : ((inner.map fun leaf => (leaf.1.toLower, leaf.2)).map (·.1)).Nodup := by
    have hnames : (inner.map fun leaf => (leaf.1.toLower, leaf.2)).map (·.1) =
        (inner.map (·.1)).map Text.toLower := by
      simp
    rw [hnames]
    refine distinct.map_on fun name hname other hother hlower => ?_
    obtain ⟨leaf, hleaf, rfl⟩ := List.mem_map.1 hname
    obtain ⟨leaf', hleaf', rfl⟩ := List.mem_map.1 hother
    obtain ⟨f, hf, -, hfname, -⟩ := hleaves leaf hleaf
    obtain ⟨g, hg, -, hgname, -⟩ := hleaves leaf' hleaf'
    rw [← hfname, ← hgname] at hlower ⊢
    exact name_inj hf hg hlower
  refine ⟨?_, hdistinct⟩
  rw [lowered, hsame, lastOfEach_eq_self hdistinct]

/-- A setting of a section is found by its name in lower case. -/
theorem present?_section {group : Text} {inner : List (Text × Json)}
    (hgroup : (group, .object inner) ∈ members) {f : Field} (hf : f ∈ fields) :
    Layers.present? (.object (inner.map fun leaf => (leaf.1.toLower, leaf.2))) f.name.toLower =
      (Json.object inner).member? f.name := by
  obtain ⟨distinct, hleaves⟩ := exists_field_of_mem isFile gives hgroup
  cases hmember : (Json.object inner).member? f.name with
  | some v =>
    have hmem := mem_of_member? hmember
    obtain ⟨g, -, -, -, hjson⟩ := hleaves _ hmem
    refine Layers.present?_eq_some (lowered_section isFile gives hgroup).2
      (List.mem_map_of_mem (f := fun leaf : Text × Json => (leaf.1.toLower, leaf.2)) hmem) ?_
    rw [show v = (g.value s).json from hjson, isNull_json]
  | none =>
    refine Layers.present?_eq_none fun hname => ?_
    simp only [List.map_map, List.mem_map, Function.comp_apply] at hname
    obtain ⟨leaf, hleaf, hlower⟩ := hname
    obtain ⟨g, hg, -, hgname, -⟩ := hleaves leaf hleaf
    rw [← hgname] at hlower
    refine member?_eq_none_iff.1 hmember (List.mem_map.2 ⟨leaf, hleaf, ?_⟩)
    rw [← hgname, name_inj hg hf hlower]

/-- The layers find a setting where the file has it. -/
theorem at?_file {f : Field} (hf : f ∈ fields) :
    Layers.at? (lowered (.object members)) (f.path.map Text.toLower) =
        valueAt? (.object members) f.path ∧
      Layers.isHidden (lowered (.object members)) (f.path.map Text.toLower) = false := by
  have hdistinct : ((loweredMembers members).map (·.1)).Nodup := by
    rw [names_loweredMembers isFile]
    exact isFile.distinct
  rw [lowered_file isFile]
  cases hgroup : f.group with
  | none =>
    have hpath : f.path = [f.name] := path_eq_singleton_iff.2 ⟨hgroup, rfl⟩
    have hlower : f.name.toLower = f.name := (toLower_head hf (by rw [hpath]; rfl)).1
    rw [hpath, List.map_singleton, hlower, Layers.at?_name, valueAt?]
    refine ⟨?_, rfl⟩
    cases hmember : (Json.object members).member? f.name with
    | some v =>
      have hmem := mem_of_member? hmember
      have hjson := json_of_mem isFile gives hf hmem hpath
      have hlowered := mem_loweredMembers isFile hmem
      rw [show v = (f.value s).json from hjson, lowered_json] at hlowered
      rw [Layers.present?_eq_some hdistinct hlowered (isNull_json _), ← hjson]
      rfl
    | none =>
      rw [Layers.present?_eq_none]
      · rfl
      · rw [names_loweredMembers isFile]
        exact member?_eq_none_iff.1 hmember
  | some group =>
    have hpath : f.path = [group, f.name] := path_eq_pair_iff.2 ⟨hgroup, rfl⟩
    have hlower : group.toLower = group := (toLower_head hf (by rw [hpath]; rfl)).1
    rw [hpath, List.map_cons, List.map_singleton, hlower, valueAt?]
    cases hmember : (Json.object members).member? group with
    | some v =>
      have hmem := mem_of_member? hmember
      obtain ⟨inner, rfl⟩ : ∃ inner, v = .object inner := by
        rcases isFile.known _ hmem with ⟨g, hg, hname⟩ | ⟨inner, hinner, -⟩
        · exact absurd hname (group_ne_path f hf g hg group hgroup)
        · exact ⟨inner, hinner⟩
      have hsection := mem_loweredMembers isFile hmem
      rw [(lowered_section isFile gives hmem).1] at hsection
      refine ⟨?_, Layers.isHidden_section hdistinct hsection⟩
      rw [Layers.at?_section hdistinct hsection (dotted_not_mem isFile _ _),
        present?_section isFile gives hmem hf, Option.bind_some, valueAt?]
      cases (Json.object inner).member? f.name <;> rfl
    | none =>
      have habsent : group ∉ (loweredMembers members).map (·.1) := by
        rw [names_loweredMembers isFile]
        exact member?_eq_none_iff.1 hmember
      exact ⟨Layers.at?_absent habsent (dotted_not_mem isFile _ _), Layers.isHidden_absent habsent⟩

end File

/-! The defaults. -/

/-- Registered settings, as an object with names in lower case. -/
def sections (s : Settings) : List (Text × Json) :=
  [("version", .int s.version), ("scan", .object [("maxlines", .int s.scan.maxLines)]),
   ("generation", .object
      [("provider", .string s.generation.provider), ("model", .string s.generation.model),
       ("baseurl", .string s.generation.baseUrl), ("temperature", .float s.generation.temperature),
       ("maxtokens", .int s.generation.maxTokens), ("apikeyenv", .string s.generation.apiKeyEnv),
       ("promptsfile", .string s.generation.promptsFile),
       ("timeoutseconds", .int s.generation.timeoutSeconds)]),
   ("logging", .object
      [("format", .string s.logging.format), ("level", .string s.logging.level),
       ("file", .string s.logging.file), ("maxsize", .string s.logging.maxSize),
       ("maxbackups", .int s.logging.maxBackups)])]

theorem ofDefaults_fields (s : Settings) :
    Layers.ofDefaults (fields.map fun f => (f.key, f.value s)) = .object (sections s) := by
  have hpath : ∀ (all : Json), ∀ f ∈ fields,
      Layers.put (f.value s).json (f.key.toLower.splitOnByte 0x2e) all =
        Layers.put (f.value s).json (f.path.map (List.map lowerByte)) all := by
    intro all f hf
    rw [splitOnByte_key hf, toLower_path hf]
  rw [Layers.ofDefaults, List.foldl_map, List.foldl_ext _ _ _ hpath]
  cbv

theorem at?_sections (s : Settings) : ∀ f ∈ fields,
    Layers.at? (.object (sections s)) (f.path.map (List.map lowerByte)) =
      some (f.value s).json := by
  simp only [fields, scanFields, generationFields, loggingFields, List.cons_append,
    List.nil_append, List.forall_mem_cons]
  refine ⟨?_, ?_, ?_, ?_, ?_, ?_, ?_, ?_, ?_, ?_, ?_, ?_, ?_, ?_, ?_, by simp⟩
  all_goals cbv

/-! Keys. -/

/-- The keys of the settings in order. -/
def settingKeys : List Text :=
  ["generation.apikeyenv", "generation.baseurl", "generation.maxtokens", "generation.model",
   "generation.promptsfile", "generation.provider", "generation.temperature",
   "generation.timeoutseconds", "logging.file", "logging.format", "logging.level",
   "logging.maxbackups", "logging.maxsize", "scan.maxlines", "version"]

theorem key_mem_settingKeys {f : Field} (hf : f ∈ fields) :
    Text.join [0x2e] (f.path.map Text.toLower) ∈ settingKeys := by
  have hall : ∀ f ∈ fields,
      Text.join [0x2e] (f.path.map (List.map lowerByte)) ∈ settingKeys := by
    decide
  rw [toLower_path hf]
  exact hall f hf

theorem group_not_mem_settingKeys : ∀ f ∈ fields, ∀ group ∈ f.group, group ∉ settingKeys := by
  decide

theorem membersFit_sections (s : Settings) : MembersFit settingKeys [] (sections s) := by
  simp only [sections, Json.int, Json.float, MembersFit, Fits]
  refine ⟨by decide, ⟨by decide, by decide, trivial⟩, ⟨by decide, ?_⟩, ⟨by decide, ?_⟩, trivial⟩
  · decide
  · decide

theorem settingKeys_subset (s : Settings) : settingKeys ⊆ memberLeafKeys [] (sections s) := by
  simp only [sections, Json.int, Json.float, memberLeafKeys, leafKeys]
  decide

section Layers

variable {members : List (Text × Json)} (isFile : IsFile members) {s : Settings}
  (gives : Gives members registered s)
include isFile gives

/-- A file has no keys but those of the settings. -/
theorem membersFit_file : MembersFit settingKeys [] (loweredMembers members) := by
  rw [membersFit_known_iff, loweredMembers_eq_map]
  intro _ hlower
  obtain ⟨m, hm, rfl⟩ := List.mem_map.1 hlower
  have hname := (name_of_mem isFile hm).1
  obtain ⟨name, v⟩ := m
  dsimp only at hname ⊢
  rcases isFile.known _ hm with ⟨f, hf, hpath⟩ | ⟨inner, rfl, -, ⟨f, hf, hgroup⟩, -⟩
  · have hkey := key_mem_settingKeys hf
    rw [hpath] at hkey
    rw [show v = (f.value s).json from json_of_mem isFile gives hf hm hpath, lowered_json]
    exact fits_json hkey _
  · rw [(lowered_section isFile gives hm).1, hname]
    refine ⟨group_not_mem_settingKeys f hf name hgroup, membersFit_known_iff.2 fun _ hlower => ?_⟩
    obtain ⟨leaf, hleaf, rfl⟩ := List.mem_map.1 hlower
    obtain ⟨g, hg, hgroup, hleafname, hjson⟩ :=
      (exists_field_of_mem isFile gives hm).2 leaf hleaf
    have hkey := key_mem_settingKeys hg
    rw [path_eq_pair_iff.2 ⟨hgroup, hleafname⟩, List.map_cons, List.map_singleton, hname] at hkey
    dsimp only
    rw [hjson]
    exact fits_json hkey _

variable {l : Layers} (file : l.file = lowered (.object members))
  (defaults : l.defaults = .object (sections {}))
include file defaults

theorem keys_file : l.keys = settingKeys := by
  refine keys_eq (by decide) ?_ ?_ ?_
  · rw [file, lowered_file isFile]
    exact membersFit_file isFile gives
  · rw [defaults]
    exact membersFit_sections {}
  · rw [defaults]
    exact settingKeys_subset {}

/-- Each key has the value that the file and the defaults give it. -/
theorem value?_field (unset : ∀ key, l.override? key = none) {f : Field} (hf : f ∈ fields) :
    l.value? (f.key.map lowerByte) = some (f.value s).json := by
  obtain ⟨hfile, hshown⟩ := at?_file isFile gives hf
  have hdefault := at?_sections {} f hf
  have hgives := gives f hf
  rw [← toLower_key hf, Layers.value?_of_unset unset (by rw [file, splitOnByte_key hf, hshown]),
    file, defaults, splitOnByte_key hf, hfile, toLower_path hf, hdefault]
  cases hvalue : valueAt? (.object members) f.path with
  | some v =>
    rw [hvalue] at hgives
    rw [← hgives]
    rfl
  | none =>
    rw [hvalue, lookup_registered hf] at hgives
    rw [← Option.some.inj hgives]
    rfl

end Layers

/-- The settings by key, in the order of the keys. -/
def entries (s : Settings) : List (Text × Json) :=
  [("generation.apikeyenv", .string s.generation.apiKeyEnv),
   ("generation.baseurl", .string s.generation.baseUrl),
   ("generation.maxtokens", .int s.generation.maxTokens),
   ("generation.model", .string s.generation.model),
   ("generation.promptsfile", .string s.generation.promptsFile),
   ("generation.provider", .string s.generation.provider),
   ("generation.temperature", .float s.generation.temperature),
   ("generation.timeoutseconds", .int s.generation.timeoutSeconds),
   ("logging.file", .string s.logging.file),
   ("logging.format", .string s.logging.format),
   ("logging.level", .string s.logging.level),
   ("logging.maxbackups", .int s.logging.maxBackups),
   ("logging.maxsize", .string s.logging.maxSize),
   ("scan.maxlines", .int s.scan.maxLines),
   ("version", .int s.version)]

/-! Reading. -/

theorem looseInt?_int {n : Int} (h : n.natAbs < 2 ^ 53) : looseInt? (.int n) = some n := by
  obtain ⟨x, hx, hn⟩ := Number.Binary64.exists_read_signed h
  rw [Json.int, looseInt?, hx]
  exact congrArg some hn

theorem looseFloat?_float {x : Number.Binary64} (finite : x.IsFinite) :
    looseFloat? (.float x) = some x := by
  obtain ⟨-, -, -, hx⟩ := Number.Binary64.exists_numeral_render finite Json.floatLayout
  rw [Json.float, looseFloat?.eq_def]
  dsimp only
  rw [Json.float?, hx]

/-- The settings of the log in the order of their keys. -/
def orderedLogging (l : LoggingSettings) : List (Text × Json) :=
  [("file", .string l.file), ("format", .string l.format), ("level", .string l.level),
   ("maxbackups", .int l.maxBackups), ("maxsize", .string l.maxSize)]

/-- The settings of the generator in the order of their keys. -/
def orderedGeneration (g : GenerationSettings) : List (Text × Json) :=
  [("apikeyenv", .string g.apiKeyEnv), ("baseurl", .string g.baseUrl),
   ("maxtokens", .int g.maxTokens), ("model", .string g.model),
   ("promptsfile", .string g.promptsFile), ("provider", .string g.provider),
   ("temperature", .float g.temperature), ("timeoutseconds", .int g.timeoutSeconds)]

/-- The settings in the order of their keys. -/
def ordered (s : Settings) : List (Text × Json) :=
  [("generation", .object (orderedGeneration s.generation)),
   ("logging", .object (orderedLogging s.logging)),
   ("scan", .object [("maxlines", .int s.scan.maxLines)]), ("version", .int s.version)]

theorem foldl_put_entries (s : Settings) :
    (entries s).foldl (fun all entry => Layers.put entry.2 (entry.1.splitOnByte 0x2e) all)
      (.object []) = .object (ordered s) := by
  cbv

theorem field?_orderedGeneration (g : GenerationSettings) :
    let v : Json := .object (orderedGeneration g)
    field? v "provider" = some (.string g.provider) ∧ field? v "model" = some (.string g.model) ∧
      field? v "baseURL" = some (.string g.baseUrl) ∧
      field? v "temperature" = some (.float g.temperature) ∧
      field? v "maxTokens" = some (.int g.maxTokens) ∧
      field? v "apiKeyEnv" = some (.string g.apiKeyEnv) ∧
      field? v "promptsFile" = some (.string g.promptsFile) ∧
      field? v "timeoutSeconds" = some (.int g.timeoutSeconds) := by
  refine ⟨?_, ?_, ?_, ?_, ?_, ?_, ?_, ?_⟩ <;> cbv

theorem field?_orderedLogging (l : LoggingSettings) :
    let v : Json := .object (orderedLogging l)
    field? v "format" = some (.string l.format) ∧ field? v "level" = some (.string l.level) ∧
      field? v "file" = some (.string l.file) ∧ field? v "maxSize" = some (.string l.maxSize) ∧
      field? v "maxBackups" = some (.int l.maxBackups) := by
  refine ⟨?_, ?_, ?_, ?_, ?_⟩ <;> cbv

theorem readField_of_field? {α : Type} {read? : Json → Option α} {zero a : α} {v found : Json}
    {name : Text} (hfield : field? v name = some found) (hread : read? found = some a) :
    readField read? zero v name = some a := by
  rw [readField, hfield]
  exact hread

/-- Settings are read from their values. -/
theorem read?_ordered {s : Settings} (finite : s.generation.temperature.IsFinite)
    (small : ∀ n ∈ s.integers, n.natAbs < 2 ^ 53) : read? (.object (ordered s)) = some s := by
  have hint : ∀ n ∈ s.integers, looseInt? (.int n) = some n :=
    fun n hn => looseInt?_int (small n hn)
  simp only [integers, List.forall_mem_cons] at hint
  obtain ⟨hversion, hlines, htokens, htimeout, hbackups, -⟩ := hint
  obtain ⟨provider, model, baseUrl, temperature, maxTokens, apiKeyEnv, promptsFile, timeout⟩ :=
    field?_orderedGeneration s.generation
  obtain ⟨format, level, file, maxSize, maxBackups⟩ := field?_orderedLogging s.logging
  have bind : ∀ {α β : Type} {x : Option α} {f : α → Option β} {a : α} {b : β}, x = some a →
      f a = some b → (x >>= f) = some b := by
    rintro _ _ _ _ _ _ rfl h
    exact h
  -- The fields are read in their order, from the object of their section.
  refine bind (show _ = some (.object [("maxlines", .int s.scan.maxLines)]) by cbv) ?_
  refine bind (show _ = some (.object (orderedGeneration s.generation)) by cbv) ?_
  refine bind (show _ = some (.object (orderedLogging s.logging)) by cbv) ?_
  refine bind (readField_of_field? (show _ = some (.int s.version) by cbv) hversion) ?_
  refine bind (readField_of_field? (show _ = some (.int s.scan.maxLines) by cbv) hlines) ?_
  refine bind (readField_of_field? provider rfl) ?_
  refine bind (readField_of_field? model rfl) ?_
  refine bind (readField_of_field? baseUrl rfl) ?_
  refine bind (readField_of_field? temperature (looseFloat?_float finite)) ?_
  refine bind (readField_of_field? maxTokens htokens) ?_
  refine bind (readField_of_field? apiKeyEnv rfl) ?_
  refine bind (readField_of_field? promptsFile rfl) ?_
  refine bind (readField_of_field? timeout htimeout) ?_
  refine bind (readField_of_field? format rfl) ?_
  refine bind (readField_of_field? level rfl) ?_
  refine bind (readField_of_field? file rfl) ?_
  refine bind (readField_of_field? maxSize rfl) ?_
  refine bind (readField_of_field? maxBackups hbackups) ?_
  rfl

section Merged

variable {members : List (Text × Json)} (isFile : IsFile members) {s : Settings}
  (gives : Gives members registered s) (fits : FitsJson s)
include isFile gives fits

/-- Layers over a file of settings are read as the settings that it gives. -/
theorem read?_merged {l : Layers} (file : l.file = lowered (.object members))
    (defaults : l.defaults = .object (sections {})) (unset : ∀ key, l.override? key = none) :
    read? l.merged = some s := by
  have hvalue : ∀ f ∈ fields, l.value? (f.key.map lowerByte) = some (f.value s).json :=
    fun f hf => value?_field isFile gives file defaults unset hf
  simp only [fields, scanFields, generationFields, loggingFields, List.cons_append,
    List.nil_append, List.forall_mem_cons] at hvalue
  obtain ⟨version, maxLines, provider, model, baseUrl, temperature, maxTokens, apiKeyEnv,
    promptsFile, timeoutSeconds, format, level, logFile, maxSize, maxBackups, -⟩ := hvalue
  have hvalues : ∀ entry ∈ entries s, l.value? entry.1 = some entry.2 := by
    simp only [entries, List.forall_mem_cons]
    exact ⟨apiKeyEnv, baseUrl, maxTokens, model, promptsFile, provider, temperature,
      timeoutSeconds, logFile, format, level, maxBackups, maxSize, maxLines, version, by simp⟩
  rw [Layers.merged_eq_foldl (keys_file isFile gives file defaults) hvalues, foldl_put_entries,
    read?_ordered fits.finite fits.small]

omit isFile gives in
/-- The JSON form of a setting can be read. -/
theorem numbersFit_json {f : Field} (hf : f ∈ fields) : numbersFit (f.value s).json = true := by
  cases hvalue : f.value s with
  | text => rfl
  | int n =>
    obtain ⟨x, hx, -⟩ :=
      Number.Binary64.exists_read_signed (fits.small n (mem_integers s f hf n hvalue))
    rw [Datum.json, Json.int, numbersFit, hx]
  | float x =>
    have hfinite : x.IsFinite := by
      rw [eq_temperature s f hf x hvalue]
      exact fits.finite
    obtain ⟨-, -, -, hx⟩ := Number.Binary64.exists_numeral_render hfinite Json.floatLayout
    rw [Datum.json, Json.float, numbersFit, hx]

/-- All numbers of a file of settings can be read. -/
theorem membersFit_of_gives : membersFit members = true := by
  rw [membersFit_iff]
  rintro ⟨name, v⟩ hm
  rcases isFile.known _ hm with ⟨f, hf, hpath⟩ | ⟨inner, rfl, -⟩
  · rw [show v = (f.value s).json from json_of_mem isFile gives hf hm hpath]
    exact numbersFit_json fits hf
  · rw [numbersFit, membersFit_iff]
    intro leaf hleaf
    obtain ⟨f, hf, -, -, hjson⟩ := (exists_field_of_mem isFile gives hm).2 leaf hleaf
    rw [hjson]
    exact numbersFit_json fits hf

end Merged

/-! Where the settings file is found. -/

theorem expand_eq_self (env : Environment) {path : Text} (h : 0x24 ∉ path) :
    env.expand path = path := by
  rw [Environment.expand]
  induction path with
  | nil => rfl
  | cons b path ih =>
    rw [List.mem_cons, not_or] at h
    rw [Environment.expandAfter, if_neg (by simpa using Ne.symm h.1), ih h.2]

theorem settingsDir_ne_nil (root : Text) : Project.settingsDir root ≠ [] := by
  rw [Project.settingsDir]
  by_cases hroot : root = []
  · rw [hroot]
    decide
  · rw [Path.join_pair hroot (by decide)]
    exact Path.clean_ne_nil _

/-- The settings file is found by its own name, if it is there. -/
theorem filePath?_eq_some {fs : FileSystem} (sound : Sound fs) (env : Environment) {root : Text}
    (plain : 0x24 ∉ (request root).directory) {content : Text}
    (h : fs.stat (Path.join [(request root).directory, (request root).name ++ (".json" : Text)]) =
      .ok (.file content)) :
    ∃ path, filePath? fs env (request root) = some path ∧ fs.readFile path = .ok content := by
  have hname : ("config" : Text) ++ (".json" : Text) = fileName := by decide
  have hentry : Path.IsEntry fileName := ⟨⟨by decide, by decide, by decide⟩, by decide⟩
  have hdir : (request root).directory ≠ [] := settingsDir_ne_nil root
  rw [show (request root).name = "config" from rfl, hname] at h
  have hpath : Path.join [Path.absolute fs.workingPath (request root).directory, fileName] =
      Path.absolute fs.workingPath (Path.join [(request root).directory, fileName]) :=
    (Path.absolute_join sound.entries hdir hentry).symm
  have hstat : fs.stat (Path.join [Path.absolute fs.workingPath (request root).directory,
      fileName]) = .ok (.file content) := by
    rw [hpath, Path.join_pair hdir hentry.ne_nil, FileSystem.stat_absolute sound,
      ← Path.join_pair hdir hentry.ne_nil, h]
  refine ⟨_, ?_, by rw [FileSystem.readFile, hstat]⟩
  rw [filePath?, filePaths, expand_eq_self env plain, fileEndings, List.map_cons,
    show (request root).name = "config" from rfl, hname, List.find?_cons_of_pos]
  rw [hstat]

/-- Without variables no key is overridden. -/
theorem override?_layersOf {env : Environment} (unset : env.Unset) (root : Text) (file : Json)
    (key : Text) : (layersOf env (request root) file).override? key = none := by
  have hlookup : env.lookup (variableName key) = none := by
    rw [List.lookup_eq_none_iff]
    intro entry hentry
    rw [bne_iff_ne]
    intro heq
    exact unset entry hentry ⟨_, heq⟩
  change Environment.nonempty? env (variableName key) = none
  rw [Environment.nonempty?, hlookup]
  rfl

/-- **The program's library takes the settings file**, and the defaults of the settings that the
file does not have. -/
theorem takesFile_layered : layered.TakesFile := by
  intro fs env root content members s sound unset plain hstat hread isFile gives fits
  obtain ⟨path, hpath, hcontent⟩ := filePath?_eq_some sound env plain hstat
  have hfile : readFile? content = some (lowered (.object members)) := by
    rw [readFile?, hread]
    exact if_pos (membersFit_of_gives isFile gives fits)
  have hmerged : read? (layersOf env (request root) (lowered (.object members))).merged = some s :=
    read?_merged isFile gives fits rfl (ofDefaults_fields {}) (override?_layersOf unset root _)
  refine ⟨(layersOf env (request root) (lowered (.object members))).gathered (some path), ?_, ?_⟩
  · simp only [layered, hpath, hcontent, hfile]
  · rw [Layers.gathered, hmerged]

end DocScribe.Settings
