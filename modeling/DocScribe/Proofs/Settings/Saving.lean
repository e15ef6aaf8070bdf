import DocScribe.Proofs.Settings.Field
import DocScribe.Proofs.Settings.Layered
import Mathlib

/-!
# Saved settings are loaded

Settings that are saved and loaded without variables come back as `Settings.stored`: texts have
U+FFFD for stray bytes, and no backups at all become the default number of them, because a zero is
left out of the file (`exists_load_of_save`). All texts and integers come back iff neither happens
(**`loads_saved_iff`**). This holds for every library that takes the settings file.
-/

namespace DocScribe

namespace Settings

open FileSystem (Sound)

/-- The settings that are texts. -/
def texts (s : Settings) : List Text :=
  [s.generation.provider, s.generation.model, s.generation.baseUrl, s.generation.apiKeyEnv,
    s.generation.promptsFile, s.logging.format, s.logging.level, s.logging.file, s.logging.maxSize]

/-- The settings with the default number of backups in place of none. -/
def defaulted (s : Settings) : Settings :=
  { s with
    logging :=
      { s.logging with
        maxBackups := if s.logging.maxBackups = 0 then 3 else s.logging.maxBackups } }

/-- What a file of the settings is loaded as. -/
def stored (s : Settings) : Settings :=
  s.repaired.defaulted

/-! What a file of saved settings gives. -/

/-- Settings that the JSON form leaves out become their defaults. -/
theorem value_defaulted (s : Settings) : ∀ f ∈ fields,
    f.value s.defaulted = if f.isOmitted s then f.value {} else f.value s := by
  have hempty : ∀ text : Text, Datum.text text =
      if text.isEmpty then Datum.text [] else Datum.text text := by
    rintro (_ | _) <;> rfl
  simp only [fields, scanFields, generationFields, loggingFields, List.cons_append,
    List.nil_append, List.forall_mem_cons]
  refine ⟨rfl, rfl, rfl, rfl, rfl, rfl, rfl, rfl, rfl, rfl, rfl, rfl, hempty _, hempty _, ?_,
    by simp⟩
  by_cases hzero : s.logging.maxBackups = 0 <;>
    simp [Field.isOmitted, Datum.isEmpty, defaulted, hzero]

theorem gives_toJson (s : Settings) : Gives s.toJson.members registered s.defaulted := by
  intro f hf
  have hobject : Json.object s.toJson.members = s.toJson := rfl
  rw [hobject, valueAt?_toJson s hf, value_defaulted s f hf, lookup_registered hf]
  cases f.isOmitted s <;> rfl

theorem fitsJson_stored {s : Settings} (finite : s.generation.temperature.IsFinite)
    (small : ∀ n ∈ s.integers, n.natAbs < 2 ^ 53) : FitsJson s.stored := by
  refine ⟨?_, finite⟩
  simp only [integers, List.forall_mem_cons] at small ⊢
  obtain ⟨hversion, hlines, htokens, htimeout, hbackups, hnil⟩ := small
  refine ⟨hversion, hlines, htokens, htimeout, ?_, hnil⟩
  rw [stored, defaulted]
  dsimp only
  split
  · exact show (3 : Int).natAbs < 2 ^ 53 by decide
  · exact hbackups

/-! What is loaded is valid. -/

theorem contains_repaired {words : List Text} (hwords : ∀ word ∈ words, word.isUtf8 = true)
    {word : Text} (h : (!words.contains word) = false) :
    (!words.contains word.repaired) = false := by
  rw [Bool.not_eq_false', List.contains_iff_mem] at h
  rw [Text.repaired_eq_self_iff.2 (hwords word h), Bool.not_eq_false', List.contains_iff_mem]
  exact h

theorem validate_stored {s : Settings} (valid : s.validate = .ok ()) :
    s.stored.validate = .ok () := by
  rw [validate_eq_ok_iff] at valid ⊢
  simp only [rules, List.forall_mem_cons] at valid ⊢
  obtain ⟨version, lines, provider, temperature, tokens, timeout, level, format, backups, nil⟩ :=
    valid
  refine ⟨version, lines, ?_, temperature, tokens, timeout, ?_, ?_, ?_, nil⟩
  · have hprovider : s.generation.provider = "openai" := by simpa using provider
    have hstored : s.stored.generation.provider = "openai" := by
      rw [stored, defaulted, repaired]
      dsimp only
      rw [hprovider, Text.repaired_eq_self_iff]
      decide
    rw [hstored]
    exact bne_self_eq_false _
  · exact contains_repaired (by decide) level
  · exact contains_repaired (by decide) format
  · have hbackups : ¬ s.logging.maxBackups < 0 := by simpa using backups
    have hstored : ¬ s.stored.logging.maxBackups < 0 := by
      rw [stored, defaulted, repaired]
      dsimp only
      split <;> omega
    simpa using hstored

theorem integers_nonneg {s : Settings} (valid : s.validate = .ok ()) :
    ∀ n ∈ s.integers, 0 ≤ n := by
  rw [validate_eq_ok_iff] at valid
  simp only [rules, integers, List.forall_mem_cons] at valid ⊢
  obtain ⟨version, lines, -, -, tokens, timeout, -, -, backups, nil⟩ := valid
  simp only [bne_eq_false_iff_eq, decide_eq_false_iff_not] at version lines tokens timeout backups
  refine ⟨?_, by omega, by omega, by omega, by omega, by simp⟩
  rw [version]
  decide

/-! Saving and loading. -/

theorem finite_of_encoded {s : Settings} (inFormat : s.generation.temperature.InFormat) {v : Json}
    (h : s.encoded = .ok v) : v = s.toJson ∧ s.generation.temperature.IsFinite := by
  rw [encoded] at h
  generalize s.generation.temperature = x at h inFormat
  cases x with
  | finite negative m q => exact ⟨(Except.ok.inj h).symm, inFormat⟩
  | nan => cases h
  | infinite negative => cases h

/-- Saved settings are in the settings file. -/
theorem exists_of_save {fs saved : FileSystem} (sound : Sound fs) {s : Settings}
    (inFormat : s.generation.temperature.InFormat) {root : Text}
    (h : s.save fs root = (saved, .ok ())) :
    Sound saved ∧ s.generation.temperature.IsFinite ∧
      saved.stat (Path.join [Project.settingsDir root, fileName]) =
        .ok (.file (Json.indented .document s.toJson)) := by
  rw [save] at h
  split at h
  · cases h
  · next made hmade =>
    split at h
    · cases h
    · next v hencoded =>
      obtain ⟨rfl, finite⟩ := finite_of_encoded inFormat hencoded
      split at h
      · cases h
      · next after hafter =>
        obtain ⟨rfl, -⟩ := Prod.mk.inj h
        have hsound := sound.makeDirectories hmade
        obtain ⟨place, written⟩ := FileSystem.exists_of_writeFile hsound.rooted hafter
        exact ⟨hsound.written written, finite, written.stat⟩

/-- Saved settings are loaded as they are stored. -/
theorem exists_load_of_save {library : Library} (takesFile : library.TakesFile)
    {fs saved : FileSystem} (sound : Sound fs) {env : Environment} (unset : env.Unset)
    {s : Settings} (valid : s.validate = .ok ()) (small : ∀ n ∈ s.integers, n < 2 ^ 53)
    (inFormat : s.generation.temperature.InFormat) {root : Text}
    (plain : 0x24 ∉ Project.settingsDir root) (h : s.save fs root = (saved, .ok ())) :
    ∃ loaded, load saved env root library = .ok loaded ∧ loaded.settings = s.stored := by
  obtain ⟨hsound, finite, hstat⟩ := exists_of_save sound inFormat h
  have hsmall : ∀ n ∈ s.integers, n.natAbs < 2 ^ 53 := by
    intro n hn
    have hnonneg := integers_nonneg valid n hn
    have hlt := small n hn
    omega
  have hname : (request root).name ++ (".json" : Text) = fileName :=
    show ("config" : Text) ++ (".json" : Text) = fileName by decide
  obtain ⟨gathered, hgathered, hsettings⟩ :=
    takesFile hsound unset plain (by rw [hname]; exact hstat) (read?_indented finite)
      (isFile_toJson s.repaired) (gives_toJson s.repaired) (fitsJson_stored finite hsmall)
  exact ⟨gathered.loaded env s.stored, load_eq_ok_iff.2
    ⟨gathered, s.stored, hgathered, hsettings, validate_stored valid, rfl⟩, rfl⟩

theorem texts_stored_eq_iff (s : Settings) :
    s.stored.texts = s.texts ↔ ∀ text ∈ s.texts, text.isUtf8 = true := by
  simp only [stored, defaulted, repaired, texts, List.cons.injEq, List.forall_mem_cons,
    Text.repaired_eq_self_iff, List.not_mem_nil, IsEmpty.forall_iff, implies_true, and_true]

theorem integers_stored_eq_iff (s : Settings) :
    s.stored.integers = s.integers ↔ s.logging.maxBackups ≠ 0 := by
  simp only [stored, defaulted, repaired, integers, List.cons.injEq, true_and, and_true]
  by_cases hzero : s.logging.maxBackups = 0 <;> simp [hzero]

/-- Valid settings that are saved can be loaded with every library that takes the settings file,
where no variable overrides them and no dollar sign stands in the path. Their texts and integers,
each below `2^53`, come back iff the number of backups is not zero and no text has stray bytes. -/
theorem loads_saved_iff {library : Library} (takesFile : library.TakesFile)
    {fs saved : FileSystem} (sound : Sound fs) {env : Environment} (unset : env.Unset)
    {s : Settings} (valid : s.validate = .ok ()) (small : ∀ n ∈ s.integers, n < 2 ^ 53)
    (inFormat : s.generation.temperature.InFormat) {root : Text}
    (plain : 0x24 ∉ Project.settingsDir root) (h : s.save fs root = (saved, .ok ())) :
    ∃ loaded, load saved env root library = .ok loaded ∧ loaded.settings = s.stored ∧
      (loaded.settings.texts = s.texts ∧ loaded.settings.integers = s.integers ↔
        s.logging.maxBackups ≠ 0 ∧ ∀ text ∈ s.texts, text.isUtf8 = true) := by
  obtain ⟨loaded, hload, hstored⟩ :=
    exists_load_of_save takesFile sound unset valid small inFormat plain h
  refine ⟨loaded, hload, hstored, ?_⟩
  rw [hstored, texts_stored_eq_iff, integers_stored_eq_iff, and_comm]

/-! Settings that come back and settings that do not. -/

theorem save_eq_of_writeFile {s : Settings} {fs made after : FileSystem} {root : Text} {v : Json}
    (hmade : fs.makeDirectories (Project.settingsDir root) = .ok made)
    (hencoded : s.encoded = .ok v)
    (hwrite : made.writeFile (Path.join [Project.settingsDir root, fileName])
      (Json.indented .document v) = .ok after) : s.save fs root = (after, .ok ()) := by
  simp only [save, hmade, hencoded, hwrite]

/-- A project in a directory below the root. -/
def project : FileSystem :=
  { nodes := [(["home"], .directory)], working := ["home"] }

theorem sound_project : Sound project where
  rooted := FileSystem.rooted_of_nodes (by decide)
  working := rfl
  entries name hname := by
    rw [List.mem_singleton.1 hname]
    exact ⟨⟨by decide, by decide, by decide⟩, by decide⟩

/-- The project with a file of settings. -/
def configured (content : Text) : FileSystem :=
  (project.put ["home", ".rustai"] .directory).put ["home", ".rustai", "config.json"]
    (.file content)

theorem sound_configured (content : Text) : Sound (configured content) := by
  have hdirectory : Sound (project.put ["home", ".rustai"] .directory) :=
    @Sound.put _ sound_project ["home"] ".rustai" rfl rfl _
  exact @Sound.put _ hdirectory ["home", ".rustai"] "config.json" rfl rfl _

theorem save_project {s : Settings} {v : Json} (h : s.encoded = .ok v) :
    s.save project [] = (configured (Json.indented .document v), .ok ()) := by
  have hmade : project.makeDirectories (Project.settingsDir []) =
      .ok (project.put ["home", ".rustai"] .directory) := by
    cbv
  refine save_eq_of_writeFile hmade h ?_
  generalize Json.indented .document v = content
  cbv

theorem encoded_of_isFinite {s : Settings} (finite : s.generation.temperature.IsFinite) :
    s.encoded = .ok s.toJson := by
  rw [encoded]
  generalize s.generation.temperature = x at finite
  cases x with
  | finite => rfl
  | nan => exact absurd finite id
  | infinite => exact absurd finite id

/-- Settings with the largest limit, texts of several kinds and a backup. -/
def commented : Settings :=
  { scan := { maxLines := 2 ^ 53 - 1 }
    generation := { model := "größe \"1\"", promptsFile := "" }
    logging := { file := "a\nb", maxSize := "10MB", maxBackups := 1 } }

theorem commented_come_back :
    layered.TakesFile ∧ Sound project ∧ Environment.Unset [("HOME", "/home")] ∧
      commented.validate = .ok () ∧ (∀ n ∈ commented.integers, n < 2 ^ 53) ∧
      commented.generation.temperature.InFormat ∧ 0x24 ∉ Project.settingsDir [] ∧
      ∃ saved loaded, commented.save project [] = (saved, .ok ()) ∧
        load saved [("HOME", "/home")] [] = .ok loaded ∧ loaded.settings.texts = commented.texts ∧
        loaded.settings.integers = commented.integers := by
  have hunset : Environment.Unset [("HOME", "/home")] := by
    intro entry hentry
    rw [List.mem_singleton.1 hentry]
    decide
  have hvalid : commented.validate = .ok () := validate_eq_ok_iff.2 (by decide +kernel)
  have hsmall : ∀ n ∈ commented.integers, n < 2 ^ 53 := by decide
  have hsave := @save_project commented _ (encoded_of_isFinite isFinite_default)
  obtain ⟨loaded, hload, -, hback⟩ := loads_saved_iff takesFile_layered sound_project hunset hvalid
    hsmall isFinite_default.inFormat (by decide) hsave
  have hsame := hback.2 ⟨by decide, by decide⟩
  exact ⟨takesFile_layered, sound_project, hunset, hvalid, hsmall, isFinite_default.inFormat,
    by decide, _, loaded, hsave, hload, hsame.1, hsame.2⟩

/-- Settings that keep no backups of the log. -/
def withoutBackups : Settings :=
  { logging := { maxBackups := 0 } }

/-- No backups are loaded as three. -/
theorem withoutBackups_change :
    withoutBackups.validate = .ok () ∧
      ∃ saved loaded, withoutBackups.save project [] = (saved, .ok ()) ∧
        load saved [] [] = .ok loaded ∧ loaded.settings.logging.maxBackups = 3 ∧
        ¬ (loaded.settings.texts = withoutBackups.texts ∧
          loaded.settings.integers = withoutBackups.integers) := by
  have hvalid : withoutBackups.validate = .ok () := validate_eq_ok_iff.2 (by decide +kernel)
  have hsave := @save_project withoutBackups _ (encoded_of_isFinite isFinite_default)
  have hunset : Environment.Unset [] := nofun
  have hsmall : ∀ n ∈ withoutBackups.integers, n < 2 ^ 53 := by decide
  obtain ⟨loaded, hload, hstored⟩ := exists_load_of_save takesFile_layered sound_project hunset
    hvalid hsmall isFinite_default.inFormat (by decide) hsave
  refine ⟨hvalid, _, loaded, hsave, hload, by rw [hstored]; rfl, ?_⟩
  rintro ⟨-, hintegers⟩
  rw [hstored, integers_stored_eq_iff] at hintegers
  exact hintegers rfl

end Settings

end DocScribe
