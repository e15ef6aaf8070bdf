import DocScribe.Proofs.Settings.Field
import DocScribe.Proofs.Settings.Saving

/-!
# Which settings are shown

The settings that are shown are those of the table that the JSON form has, and on request only those
with another value than their default (`mem_shownSettings`). So changed settings are shown iff there
are backups, and all settings iff no optional one is empty, in both cases if the temperature is no
NaN, with which nothing is shown (**`lists_of_valid`**). This holds for all valid settings, and so
for all that are loaded.
-/

namespace DocScribe.Cli

open Settings (Datum Field fields eq_of_key lookup_eq_some_of_mem)

/-! Settings by key. -/

theorem perm_flatSettings (s : Settings) :
    (flatSettings s).Perm ((fields.filter fun f => !f.isOmitted s).map fun f => f.entry s) := by
  rw [flatSettings, Tree.sortEntries, Settings.leavesBelow_toJson]
  exact List.mergeSort_perm _ _

theorem mem_flatSettings {s : Settings} {entry : Text × Tree} :
    entry ∈ flatSettings s ↔ ∃ f ∈ fields, f.isOmitted s = false ∧ f.entry s = entry := by
  rw [(perm_flatSettings s).mem_iff, List.mem_map]
  simp only [List.mem_filter, Bool.not_eq_true', and_assoc]

theorem distinct_flatSettings (s : Settings) : ((flatSettings s).map (·.1)).Nodup := by
  rw [((perm_flatSettings s).map _).nodup_iff, List.map_map]
  exact (List.filter_sublist.map Field.key).nodup Settings.nodup_keys

theorem lookup_flatSettings (s : Settings) {f : Field} (hf : f ∈ fields) :
    (flatSettings s).lookup f.key = if f.isOmitted s then none else some (f.value s).tree := by
  cases homitted : f.isOmitted s with
  | false =>
    exact lookup_eq_some_of_mem (distinct_flatSettings s)
      (mem_flatSettings.2 ⟨f, hf, homitted, rfl⟩)
  | true =>
    refine List.lookup_eq_none_iff.2 fun entry hentry => ?_
    obtain ⟨g, hg, hkept, rfl⟩ := mem_flatSettings.1 hentry
    rw [bne_iff_ne]
    intro hkey
    rw [eq_of_key hf hg hkey, hkept] at homitted
    cases homitted

/-- The defaults that the JSON form leaves out are texts. -/
theorem exists_text_of_isOmitted (s : Settings) :
    ∀ f ∈ fields, f.isOmitted {} = true → ∃ t, f.value s = .text t := by
  simp [fields, Settings.scanFields, Settings.generationFields, Settings.loggingFields,
    Field.isOmitted, Datum.isEmpty]

section Shown

variable {s : Settings} (finite : s.generation.temperature.IsFinite)
include finite

/-- A setting of the JSON form is shown with an equal default iff it has its default. -/
theorem same_shownSetting_iff {f : Field} (hf : f ∈ fields) (hkept : f.isOmitted s = false) :
    (shownSetting (f.entry s)).value.same (shownSetting (f.entry s)).default = true ↔
      f.value s = f.value {} := by
  rw [shownSetting, Field.entry, lookup_flatSettings {} hf]
  cases homitted : f.isOmitted {} with
  | false => exact Settings.same_default_iff finite f hf
  | true =>
    obtain ⟨t, ht⟩ := exists_text_of_isOmitted s f hf homitted
    refine ⟨fun h => ?_, fun h => ?_⟩
    · rw [ht] at h
      cases h
    · rw [Field.isOmitted, h] at hkept
      exact absurd (hkept.symm.trans homitted) Bool.false_ne_true

/-- The settings that are shown. -/
theorem mem_shownSettings {diff : Bool} {shown : ShownSetting} :
    shown ∈ shownSettings s diff ↔
      ∃ f ∈ fields, (f.isOmitted s = false ∧ (diff = true → f.value s ≠ f.value {})) ∧
        shownSetting (f.entry s) = shown := by
  have hshown : ∀ f ∈ fields, f.isOmitted s = false →
      ((!(diff && (shownSetting (f.entry s)).value.same (shownSetting (f.entry s)).default))
        ↔ (diff = true → f.value s ≠ f.value {})) := by
    intro f hf hkept
    have hsame := same_shownSetting_iff finite hf hkept
    rw [Bool.not_eq_true', ← Bool.not_eq_true, Bool.and_eq_true, not_and, hsame]
  rw [shownSettings, List.mem_filter, List.mem_map]
  constructor
  · rintro ⟨⟨entry, hentry, rfl⟩, hdiff⟩
    obtain ⟨f, hf, hkept, rfl⟩ := mem_flatSettings.1 hentry
    exact ⟨f, hf, ⟨hkept, (hshown f hf hkept).1 hdiff⟩, rfl⟩
  · rintro ⟨f, hf, ⟨hkept, hdiff⟩, rfl⟩
    exact ⟨⟨_, mem_flatSettings.2 ⟨f, hf, hkept, rfl⟩, rfl⟩, (hshown f hf hkept).2 hdiff⟩

end Shown

/-! Keys that are shown. -/

/-- The key is among those that are shown. -/
def Lists (l : Settings.Loaded) (diff : Bool) (key : Text) : Prop :=
  ∃ view, showSettings l diff = .ok view ∧ ∃ shown ∈ view.settings.getD [], shown.key = key

section Lists

variable {l : Settings.Loaded} {diff : Bool} {key : Text}

theorem lists_iff (finite : l.settings.generation.temperature.IsFinite) :
    Lists l diff key ↔ ∃ f ∈ fields, f.key = key ∧ f.isOmitted l.settings = false ∧
      (diff = true → f.value l.settings ≠ f.value {}) := by
  have hshow : ∀ {view}, showSettings l diff = .ok view ↔
      { path := l.path, usedDefaults := l.usedDefaults, overrides := l.overrides
        settings := some (shownSettings l.settings diff) } = view := by
    intro view
    rw [showSettings, Settings.encoded_of_isFinite finite]
    exact ⟨Except.ok.inj, congrArg _⟩
  simp only [Lists, hshow, exists_eq_left', Option.getD_some, mem_shownSettings finite]
  constructor
  · rintro ⟨_, ⟨f, hf, hshown, rfl⟩, rfl⟩
    exact ⟨f, hf, rfl, hshown⟩
  · rintro ⟨f, hf, rfl, hshown⟩
    exact ⟨_, ⟨f, hf, hshown, rfl⟩, rfl⟩

/-- With a NaN for the temperature the settings have no JSON form, and nothing is shown. -/
theorem not_lists_of_nan (hnan : l.settings.generation.temperature = .nan) :
    ¬ Lists l diff key := by
  rintro ⟨view, hview, -⟩
  rw [showSettings, Settings.encoded, hnan] at hview
  cases hview

end Lists

/-- What is shown has exactly the wanted settings iff the JSON form leaves out none of them. -/
theorem lists_wanted_iff {l : Settings.Loaded} {diff : Bool}
    (temperature : l.settings.generation.temperature.IsFinite ∨
      l.settings.generation.temperature = .nan) :
    (∀ key, Lists l diff key ↔ ∃ f ∈ fields, f.key = key ∧
        (diff = true → f.value l.settings ≠ f.value {})) ↔
      l.settings.generation.temperature ≠ .nan ∧ ∀ f ∈ fields,
        (diff = true → f.value l.settings ≠ f.value {}) → f.isOmitted l.settings = false := by
  rcases temperature with finite | hnan
  · have hne : l.settings.generation.temperature ≠ .nan := by
      intro hnan
      rw [hnan] at finite
      exact finite
    simp only [lists_iff finite, hne, ne_eq, not_false_eq_true, true_and]
    constructor
    · intro h f hf hwanted
      obtain ⟨g, hg, hkey, hkept, -⟩ := (h f.key).2 ⟨f, hf, rfl, hwanted⟩
      rwa [← eq_of_key hg hf hkey]
    · intro h key
      constructor
      · rintro ⟨f, hf, hkey, -, hwanted⟩
        exact ⟨f, hf, hkey, hwanted⟩
      · rintro ⟨f, hf, hkey, hwanted⟩
        exact ⟨f, hf, hkey, h f hf hwanted, hwanted⟩
  · refine ⟨fun h => ?_, fun h => absurd hnan h.1⟩
    -- The temperature is another than the default, so it is wanted.
    obtain ⟨f, hf, hvalue⟩ : ∃ f ∈ fields,
        ∀ s : Settings, f.value s = .float s.generation.temperature :=
      ⟨fields[5], List.getElem_mem _, fun _ => rfl⟩
    have hchanged : f.value l.settings ≠ f.value {} := by
      rw [hvalue, hvalue, hnan]
      exact nofun
    exact absurd ((h f.key).2 ⟨f, hf, rfl, fun _ => hchanged⟩) (not_lists_of_nan hnan)

/-- A changed setting is left out iff it is a number of backups that became zero: the default of
every other optional setting is empty itself. -/
theorem forall_changed_kept_iff (s : Settings) :
    (∀ f ∈ fields, f.value s ≠ f.value {} → f.isOmitted s = false) ↔ s.logging.maxBackups ≠ 0 := by
  simp [fields, Settings.scanFields, Settings.generationFields, Settings.loggingFields,
    Field.isOmitted, Datum.isEmpty]
  omega

theorem forall_kept_iff (s : Settings) :
    (∀ f ∈ fields, f.isOmitted s = false) ↔
      s.logging.maxBackups ≠ 0 ∧ s.logging.file ≠ [] ∧ s.logging.maxSize ≠ [] := by
  simp [fields, Settings.scanFields, Settings.generationFields, Settings.loggingFields,
    Field.isOmitted, Datum.isEmpty]
  tauto

/-- Of valid settings, which all that are loaded are with any library (`isValid_of_load`), the
changed ones are shown on request iff the temperature is a number and there are backups. All
settings are shown iff, besides, there are a log file and a size for it. The temperature is one of
the format, as every floating-point number that is read or computed. -/
theorem lists_of_valid {l : Settings.Loaded} (valid : l.settings.validate = .ok ())
    (inFormat : l.settings.generation.temperature.InFormat) :
    ((∀ key, Lists l true key ↔
        ∃ f ∈ fields, f.key = key ∧ f.value l.settings ≠ f.value {}) ↔
      l.settings.generation.temperature ≠ .nan ∧ l.settings.logging.maxBackups ≠ 0) ∧
    ((∀ key, Lists l false key ↔ ∃ f ∈ fields, f.key = key) ↔
      l.settings.generation.temperature ≠ .nan ∧ l.settings.logging.maxBackups ≠ 0 ∧
        l.settings.logging.file ≠ [] ∧ l.settings.logging.maxSize ≠ []) := by
  have temperature := (Settings.validate_eq_ok_iff_isValid.1 valid).finite_or_nan inFormat
  have hchanged := @lists_wanted_iff l true temperature
  have hall := @lists_wanted_iff l false temperature
  simp only [forall_const] at hchanged
  simp only [Bool.false_eq_true, IsEmpty.forall_iff, and_true, forall_const] at hall
  rw [hchanged, hall, forall_kept_iff, forall_changed_kept_iff]
  exact ⟨Iff.rfl, Iff.rfl⟩

/-- Settings with a log file of limited size and a backup are all shown. -/
theorem commented_shown :
    ∃ saved l, Settings.commented.save Settings.project [] = (saved, .ok ()) ∧
      Settings.load saved [] [] = .ok l ∧ l.settings.validate = .ok () ∧
      l.settings.generation.temperature.InFormat ∧
      (∀ key, Lists l true key ↔ ∃ f ∈ fields, f.key = key ∧ f.value l.settings ≠ f.value {}) ∧
      ∀ key, Lists l false key ↔ ∃ f ∈ fields, f.key = key := by
  have hunset : Settings.Environment.Unset [] := fun _ hentry => absurd hentry List.not_mem_nil
  have hvalid : Settings.commented.validate = .ok () :=
    Settings.validate_eq_ok_iff.2 (by decide +kernel)
  have hsave := @Settings.save_project Settings.commented _
    (Settings.encoded_of_isFinite Settings.isFinite_default)
  obtain ⟨l, hload, hstored⟩ := Settings.exists_load_of_save Settings.takesFile_layered
    Settings.sound_project hunset hvalid (by decide) Settings.isFinite_default.inFormat (by decide)
    hsave
  have hloaded := Settings.validate_eq_ok_iff_isValid.2 (Settings.isValid_of_load hload)
  have inFormat : l.settings.generation.temperature.InFormat := by
    rw [hstored]
    exact Settings.isFinite_default.inFormat
  obtain ⟨hchanged, hall⟩ := lists_of_valid hloaded inFormat
  refine ⟨_, l, hsave, hload, hloaded, inFormat, hchanged.2 ?_, hall.2 ?_⟩
  · rw [hstored]
    decide
  · rw [hstored]
    decide

/-! A number of backups that is left out. -/

section NoBackups

open Settings (withoutBackups configured valueAt? IsFile Gives registered)

/-- What a settings file says that asks for no backups. -/
def noBackups : List (Text × Json) :=
  [("logging", .object [("maxBackups", .int 0)])]

theorem read?_noBackups :
    Json.read? (Json.indented .document (.object noBackups)) = some (.object noBackups) := by
  have hlogging : Json.Parses
      (Json.indentedAt .document 1 (.object [("maxBackups", .int 0)])) 9999
      (.object [("maxBackups", .int 0)]) :=
    Json.parses_object (List.cons_ne_nil _ _) (.named (by decide) (Json.parses_int 0 _) .nil)
  exact Json.read?_of_parses
    (Json.parses_object (List.cons_ne_nil _ _) (.named (by decide) hlogging .nil))

theorem isFile_noBackups : IsFile noBackups where
  distinct := List.nodup_singleton _
  known m hm := by
    rw [List.mem_singleton.1 hm]
    refine .inr ⟨_, rfl, List.nodup_singleton _, by decide, fun leaf hleaf => ?_⟩
    rw [List.mem_singleton.1 hleaf]
    decide

/-- The file has the number of backups and no other setting. -/
theorem gives_noBackups : Gives noBackups registered withoutBackups := by
  have hvalue : ∀ f ∈ fields,
      (valueAt? (.object noBackups) f.path = none ∧ f.value {} = f.value withoutBackups) ∨
        valueAt? (.object noBackups) f.path = some (f.value withoutBackups).json := by
    simp only [fields, Settings.scanFields, Settings.generationFields, Settings.loggingFields,
      List.cons_append, List.nil_append, List.forall_mem_cons]
    refine ⟨.inl ⟨rfl, rfl⟩, .inl ⟨rfl, rfl⟩, .inl ⟨rfl, rfl⟩, .inl ⟨rfl, rfl⟩, .inl ⟨rfl, rfl⟩,
      .inl ⟨rfl, rfl⟩, .inl ⟨rfl, rfl⟩, .inl ⟨rfl, rfl⟩, .inl ⟨rfl, rfl⟩, .inl ⟨rfl, rfl⟩,
      .inl ⟨rfl, rfl⟩, .inl ⟨rfl, rfl⟩, .inl ⟨rfl, rfl⟩, .inl ⟨rfl, rfl⟩, .inr rfl, by simp⟩
  intro f hf
  rcases hvalue f hf with ⟨habsent, hsame⟩ | hpresent
  · rw [habsent, ← hsame]
    exact Settings.lookup_registered hf
  · rw [hpresent]

theorem exists_load_noBackups :
    ∃ l, Settings.load (configured (Json.indented .document (.object noBackups))) [] [] = .ok l ∧
      l.settings = withoutBackups := by
  have hunset : Settings.Environment.Unset [] := fun _ hentry => absurd hentry List.not_mem_nil
  have hstat : ∀ content, (configured content).stat (Path.join [Project.settingsDir [],
      ("config" : Text) ++ (".json" : Text)]) = .ok (.file content) := by
    intro content
    cbv
  have plain : 0x24 ∉ (Settings.request []).directory := by decide
  obtain ⟨gathered, hgathered, hsettings⟩ := Settings.takesFile_layered
    (Settings.sound_configured _) hunset plain (hstat _) read?_noBackups isFile_noBackups
    gives_noBackups ⟨by decide, Settings.isFinite_default⟩
  have hvalid : withoutBackups.validate = .ok () :=
    Settings.validate_eq_ok_iff.2 (by decide +kernel)
  exact ⟨gathered.loaded [] withoutBackups, Settings.load_eq_ok_iff.2
    ⟨gathered, withoutBackups, hgathered, hsettings, hvalid, rfl⟩, rfl⟩

/-- A file that asks for no backups changes a setting, which is never shown. -/
theorem noBackups_not_shown :
    ∃ l, Settings.load (configured (Json.indented .document (.object noBackups))) [] [] = .ok l ∧
      (∃ f ∈ fields, f.key = "logging.maxBackups" ∧ f.value l.settings ≠ f.value {}) ∧
      ∀ diff, ¬ Lists l diff "logging.maxBackups" := by
  obtain ⟨l, hload, hsettings⟩ := exists_load_noBackups
  have hfinite : l.settings.generation.temperature.IsFinite := by
    rw [hsettings]
    exact Settings.isFinite_default
  obtain ⟨f, hf, hkey, homitted, hchanged⟩ : ∃ f ∈ fields, f.key = "logging.maxBackups" ∧
      f.isOmitted l.settings = true ∧ f.value l.settings ≠ f.value {} := by
    rw [hsettings]
    decide
  refine ⟨l, hload, ⟨f, hf, hkey, hchanged⟩, fun diff hlists => ?_⟩
  obtain ⟨g, hg, hkey', hkept, -⟩ := (lists_iff hfinite).1 hlists
  rw [eq_of_key hg hf (hkey'.trans hkey.symm), homitted] at hkept
  cases hkept

end NoBackups

end DocScribe.Cli
