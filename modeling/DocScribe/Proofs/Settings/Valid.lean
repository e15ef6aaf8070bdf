import DocScribe.Proofs.Number.Format
import DocScribe.Settings.Load

/-!
# Valid settings

Settings are accepted iff they break no rule (`validate_eq_ok_iff`), which is said field by field in
`IsValid` (`validate_eq_ok_iff_isValid`); their temperature is a number or NaN
(`IsValid.finite_or_nan`). Settings that are loaded are valid, whatever library gathers them
(`isValid_of_load`).
-/

namespace DocScribe.Settings

open Number (Binary64)

/-- Settings that keep all rules. -/
structure IsValid (s : Settings) : Prop where
  version : s.version = currentVersion
  maxLines : 0 ≤ s.scan.maxLines
  provider : s.generation.provider = "openai"
  /-- The temperature is not below 0 and not above 2; a NaN is neither. -/
  temperature : s.generation.temperature.lt .zero = false ∧
    Binary64.lt (.ofInt 2) s.generation.temperature = false
  maxTokens : 0 < s.generation.maxTokens
  timeoutSeconds : 0 < s.generation.timeoutSeconds
  level : s.logging.level ∈ [("debug" : Text), "info", "warn", "error"]
  format : s.logging.format ∈ [("human" : Text), "json"]
  maxBackups : 0 ≤ s.logging.maxBackups

theorem validate_eq_ok_iff {s : Settings} :
    s.validate = .ok () ↔ ∀ rule ∈ s.rules, rule.2.1 = false := by
  rw [validate]
  cases hfind : s.rules.find? fun rule => rule.2.1 with
  | none => simpa using hfind
  | some rule =>
    have hbad := List.find?_some hfind
    have hmem := List.mem_of_find?_eq_some hfind
    refine ⟨nofun, fun h => ?_⟩
    rw [h rule hmem] at hbad
    cases hbad

/-- What validation accepts, field by field. -/
theorem validate_eq_ok_iff_isValid {s : Settings} : s.validate = .ok () ↔ s.IsValid := by
  have hcontains : ∀ (words : List Text) (word : Text),
      (!words.contains word) = false ↔ word ∈ words := by
    intro words word
    rw [Bool.not_eq_false', List.contains_iff_mem]
  rw [validate_eq_ok_iff]
  simp only [rules, List.forall_mem_cons, bne_eq_false_iff_eq, decide_eq_false_iff_not, hcontains,
    Bool.or_eq_false_iff]
  constructor
  · rintro ⟨version, lines, provider, temperature, tokens, timeout, level, format, backups, -⟩
    exact ⟨version, by omega, provider, temperature, by omega, by omega, level, format, by omega⟩
  · rintro ⟨version, lines, provider, temperature, tokens, timeout, level, format, backups⟩
    exact ⟨version, by omega, provider, temperature, by omega, by omega, level, format, by omega,
      nofun⟩

instance (s : Settings) : Decidable s.IsValid :=
  decidable_of_iff (∀ rule ∈ s.rules, rule.2.1 = false)
    (validate_eq_ok_iff.symm.trans validate_eq_ok_iff_isValid)

/-- The default temperature is finite. -/
theorem isFinite_default : Binary64.IsFinite (.ofDecimal false 25 (-2)) := by
  have hvalue : Binary64.ofDecimal false 25 (-2) = .finite false (2 ^ 52) (-54) := by
    decide
  rw [hvalue]
  exact .inl ⟨by decide, by decide, by decide, by decide, .inl (Nat.le_refl _)⟩

/-- The temperature of valid settings is a number or NaN: an infinite one is below zero or above
two, but a NaN is neither. -/
theorem IsValid.finite_or_nan {s : Settings} (valid : s.IsValid)
    (inFormat : s.generation.temperature.InFormat) :
    s.generation.temperature.IsFinite ∨ s.generation.temperature = .nan := by
  obtain ⟨hlow, hhigh⟩ := valid.temperature
  generalize s.generation.temperature = x at inFormat hlow hhigh
  cases x with
  | nan => exact .inr rfl
  | finite => exact .inl inFormat
  | infinite negative =>
    cases negative with
    | true => cases hlow
    | false => exact absurd hhigh (by decide)

/-! Loaded settings. -/

/-- What is loaded are the settings that the library gathers, if they are valid. -/
theorem load_eq_ok_iff {library : Library} {fs : FileSystem} {env : Environment} {root : Text}
    {l : Loaded} :
    load fs env root library = .ok l ↔
      ∃ gathered s, library fs env (request root) = .ok gathered ∧ gathered.settings = .ok s ∧
        s.validate = .ok () ∧ gathered.loaded env s = l := by
  rw [load]
  cases library fs env (request root) with
  | error message => simp
  | ok gathered =>
    cases hsettings : gathered.settings with
    | error message => simp [hsettings]
    | ok s =>
      cases hvalid : s.validate with
      | error f => simp [hsettings, hvalid]
      | ok u => simp [hsettings, hvalid]

theorem isValid_of_load {library : Library} {fs : FileSystem} {env : Environment} {root : Text}
    {l : Loaded} (h : load fs env root library = .ok l) : l.settings.IsValid := by
  obtain ⟨gathered, s, -, -, valid, rfl⟩ := load_eq_ok_iff.1 h
  exact validate_eq_ok_iff_isValid.1 valid

end DocScribe.Settings
