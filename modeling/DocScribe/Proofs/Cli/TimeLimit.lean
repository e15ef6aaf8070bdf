import DocScribe.Cli.Documenting
import DocScribe.Proofs.Number.Integer
import DocScribe.Proofs.Settings.Valid

/-!
# How long the client waits

The time limit of the settings is a number of seconds, and the client takes it in nanoseconds as a
64-bit integer. There is room for 292 years (`maxTimeoutSeconds`), which validation does not ask
for: of more the low 64 bits are kept, and where they make a negative number, the client waits for
the default time. So what is set is kept iff it is within that bound (**`waitsAsSet_iff`**).
-/

namespace DocScribe.Cli

open Number (Fits64)

/-- The most seconds that can be counted in nanoseconds. -/
def maxTimeoutSeconds : Int := 9223372036

/-- A positive number of seconds can be counted in nanoseconds iff it is within the bound. -/
theorem fits64_iff {seconds : Int} (hpos : 0 < seconds) :
    Fits64 (seconds * 1000000000) ↔ seconds ≤ maxTimeoutSeconds := by
  rw [Fits64, Number.minInt, Number.maxInt, maxTimeoutSeconds]
  omega

theorem timeout_eq_iff {g : GenerationSettings} (hpos : 0 < g.timeoutSeconds) :
    g.timeout = g.timeoutSeconds * 1000000000 ↔ g.timeoutSeconds ≤ maxTimeoutSeconds := by
  rw [GenerationSettings.timeout, Number.wrap_eq_self_iff, fits64_iff hpos]

section Client

variable {g : GenerationSettings} {environment : Settings.Environment} {model system : Text}
  {client : Chat.Client}

theorem timeLimit_chatClient (h : chatClient g environment model system = .ok client) :
    client.timeLimit = if g.timeout ≤ 0 then Chat.defaultTimeLimit else g.timeout := by
  rw [chatClient, Chat.Settings.client] at h
  split at h
  · cases h
  · rw [← Except.ok.inj h]

/-- A client that waits as long as it is told to was told a number that fits. -/
theorem timeLimit_chatClient_eq_iff (h : chatClient g environment model system = .ok client)
    (hpos : 0 < g.timeoutSeconds) :
    client.timeLimit = g.timeoutSeconds * 1000000000 ↔ g.timeoutSeconds ≤ maxTimeoutSeconds := by
  have heq := timeout_eq_iff hpos
  rw [timeLimit_chatClient h, maxTimeoutSeconds] at *
  split
  · -- The default time is two minutes, which would have fitted.
    rw [Chat.defaultTimeLimit]
    omega
  · exact heq

end Client

/-- Of valid settings the time limit in nanoseconds is positive and the number of seconds times
`10^9`, and a client that they describe waits for just that time, iff the number of seconds is at
most 9223372036. -/
theorem waitsAsSet_iff {s : Settings} (valid : s.validate = .ok ()) :
    (0 < s.generation.timeout ∧
        s.generation.timeout = s.generation.timeoutSeconds * 1000000000 ↔
      s.generation.timeoutSeconds ≤ maxTimeoutSeconds) ∧
    ∀ environment model system client,
      chatClient s.generation environment model system = .ok client →
      (client.timeLimit = s.generation.timeoutSeconds * 1000000000 ↔
        s.generation.timeoutSeconds ≤ maxTimeoutSeconds) := by
  have hpos := (Settings.validate_eq_ok_iff_isValid.1 valid).timeoutSeconds
  constructor
  · rw [timeout_eq_iff hpos, and_iff_right_iff_imp]
    intro hle
    rw [(timeout_eq_iff hpos).2 hle]
    omega
  · intro environment model system client hclient
    exact timeLimit_chatClient_eq_iff hclient hpos

/-- Settings that leave the service as much time as can be counted. -/
def patient : Settings :=
  { generation := { timeoutSeconds := maxTimeoutSeconds } }

theorem patient_waitsAsSet :
    patient.validate = .ok () ∧ patient.generation.timeout = 9223372036000000000 ∧
      ∃ client, chatClient patient.generation [("OPENAI_API_KEY", "key")] [] [] = .ok client ∧
        client.timeLimit = 9223372036000000000 := by
  have hvalid : patient.validate = .ok () :=
    Settings.validate_eq_ok_iff_isValid.2 (by decide +kernel)
  obtain ⟨htimeout, hclient⟩ := waitsAsSet_iff hvalid
  exact ⟨hvalid, (htimeout.2 (Int.le_refl _)).2, _, rfl,
    (hclient [("OPENAI_API_KEY", "key")] [] [] _ rfl).2 (Int.le_refl _)⟩

/-- Settings that leave the service a second more. -/
def overpatient : Settings :=
  { generation := { timeoutSeconds := maxTimeoutSeconds + 1 } }

/-- One second more is valid, is counted as a negative number, and the client waits two minutes. -/
theorem overpatient_gives_up :
    overpatient.validate = .ok () ∧ overpatient.generation.timeout = -9223372036709551616 ∧
      ∃ client, chatClient overpatient.generation [("OPENAI_API_KEY", "key")] [] [] = .ok client ∧
        client.timeLimit = Chat.defaultTimeLimit ∧
        client.timeLimit ≠ overpatient.generation.timeoutSeconds * 1000000000 := by
  refine ⟨Settings.validate_eq_ok_iff_isValid.2 (by decide +kernel), by decide, _, rfl, ?_⟩
  decide

end DocScribe.Cli
