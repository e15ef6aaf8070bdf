import DocScribe.Proofs.Documentation.Placement
import DocScribe.Proofs.Fault.Marks

/-!
# What a failed attempt leaves

An attempt asks its generator at most once, for the prompt of the construct at the cursor, and it
changes the buffer only if it succeeds. `recorded` notes down what a generator with a state of its
own is asked, so that `Orderly` can speak of the questions themselves; `documentIn_orderly` says
that every attempt is orderly, in every language of templates. A fault after the question is one of
generation (`settle_fromGeneration`), for the declaration is a line of the buffer, and placing a
comment above it cannot go wrong (`exists_insertComment_of_current`).
-/

namespace DocScribe.Documentation

open Scan

/-- The fault is one of generation: it failed, or no generator is configured. -/
def FromGeneration (f : Fault) : Prop :=
  f.hasMark .generationFailed = true ∨ f.hasMark .notConfigured = true

/-- A generator that also notes down what it is asked. -/
def recorded {σ : Type} (ask : Text → StateM σ Reply) (prompt : Text) :
    StateT (List Text) (StateM σ) Reply := do
  modify (· ++ [prompt])
  ask prompt

/-- How an attempt goes on whose generator starts in state `s`, and which asks `questions`. -/
structure Orderly {σ : Type} (language : TemplateLanguage) (d : Documenter)
    (generator : Option (Text → StateM σ Reply)) (b : Buffer) (cursor : Position) (s : σ)
    (attempt : Attempt) (questions : List Text) : Prop where
  /-- The attempt is the one with the replies of that state. -/
  attempt_eq :
    attempt = d.document (generator.map fun ask prompt => (ask prompt s).1) b cursor language
  once : questions.length ≤ 1
  asked : attempt.asked.toList = questions
  /-- The question is the prompt of the construct at the cursor. -/
  mem_iff : ∀ prompt, prompt ∈ questions ↔ generator.isSome = true ∧
    ∃ t, current b.lines d.limit cursor = .ok t ∧
      d.templates.render t.kind (d.promptData b t) language = .ok prompt
  atomic : (∃ placed, attempt.outcome = .ok placed) ∨ attempt.buffer = b
  fault_after : questions ≠ [] → ∀ f, attempt.outcome = .error f → FromGeneration f
  in_range : ∀ t, current b.lines d.limit cursor = .ok t → ∀ comment,
    ∃ result, b.insertComment t.extent.anchor.line comment = .ok result

theorem fromGeneration_compound {separator : Text} {f : Fault} {parts : List Fault}
    (hmem : f ∈ parts) (h : FromGeneration f) : FromGeneration (.compound separator parts) :=
  h.imp (fun hmark => Fault.hasMark_compound_iff.2 ⟨f, hmem, hmark⟩)
    (fun hmark => Fault.hasMark_compound_iff.2 ⟨f, hmem, hmark⟩)

theorem fromGeneration_marked : FromGeneration (.marked .generationFailed) :=
  .inl (Fault.hasMark_marked _)

/-- Whatever goes wrong in a generator is reported as a fault of generation. -/
theorem fromGeneration_generationFault (f : Fault) :
    FromGeneration (Documenter.generationFault f) := by
  rw [Documenter.generationFault]
  split
  · next hmark => exact Bool.or_eq_true_iff.1 hmark
  · exact fromGeneration_compound List.mem_cons_self fromGeneration_marked

namespace Documenter

variable {language : TemplateLanguage} {d : Documenter} {b : Buffer} {cursor : Position}
  {t : Target} {prompt : Text}

/-- A comment can be placed above every construct that a cursor selects. -/
theorem exists_insertComment_of_current {limit : Limit} (h : current b.lines limit cursor = .ok t)
    (comment : Text) : ∃ result, b.insertComment t.extent.anchor.line comment = .ok result := by
  obtain ⟨n, target⟩ := exists_isTarget_of_current h
  have hline : b.lines.hasLine t.extent.anchor.line = true := by
    rw [target.anchor, Document.hasLine_natCast, decide_eq_true target.lt_length]
  rw [Buffer.insertComment, if_pos hline]
  exact ⟨_, rfl⟩

/-- A text fails to be placed above such a construct only if nothing is left of it. -/
theorem fromGeneration_of_place {limit : Limit} (h : current b.lines limit cursor = .ok t)
    {text : Text} {f : Fault} (failed : place b t prompt text = .error f) : FromGeneration f := by
  rw [place] at failed
  dsimp only at failed
  split at failed
  · cases failed
    exact fromGeneration_compound List.mem_cons_self fromGeneration_marked
  · obtain ⟨result, hresult⟩ :=
      exists_insertComment_of_current h (formatComment t.indent text)
    rw [hresult] at failed
    cases failed

section Settle

variable (found : List Log.Event) (reply : Reply)

theorem settle_asked : (settle found b t prompt reply).asked = some prompt := by
  rw [settle]
  split
  · rfl
  · split <;> rfl

theorem settle_atomic : (∃ placed, (settle found b t prompt reply).outcome = .ok placed) ∨
    (settle found b t prompt reply).buffer = b := by
  rw [settle]
  split
  · exact .inr rfl
  · split
    · exact .inr rfl
    · exact .inl ⟨_, rfl⟩

theorem settle_fromGeneration {limit : Limit} (h : current b.lines limit cursor = .ok t) {f : Fault}
    (failed : (settle found b t prompt reply).outcome = .error f) : FromGeneration f := by
  rw [settle] at failed
  split at failed
  · cases failed
    exact fromGeneration_generationFault _
  · split at failed
    · next hplace =>
      cases failed
      exact fromGeneration_of_place h hplace
    · cases failed

end Settle

/-- An attempt that does not succeed leaves the buffer as it was. -/
theorem document_atomic (language : TemplateLanguage) (d : Documenter)
    (generator : Option Generator) (b : Buffer) (cursor : Position) :
    (∃ placed, (d.document generator b cursor language).outcome = .ok placed) ∨
      (d.document generator b cursor language).buffer = b := by
  rw [document]
  cases generator with
  | none => exact .inr rfl
  | some generate =>
    cases h : d.prompt b cursor language with
    | error f =>
      rw [documentIn_of_error _ h]
      exact .inr rfl
    | ok found =>
      rw [documentIn_of_ok _ h]
      exact settle_atomic _ _

section Recorded

variable {σ : Type} (ask : Text → StateM σ Reply) (s : σ)

theorem orderly_of_unconfigured (language : TemplateLanguage) (d : Documenter) (b : Buffer)
    (cursor : Position) :
    Orderly language d none b cursor s (d.document none b cursor language) [] where
  attempt_eq := rfl
  once := Nat.zero_le 1
  asked := rfl
  mem_iff prompt := by simp
  atomic := .inr rfl
  fault_after hne := absurd rfl hne
  in_range _ h := exists_insertComment_of_current h

/-- Without a prompt there is no question. -/
theorem orderly_of_error {f : Fault} (h : d.prompt b cursor language = .error f) :
    Orderly language d (some ask) b cursor s
      { outcome := .error f, buffer := b, events := d.promptEvents b cursor } [] where
  attempt_eq := by
    rw [document, Option.map_some, documentIn_of_error _ h]
    rfl
  once := Nat.zero_le 1
  asked := rfl
  mem_iff prompt := by
    simp only [List.not_mem_nil, false_iff]
    rintro ⟨-, t, hcurrent, hrender⟩
    rw [prompt_eq_ok_iff.2 ⟨hcurrent, hrender⟩] at h
    cases h
  atomic := .inr rfl
  fault_after hne := absurd rfl hne
  in_range _ h := exists_insertComment_of_current h

/-- With a prompt, the prompt is the one question. -/
theorem orderly_of_ok (h : d.prompt b cursor language = .ok (t, prompt)) :
    Orderly language d (some ask) b cursor s
      (settle (d.promptEvents b cursor) b t prompt (ask prompt s).1) [prompt] where
  attempt_eq := by
    rw [document, Option.map_some, documentIn_of_ok _ h]
    rfl
  once := Nat.le_refl 1
  asked := by rw [settle_asked, Option.toList_some]
  mem_iff other := by
    obtain ⟨hcurrent, hrender⟩ := prompt_eq_ok_iff.1 h
    rw [List.mem_singleton]
    constructor
    · rintro rfl
      exact ⟨rfl, t, hcurrent, hrender⟩
    · rintro ⟨-, t', hcurrent', hrender'⟩
      rw [prompt_eq_ok_iff.2 ⟨hcurrent', hrender'⟩] at h
      cases h
      rfl
  atomic := settle_atomic _ _
  fault_after _ _ failed := settle_fromGeneration _ _ (prompt_eq_ok_iff.1 h).1 failed
  in_range _ h := exists_insertComment_of_current h

end Recorded

/-- **An attempt is orderly**: whatever the language of the templates is, and whatever the generator
does and answers, it is asked at most once and only for the prompt of the construct at the cursor,
the buffer is left as it was unless a comment is placed, and a fault after the question is one of
generation. -/
theorem documentIn_orderly {σ : Type} (language : TemplateLanguage) (d : Documenter)
    (generator : Option (Text → StateM σ Reply)) (b : Buffer) (cursor : Position) (s : σ) :
    let run := ((d.documentIn (generator.map recorded) b cursor language).run []).run s
    Orderly language d generator b cursor s run.1.1 run.1.2 := by
  cases generator with
  | none => exact orderly_of_unconfigured s language d b cursor
  | some ask =>
    rw [Option.map_some]
    cases h : d.prompt b cursor language with
    | error f =>
      rw [documentIn_of_error _ h]
      exact orderly_of_error ask s h
    | ok found =>
      obtain ⟨t, prompt⟩ := found
      rw [documentIn_of_ok _ h]
      exact orderly_of_ok ask s h

end Documenter

end DocScribe.Documentation
