import DocScribe.Proofs.Json.RoundTrip
import DocScribe.Proofs.Number.Rendering
import DocScribe.Settings.Basic

/-!
# The settings file

The text of saved settings is read as the JSON form of the settings, in which texts have U+FFFD for
stray bytes (`read?_indented`).
-/

namespace DocScribe

namespace Json

open Number (Numeral Binary64)

variable {escapes : Escapes} {level depth : Nat}

theorem parses_int (n : Int) (depth : Nat) : Parses (Number.signed n) depth (.int n) := by
  have parse := parses_numeral (Binary64.wellFormed_signedNumeral n) depth
  rwa [Binary64.text_signedNumeral] at parse

theorem parses_float {x : Binary64} (finite : x.IsFinite) (depth : Nat) :
    Parses (x.render floatLayout) depth (.float x) := by
  obtain ⟨n, wf, htext, -⟩ := Binary64.exists_numeral_render finite floatLayout
  have parse := parses_numeral wf depth
  rwa [htext] at parse

theorem MembersParse.named {name : Text} (hname : name.isUtf8 = true) {v v' : Json}
    {ms ms' : List (Text × Json)} (value : Parses (indentedAt escapes level v) depth v')
    (tail : MembersParse escapes level depth ms ms') :
    MembersParse escapes level depth ((name, v) :: ms) ((name, v') :: ms') := by
  have parse := MembersParse.cons name value tail
  rwa [Text.repaired_eq_self_iff.2 hname] at parse

theorem MembersParse.append {ms ms' others others' : List (Text × Json)}
    (first : MembersParse escapes level depth ms ms')
    (rest : MembersParse escapes level depth others others') :
    MembersParse escapes level depth (ms ++ others) (ms' ++ others') := by
  induction first with
  | nil => exact rest
  | cons name value _ ih => exact .cons name value ih

end Json

namespace Settings

open Json (Parses MembersParse)

/-- The settings with U+FFFD for stray bytes of texts. -/
def repaired (s : Settings) : Settings :=
  { s with
    generation :=
      { s.generation with
        provider := s.generation.provider.repaired
        model := s.generation.model.repaired
        baseUrl := s.generation.baseUrl.repaired
        apiKeyEnv := s.generation.apiKeyEnv.repaired
        promptsFile := s.generation.promptsFile.repaired }
    logging :=
      { s.logging with
        format := s.logging.format.repaired
        level := s.logging.level.repaired
        file := s.logging.file.repaired
        maxSize := s.logging.maxSize.repaired } }

theorem isEmpty_repaired (s : Text) : s.repaired.isEmpty = s.isEmpty := by
  cases s with
  | nil => rfl
  | cons b s =>
    have hlength := (Text.length_repaired (b :: s)).1
    cases hrepaired : Text.repaired (b :: s) with
    | nil => simp [hrepaired] at hlength
    | cons => rfl

/-- A member that may be left out. -/
def optional (absent : Bool) (name : Text) (v : Json) : List (Text × Json) :=
  if absent then [] else [(name, v)]

theorem loggingMembers_eq (l : LoggingSettings) :
    loggingMembers l =
      [(("format" : Text), Json.string l.format), ("level", .string l.level)] ++
        optional l.file.isEmpty "file" (.string l.file) ++
        optional l.maxSize.isEmpty "maxSize" (.string l.maxSize) ++
        optional (l.maxBackups == 0) "maxBackups" (.int l.maxBackups) := rfl

theorem membersParse_optional {level depth : Nat} {absent : Bool} {name : Text}
    (hname : name.isUtf8 = true) {v v' : Json}
    (value : Parses (Json.indentedAt .document level v) depth v') :
    MembersParse .document level depth (optional absent name v) (optional absent name v') := by
  cases absent with
  | true => exact .nil
  | false => exact .named hname value .nil

theorem membersParse_loggingMembers (s : Settings) (level depth : Nat) :
    MembersParse .document level depth (loggingMembers s.logging)
      (loggingMembers s.repaired.logging) := by
  have halways : MembersParse .document level depth
      [("format", .string s.logging.format), ("level", .string s.logging.level)]
      [("format", .string s.repaired.logging.format),
        ("level", .string s.repaired.logging.level)] :=
    .named (by decide) (Json.parses_string _ _ _)
      (.named (by decide) (Json.parses_string _ _ _) .nil)
  rw [loggingMembers_eq, loggingMembers_eq,
    show s.repaired.logging.file.isEmpty = s.logging.file.isEmpty from isEmpty_repaired _,
    show s.repaired.logging.maxSize.isEmpty = s.logging.maxSize.isEmpty from isEmpty_repaired _]
  refine ((halways.append ?_).append ?_).append ?_
  · exact membersParse_optional (by decide) (Json.parses_string _ _ _)
  · exact membersParse_optional (by decide) (Json.parses_string _ _ _)
  · exact membersParse_optional (by decide) (Json.parses_int _ _)

theorem loggingMembers_ne_nil (l : LoggingSettings) : loggingMembers l ≠ [] := by
  simp [loggingMembers]

/-- The text of saved settings is read as their JSON form. -/
theorem read?_indented {s : Settings} (finite : s.generation.temperature.IsFinite) :
    Json.read? (Json.indented .document s.toJson) = some s.repaired.toJson := by
  have hscan : Parses (Json.indentedAt .document 1 (.object [("maxLines", .int s.scan.maxLines)]))
      9999 (.object [("maxLines", .int s.scan.maxLines)]) :=
    Json.parses_object (List.cons_ne_nil _ _)
      (.named (by decide) (Json.parses_int _ _) .nil)
  have hlogging : Parses (Json.indentedAt .document 1 (.object (loggingMembers s.logging)))
      9999 (.object (loggingMembers s.repaired.logging)) :=
    Json.parses_object (loggingMembers_ne_nil _) (membersParse_loggingMembers s 2 9998)
  apply Json.read?_of_parses
  refine Json.parses_object (List.cons_ne_nil _ _) ?_
  refine .named (by decide) (Json.parses_int _ _) ?_
  refine .named (by decide) hscan ?_
  refine .named (by decide) (Json.parses_object (List.cons_ne_nil _ _) ?_) ?_
  · refine .named (by decide) (Json.parses_string _ _ _) ?_
    refine .named (by decide) (Json.parses_string _ _ _) ?_
    refine .named (by decide) (Json.parses_string _ _ _) ?_
    refine .named (by decide) (Json.parses_float finite _) ?_
    refine .named (by decide) (Json.parses_int _ _) ?_
    refine .named (by decide) (Json.parses_string _ _ _) ?_
    refine .named (by decide) (Json.parses_string _ _ _) ?_
    exact .named (by decide) (Json.parses_int _ _) .nil
  · exact .named (by decide) hlogging .nil

end Settings

end DocScribe
