import DocScribe.Documentation.Document
import DocScribe.Proofs.Buffer.Insert
import DocScribe.Proofs.Buffer.LineEnds
import DocScribe.Proofs.Documentation.Comment

/-!
# What documenting a construct changes

A successful attempt is a splice (`Spliced`): the lines above the declaration end in the comment
lines that give way, the lines of the formatted text stand in their place, and everything else
stays. `document_frames_code` says so of the bytes of the file. All of this holds in every language
of templates: a prompt is only handed on.
-/

namespace DocScribe.Documentation

open Scan Source Text

deriving instance DecidableEq for Placed

namespace Documenter

variable {language : TemplateLanguage} {d : Documenter} {generate : Generator} {b after : Buffer}
  {cursor : Position} {placed : Placed} {t : Target} {prompt text : Text} {n : Nat}

theorem prompt_eq_ok_iff :
    d.prompt b cursor language = .ok (t, prompt) ↔
      current b.lines d.limit cursor = .ok t ∧
        d.templates.render t.kind (d.promptData b t) language = .ok prompt := by
  rw [Documenter.prompt]
  cases current b.lines d.limit cursor with
  | error f => simp
  | ok found =>
    dsimp only
    cases hrender : d.templates.render found.kind (d.promptData b found) language with
    | error f =>
      simp only [Except.map, reduceCtorEq, false_iff, Except.ok.injEq]
      rintro ⟨rfl, h⟩
      rw [hrender] at h
      cases h
    | ok s =>
      simp only [Except.map, Except.ok.injEq, Prod.mk.injEq]
      constructor
      · rintro ⟨rfl, rfl⟩
        exact ⟨rfl, hrender⟩
      · rintro ⟨rfl, h⟩
        rw [hrender] at h
        exact ⟨rfl, Except.ok.inj h⟩

/-- Placing a text above a declaration succeeds iff anything is left of it after formatting. -/
theorem place_eq_ok_iff {limit : Limit} (target : IsTarget b.lines limit n t) :
    place b t prompt text = .ok (placed, after) ↔
      formatComment t.indent text ≠ [] ∧
      placed = ⟨t, prompt, formatComment t.indent text,
        (n : Int) - Buffer.commentsAbove b.lines n, Buffer.commentsAbove b.lines n⟩ ∧
      after = { b with
        lines := b.lines.take (n - Buffer.commentsAbove b.lines n) ++
          Buffer.commentLines (formatComment t.indent text) ++ b.lines.drop n } := by
  have hline : b.lines.hasLine n = true := by
    rw [Document.hasLine_natCast, decide_eq_true target.lt_length]
  simp only [place, Buffer.insertComment, target.anchor, hline, if_true, Int.toNat_natCast]
  by_cases hempty : formatComment t.indent text = []
  · simp [hempty]
  · rw [if_neg (by simpa using hempty), Except.ok.injEq, Prod.mk.injEq]
    exact ⟨fun h => ⟨hempty, h.1.symm, h.2.symm⟩, fun h => ⟨h.2.1.symm, h.2.2.symm⟩⟩

section Asking

variable {m : Type → Type} [Monad m] (ask : Text → m Reply)

/-- Where there is no prompt, the generator is not asked. -/
theorem documentIn_of_error {f : Fault} (h : d.prompt b cursor language = .error f) :
    d.documentIn (some ask) b cursor language =
      pure { outcome := .error f, buffer := b, events := d.promptEvents b cursor } := by
  simp only [documentIn, h]

/-- The generator is asked for the prompt, and its reply settles what comes of the attempt. -/
theorem documentIn_of_ok (h : d.prompt b cursor language = .ok (t, prompt)) :
    d.documentIn (some ask) b cursor language =
      ask prompt >>= fun reply => pure (settle (d.promptEvents b cursor) b t prompt reply) := by
  simp only [documentIn, h]

end Asking

theorem settle_eq_ok_iff {found : List Log.Event} {reply : Reply} :
    (settle found b t prompt reply).outcome = .ok placed ∧
        (settle found b t prompt reply).buffer = after ↔
      ∃ text, reply.outcome = .ok text ∧ place b t prompt text = .ok (placed, after) := by
  rw [settle]
  cases reply.outcome with
  | error f => simp
  | ok text =>
    simp only [Except.ok.injEq, exists_eq_left']
    cases place b t prompt text with
    | error f => simp
    | ok result => simp [Prod.ext_iff]

/-- An attempt succeeds iff a construct is found, the generator answers and its text is placed. -/
theorem document_eq_ok_iff :
    (d.document (some generate) b cursor language).outcome = .ok placed ∧
        (d.document (some generate) b cursor language).buffer = after ↔
      ∃ t prompt text, d.prompt b cursor language = .ok (t, prompt) ∧
        (generate prompt).outcome = .ok text ∧ place b t prompt text = .ok (placed, after) := by
  rw [document]
  cases hprompt : d.prompt b cursor language with
  | error f =>
    rw [documentIn_of_error _ hprompt]
    simp
  | ok found =>
    obtain ⟨t, prompt⟩ := found
    rw [documentIn_of_ok _ hprompt]
    simp only [Except.ok.injEq, Prod.mk.injEq, and_assoc, exists_and_left, exists_eq_left']
    exact settle_eq_ok_iff

end Documenter

/-- A successful attempt: the lines of `text` stand above line `line` of the buffer, in the place of
the comment lines `replaced`, and the lines in `front` are left as they were. -/
structure Splice (language : TemplateLanguage) (d : Documenter) (generate : Generator) (b : Buffer)
    (placed : Placed) (after : Buffer) where
  line : Nat
  text : Text
  front : List Text
  replaced : List Text
  target : IsTarget b.lines d.limit line placed.target
  rendered : d.templates.render placed.target.kind (d.promptData b placed.target) language =
    .ok placed.prompt
  reply : (generate placed.prompt).outcome = .ok text
  comment : placed.comment = formatComment placed.target.indent text
  docLines_ne_nil : docLines placed.target.indent text ≠ []
  line_eq : line = front.length + replaced.length
  above : b.lines.take line = front ++ replaced
  comments : ∀ line ∈ replaced, isCommentOnly line = true
  stops : ∀ line, front.getLast? = some line → isCommentOnly line = false
  insertedAt : placed.insertedAt = front.length
  removed : placed.removed = replaced.length
  buffer : after =
    { b with lines := front ++ docLines placed.target.indent text ++ b.lines.drop line }

theorem lf_not_mem_indent {b : Buffer} {limit : Limit} {n : Nat} {t : Target}
    (free : b.SingleLines) (target : IsTarget b.lines limit n t) :
    lf ∉ t.indent := by
  intro hmem
  rw [target.indent] at hmem
  refine free _ (Document.lineText_mem target.lt_length) ?_
  rw [← (b.lines.lineText n).indent_append_trimStart]
  exact List.mem_append_left _ hmem

/-- Every successful attempt on a buffer is a splice. -/
theorem nonempty_splice {language : TemplateLanguage} {d : Documenter} {generate : Generator}
    {b : Buffer} {cursor : Position} {placed : Placed} (free : b.SingleLines)
    (h : (d.document (some generate) b cursor language).outcome = .ok placed) :
    Nonempty (Splice language d generate b placed
      (d.document (some generate) b cursor language).buffer) := by
  obtain ⟨t, prompt, text, hprompt, hreply, hplace⟩ := Documenter.document_eq_ok_iff.1 ⟨h, rfl⟩
  obtain ⟨hcurrent, hrender⟩ := Documenter.prompt_eq_ok_iff.1 hprompt
  obtain ⟨n, target⟩ := exists_isTarget_of_current hcurrent
  obtain ⟨hcomment, rfl, hafter⟩ := (Documenter.place_eq_ok_iff target).1 hplace
  obtain ⟨front, replaced, habove, hlen, hcomments, hstops⟩ :=
    Buffer.exists_comments_above b.lines n
  have hn : n = front.length + replaced.length := by
    have hlength := congrArg List.length habove
    rw [List.length_take, List.length_append, Nat.min_eq_left (Nat.le_of_lt target.lt_length)]
      at hlength
    exact hlength
  have hfront : b.lines.take (n - Buffer.commentsAbove b.lines n) = front := by
    rw [← hlen, show n - replaced.length = min front.length n by omega, ← List.take_take, habove,
      List.take_left]
  rw [hfront, commentLines_formatComment (lf_not_mem_indent free target)] at hafter
  exact ⟨{
    line := n, text, front, replaced, target
    rendered := hrender
    reply := hreply
    comment := rfl
    docLines_ne_nil := fun hnil => hcomment (formatComment_eq_nil_iff.2 hnil)
    line_eq := hn
    above := habove
    comments := hcomments
    stops := hstops
    insertedAt := by dsimp only; omega
    removed := hlen.symm
    buffer := hafter }⟩

/-- The text consists of these complete lines. -/
structure ConsistsOf (s : Text) (lineEnd : LineEnd) (lines : List Text) : Prop where
  text : s = terminate lineEnd.text lines
  free : ∀ line ∈ lines, lf ∉ line

/-- The line is the first of the text. -/
structure StartsWithLine (s : Text) (lineEnd : LineEnd) (line : Text) : Prop where
  start : s = line ∨ line ++ lineEnd.text <+: s
  free : lf ∉ line

theorem join_startsWithLine (lineEnd : LineEnd) {line : Text} (rest : List Text)
    (free : lf ∉ line) : StartsWithLine (join lineEnd.text (line :: rest)) lineEnd line := by
  refine ⟨?_, free⟩
  cases rest with
  | nil => exact .inl rfl
  | cons next rest => exact .inr ⟨join lineEnd.text (next :: rest), rfl⟩

namespace Splice

variable {language : TemplateLanguage} {d : Documenter} {generate : Generator} {b after : Buffer}
  {placed : Placed} (splice : Splice language d generate b placed after)

/-- The comment lines that were placed. -/
def added : List Text :=
  docLines placed.target.indent splice.text

theorem lines_eq : b.lines = splice.front ++ splice.replaced ++ b.lines.drop splice.line := by
  rw [← splice.above, List.take_append_drop]

theorem lines_after : after.lines = splice.front ++ splice.added ++ b.lines.drop splice.line :=
  congrArg Buffer.lines splice.buffer

theorem comment_eq : placed.comment = terminate [lf] splice.added := by
  rw [splice.comment, formatComment_eq_terminate, added]

/-- What was placed is comment lines, whatever the generator wrote. -/
theorem isCommentOnly_of_mem_added : ∀ line ∈ splice.added, isCommentOnly line = true := by
  intro line hline
  obtain ⟨piece, -, rfl⟩ := List.mem_map.1 hline
  rw [splice.target.indent]
  exact isCommentOnly_docLine (Text.indent_blank _).1 piece

theorem free_added (free : b.SingleLines) : ∀ line ∈ splice.added, lf ∉ line :=
  fun _ hline => lf_not_mem_of_mem_docLines (lf_not_mem_indent free splice.target) hline

theorem free_above (free : b.SingleLines) :
    ∀ line ∈ splice.front ++ splice.replaced, lf ∉ line := by
  rw [← splice.above]
  exact fun line hline => free line (List.mem_of_mem_take hline)

theorem free_front (free : b.SingleLines) : ∀ line ∈ splice.front, lf ∉ line :=
  fun line hline => splice.free_above free line (List.mem_append_left _ hline)

theorem free_replaced (free : b.SingleLines) : ∀ line ∈ splice.replaced, lf ∉ line :=
  fun line hline => splice.free_above free line (List.mem_append_right _ hline)

theorem drop_ne_nil : b.lines.drop splice.line ≠ [] := by
  rw [Ne, List.drop_eq_nil_iff, Nat.not_le]
  exact splice.target.lt_length

/-- The text before the attempt: the lines in front, the replaced lines and the rest. -/
theorem text_before : b.text = terminate b.lineEnd.text splice.front ++
    terminate b.lineEnd.text splice.replaced ++ join b.lineEnd.text (b.lines.drop splice.line) := by
  rw [Buffer.text, ← terminate_append, ← join_append _ _ splice.drop_ne_nil, ← splice.lines_eq]

/-- The text after the attempt: the comment stands in the place of the replaced lines. -/
theorem text_after : after.text = terminate b.lineEnd.text splice.front ++
    terminate b.lineEnd.text splice.added ++ join b.lineEnd.text (b.lines.drop splice.line) := by
  rw [← terminate_append, ← join_append _ _ splice.drop_ne_nil]
  exact congrArg Buffer.text splice.buffer

/-- What follows the comment starts with the declaration. -/
theorem startsWithLine_declaration (free : b.SingleLines) :
    StartsWithLine (join b.lineEnd.text (b.lines.drop splice.line)) b.lineEnd
      (b.lines.lineText splice.line) := by
  have hlt := splice.target.lt_length
  rw [Document.drop_eq_lineText_cons hlt]
  exact join_startsWithLine _ _ (free _ (Document.lineText_mem hlt))

end Splice

/-- How a placed comment changes a text: it stands in the place of comment lines directly above the
declaration, and all else stays. -/
structure Framed (source result : Text) (lineEnd : LineEnd) (placed : Placed)
    (before replaced comment rest : Text) : Prop where
  source_eq : source = before ++ replaced ++ rest
  result_eq : result = before ++ comment ++ rest
  comment_eq : comment = replaceAll [lf] lineEnd.text placed.comment
  before_lines : ∃ lines, ConsistsOf before lineEnd lines ∧ lines.length = placed.insertedAt
  replaced_lines : ∃ lines, ConsistsOf replaced lineEnd lines ∧ lines.length = placed.removed ∧
    ∀ line ∈ lines, isCommentOnly line = true
  comment_lines : ∃ lines, ConsistsOf comment lineEnd lines ∧ lines ≠ [] ∧
    ∀ line ∈ lines, isCommentOnly line = true
  rest_start : ∃ line, StartsWithLine rest lineEnd line ∧
    line = (Document.ofText source).lineText placed.target.extent.anchor.line ∧
    codeKind line = placed.target.kind ∧ codeName line placed.target.kind = placed.target.name

/-- **Documenting changes no code**: whatever the templates and their language are and whatever the
generator answers, the text keeps every byte but those of the comment lines right above the
declaration, and what stands in their place is comment lines again. -/
theorem document_frames_code {language : TemplateLanguage} {d : Documenter}
    {generator : Option Generator} {source : Text} {cursor : Position} {placed : Placed}
    (uniform : UniformLineEnds source)
    (h : (d.document generator (.ofText source) cursor language).outcome = .ok placed) :
    ∃ before replaced comment rest,
      Framed source (d.document generator (.ofText source) cursor language).buffer.text
        (Buffer.ofText source).lineEnd placed before replaced comment rest := by
  cases generator with
  | none => cases h
  | some generate =>
    have free := Buffer.singleLines_ofText source
    obtain ⟨splice⟩ := nonempty_splice free h
    exact ⟨_, _, _, _, {
      source_eq := by rw [← splice.text_before, Buffer.text_ofText uniform]
      result_eq := splice.text_after
      comment_eq := by rw [splice.comment_eq, replaceAll_terminate _ (splice.free_added free)]
      before_lines := ⟨splice.front, ⟨rfl, splice.free_front free⟩, splice.insertedAt.symm⟩
      replaced_lines :=
        ⟨splice.replaced, ⟨rfl, splice.free_replaced free⟩, splice.removed.symm, splice.comments⟩
      comment_lines :=
        ⟨splice.added, ⟨rfl, splice.free_added free⟩, splice.docLines_ne_nil,
          splice.isCommentOnly_of_mem_added⟩
      rest_start :=
        ⟨_, splice.startsWithLine_declaration free, by rw [splice.target.anchor]; rfl,
          splice.target.declares, splice.target.name⟩ }⟩

/-- A method under two comment lines, where lines end in CR LF and one holds a lone carriage
return. -/
def commentedMethod : Text :=
  "impl S \x7b\r\n\t// old\r\x7b\r\n\t/* older */\r\n\tfn f() \x7b\x7d\r\n\x7d"

/-- A documenter without a scan limit that asks with the owner and the source of a method. -/
def terse : Documenter where
  templates :=
    { Templates.builtin with
      method := ("Document " : Text) ++ action ".Owner" ++ (": " : Text) ++ action ".Body" }
  limit := ⟨0⟩

/-- A generator that writes code on a line of its own. -/
def overreaching : Generator :=
  fun _ => { outcome := .ok "/// Calls `g`.\r\n\r\n\x7d fn g() \x7b // x" }

/-- What comes of documenting the method. -/
def methodPlaced : Placed where
  target :=
    { kind := .function
      name := "f"
      extent := ⟨⟨3, 0⟩, ⟨3, 9⟩⟩
      indent := "\t"
      owner := some ⟨.structImpl, "S"⟩ }
  prompt := "Document S: \tfn f() \x7b\x7d"
  comment := "\t/// Calls `g`.\n\t///\n\t/// \x7d fn g() \x7b // x\n"
  insertedAt := 1
  removed := 2

theorem outcome_commentedMethod :
    (terse.document (some overreaching) (.ofText commentedMethod) ⟨3, 0⟩).outcome =
      .ok methodPlaced := by
  decide +kernel

theorem commentedMethod_frames_code :
    UniformLineEnds commentedMethod ∧
    (terse.document (some overreaching) (.ofText commentedMethod) ⟨3, 0⟩).outcome =
      .ok methodPlaced ∧
    ∃ before replaced comment rest,
      Framed commentedMethod
        (terse.document (some overreaching) (.ofText commentedMethod) ⟨3, 0⟩).buffer.text
        (Buffer.ofText commentedMethod).lineEnd methodPlaced before replaced comment rest := by
  have uniform : UniformLineEnds commentedMethod := by decide
  exact ⟨uniform, outcome_commentedMethod, document_frames_code uniform outcome_commentedMethod⟩

end DocScribe.Documentation
