import DocScribe.Proofs.Documentation.Atomicity

/-!
# What a run of attempts keeps

Attempts on one buffer may place comments, replace them and fail, in any order. A line that holds
more than a comment, or nothing at all, is never touched: the list of these lines, `keptLines`, is
the same after every attempt (`Call.keeps`) and so at every point of a run (`runAll_keptLines`). The
attempts also keep the lines of the buffer free of line feeds, which the next one builds on.
-/

namespace DocScribe.Documentation

open Scan Source

/-- The lines that are no comment lines, in order: code and blank lines. -/
def keptLines (lines : Document) : Document :=
  lines.filter fun line => !isCommentOnly line

/-- One request to document: by whom, in which language of templates, with which generator, and
where. -/
structure Call where
  documenter : Documenter
  language : TemplateLanguage
  generator : Option Generator
  cursor : Position

/-- The buffer after a request, whether it succeeded or not. -/
def Call.run (call : Call) (b : Buffer) : Buffer :=
  (call.documenter.document call.generator b call.cursor call.language).buffer

/-- The buffer after requests one after the other. -/
def runAll (b : Buffer) (calls : List Call) : Buffer :=
  calls.foldl (fun b call => call.run b) b

theorem keptLines_append (front back : Document) :
    keptLines (front ++ back) = keptLines front ++ keptLines back :=
  List.filter_append ..

theorem keptLines_eq_nil {lines : Document} (h : ∀ line ∈ lines, isCommentOnly line = true) :
    keptLines lines = [] := by
  refine List.filter_eq_nil_iff.2 fun line hline => ?_
  rw [h line hline]
  exact Bool.false_ne_true

/-- Comment lines that take the place of others leave all other lines. -/
theorem keptLines_replace {front old new back : Document}
    (hold : ∀ line ∈ old, isCommentOnly line = true)
    (hnew : ∀ line ∈ new, isCommentOnly line = true) :
    keptLines (front ++ new ++ back) = keptLines (front ++ old ++ back) := by
  rw [keptLines_append, keptLines_append, keptLines_append, keptLines_append,
    keptLines_eq_nil hold, keptLines_eq_nil hnew]

namespace Splice

variable {language : TemplateLanguage} {d : Documenter} {generate : Generator} {b after : Buffer}
  {placed : Placed} (splice : Splice language d generate b placed after)
include splice

theorem keptLines_after : keptLines after.lines = keptLines b.lines := by
  rw [splice.lines_after]
  conv => rhs; rw [splice.lines_eq]
  exact keptLines_replace splice.comments splice.isCommentOnly_of_mem_added

theorem singleLines_after (free : b.SingleLines) : after.SingleLines := by
  intro line hline
  rw [splice.lines_after] at hline
  rcases List.mem_append.1 hline with hline | hline
  · rcases List.mem_append.1 hline with hline | hline
    · exact splice.free_front free line hline
    · exact splice.free_added free line hline
  · exact free line (List.mem_of_mem_drop hline)

end Splice

/-- What one request keeps of a buffer. -/
structure Keeps (b after : Buffer) : Prop where
  lines : keptLines after.lines = keptLines b.lines
  free : after.SingleLines

/-- A request leaves the buffer as it is, or splices comment lines into it. -/
theorem Call.keeps {b : Buffer} (free : b.SingleLines) (call : Call) : Keeps b (call.run b) := by
  obtain ⟨d, language, generator, cursor⟩ := call
  rcases d.document_atomic language generator b cursor with ⟨placed, hplaced⟩ | hsame
  · cases generator with
    | none => cases hplaced
    | some generate =>
      obtain ⟨splice⟩ := nonempty_splice free hplaced
      exact ⟨splice.keptLines_after, splice.singleLines_after free⟩
  · rw [Call.run, hsame]
    exact ⟨rfl, free⟩

/-- Requests keep of a buffer what each of them keeps. -/
theorem keeps_runAll {b : Buffer} (free : b.SingleLines) (calls : List Call) :
    Keeps b (runAll b calls) := by
  induction calls generalizing b with
  | nil => exact ⟨rfl, free⟩
  | cons call calls ih =>
    have first := call.keeps free
    have rest := ih first.free
    exact ⟨rest.lines.trans first.lines, rest.free⟩

/-- **Code is never lost**: whatever is requested of a buffer over a text, and whatever fails, the
code lines and the blank lines are at every point the ones of the text, in their order. -/
theorem runAll_keptLines (source : Text) (calls : List Call) (n : Nat) :
    keptLines (runAll (.ofText source) (calls.take n)).lines =
      keptLines (Document.ofText source) :=
  (keeps_runAll (Buffer.singleLines_ofText source) (calls.take n)).lines

end DocScribe.Documentation
