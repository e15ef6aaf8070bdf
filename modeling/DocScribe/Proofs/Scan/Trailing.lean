import DocScribe.Proofs.Scan.Target
import DocScribe.Proofs.Source.Declaration
import DocScribe.Scan.Hierarchy
import Mathlib.Data.List.Forall2

/-!
# Trailing comments are invisible

`Annotated d d'` says that `d'` is `d` with line comments put after some of its lines. The scans
read a line through its code, and its indentation if it declares something; `SameCode` says that two
lines agree on both, and a trailing comment keeps them (`Annotates.sameCode`). What a scan reads
besides is the last column of the line that closes a construct. So under any limit the scans of both
documents have the same outcome, up to that column (`Annotated.agrees`).
-/

namespace DocScribe

/-- The first column of the line. -/
def Position.lineStart (p : Position) : Position :=
  ⟨p.line, 0⟩

/-- The range without the column that it ends in. -/
def Range.wholeLines (range : Range) : Range :=
  ⟨range.anchor, range.last.lineStart⟩

namespace Scan

open Source

/-- The target without the column that it ends in. -/
def Target.wholeLines (t : Target) : Target :=
  { t with extent := t.extent.wholeLines }

/-- The second line is the first one, or the first one and a line comment after it. The first line
does not end in a slash, which would start the comment early, nor in a backslash, which would escape
it. -/
inductive Annotates (line : Text) : Text → Prop where
  | same : Annotates line line
  | comment (text : Text) (ends : EndsPlain line) :
      Annotates line (line ++ Text.slash :: Text.slash :: text)

/-- Document `d'` is `d` with line comments after some of its lines. -/
abbrev Annotated (d d' : Document) : Prop :=
  List.Forall₂ Annotates d d'

/-- The lines have the same code, and the same indentation if there is any. -/
structure SameCode (line line' : Text) : Prop where
  code : stripComments line' = stripComments line
  indent : hasCode line = true → line'.indent = line.indent

theorem Annotates.sameCode {line line' : Text} (h : Annotates line line') :
    SameCode line line' := by
  cases h with
  | same => exact ⟨rfl, fun _ => rfl⟩
  | comment text ends =>
    refine ⟨stripComments_append_comment ends text, fun hcode => ?_⟩
    exact Text.indent_append_cons (isBlank_of_hasCode hcode) (by decide) _

namespace SameCode

variable {line line' : Text} (same : SameCode line line')
include same

theorem codeKind_eq : codeKind line' = codeKind line := by
  rw [codeKind, codeKind, same.code]

theorem codeName_eq (kind : Kind) : codeName line' kind = codeName line kind := by
  rw [codeName, codeName, same.code]

theorem opens_eq : opens line' = opens line := by
  rw [opens, opens, same.code]

theorem balance_eq : balance line' = balance line := by
  rw [balance, balance, same.opens_eq, closes, closes, same.code]

/-- A line that names something has code, and with it an indentation that both lines share. -/
theorem indent_eq (kind : Kind) (hname : codeName line kind ≠ []) :
    line'.indent = line.indent := by
  refine same.indent ?_
  by_contra hcode
  rw [Bool.not_eq_true] at hcode
  exact classify_ne_unknown hname (codeKind_of_not_hasCode hcode)

theorem nodeOnLine?_eq (n : Nat) (depth : Int) :
    nodeOnLine? line' n depth = nodeOnLine? line n depth := by
  rw [nodeOnLine?, nodeOnLine?, same.codeKind_eq, same.codeName_eq]
  split
  · rfl
  · next hname => rw [same.indent_eq (codeKind line) (by simpa using hname)]

theorem ownerOnLine?_eq : ownerOnLine? line' = ownerOnLine? line := by
  rw [ownerOnLine?, ownerOnLine?, same.codeKind_eq, same.codeName_eq]

end SameCode

/-! The scans over lines. -/

section Lines

variable {lines lines' : List Text} (same : List.Forall₂ SameCode lines lines') (limit : Limit)
include same

theorem startAmong_sameCode (kind : Kind) (cursor : Int) (examined : Nat) :
    startAmong limit kind cursor examined lines' = startAmong limit kind cursor examined lines := by
  induction same generalizing examined with
  | nil => rfl
  | cons hline above ih =>
    rw [startAmong, startAmong, hline.codeKind_eq, above.length_eq, ih (examined + 1)]

theorem scopeAmong_sameCode (examined : Nat) :
    scopeAmong limit examined lines' = scopeAmong limit examined lines := by
  induction same generalizing examined with
  | nil => rfl
  | cons hline above ih => rw [scopeAmong, scopeAmong, hline.codeKind_eq, ih (examined + 1)]

theorem endAmong_sameCode (kind : Kind) (start : Int) (examined : Nat) (depth : Int)
    (opened : Bool) :
    (endAmong limit kind start examined depth opened lines').map Position.lineStart =
      (endAmong limit kind start examined depth opened lines).map Position.lineStart := by
  induction same generalizing examined depth opened with
  | nil => rfl
  | cons hline below ih =>
    rw [endAmong, endAmong, hline.balance_eq, hline.opens_eq]
    dsimp only
    split
    · rfl
    · split
      · rfl
      · exact ih _ _ _

theorem enclosingAmong_sameCode (anchor : Int) (examined : Nat) (depth : Int) :
    (enclosingAmong limit anchor examined depth lines').map
        (fun found => found.bind fun p => ownerOnLine? p.1) =
      (enclosingAmong limit anchor examined depth lines).map
        (fun found => found.bind fun p => ownerOnLine? p.1) := by
  induction same generalizing examined depth with
  | nil => rfl
  | cons hline above ih =>
    rw [enclosingAmong, enclosingAmong, hline.balance_eq]
    dsimp only
    split
    · rfl
    · split
      · exact congrArg Except.ok hline.ownerOnLine?_eq
      · exact ih _ _

theorem nodesAmong_sameCode (cursor : Int) (examined : Nat) (depth : Int) (nodes : List Node) :
    nodesAmong limit cursor examined depth nodes lines' =
      nodesAmong limit cursor examined depth nodes lines := by
  induction same generalizing examined depth nodes with
  | nil => rfl
  | cons hline above ih =>
    rw [nodesAmong, nodesAmong, hline.balance_eq, above.length_eq]
    dsimp only
    rw [hline.nodeOnLine?_eq]
    split
    · rfl
    · exact ih _ _ _

end Lines

/-! The scans of documents. -/

/-- Two searches that agree under `view` are followed by searches that agree under `view'`. -/
theorem map_bind_congr {ε α β γ δ : Type} (view : α → γ) {view' : β → δ} {x x' : Except ε α}
    {next next' : α → Except ε β} (hx : x'.map view = x.map view)
    (hnext : ∀ a a', view a' = view a → (next' a').map view' = (next a).map view') :
    (x' >>= next').map view' = (x >>= next).map view' := by
  cases x with
  | error e =>
    cases x' with
    | error e' =>
      cases hx
      rfl
    | ok a' => cases hx
  | ok a =>
    cases x' with
    | error e' => cases hx
    | ok a' => exact hnext a a' (Except.ok.inj hx)

section Documents

variable {d d' : Document} (same : List.Forall₂ SameCode d d') (limit : Limit)
include same

theorem hasLine_sameCode (n : Int) : d'.hasLine n = d.hasLine n := by
  rw [Document.hasLine, Document.hasLine, same.length_eq]

theorem lineText_sameCode (n : Int) : SameCode (d.lineText n) (d'.lineText n) := by
  by_cases hn : d.hasLine n = true
  · obtain ⟨m, rfl, hm⟩ := Document.exists_of_hasLine hn
    have hm' : m < d'.length := same.length_eq ▸ hm
    rw [Document.lineText_of_lt hm, Document.lineText_of_lt hm']
    exact same.get hm hm'
  · have hout : ∀ e : Document, ¬ e.hasLine n = true → e.lineText n = [] := by
      intro e he
      simp only [Document.hasLine, Bool.and_eq_true, decide_eq_true_eq, not_and, not_lt] at he
      rw [Document.lineText]
      split
      · rfl
      · rw [List.getD_eq_getElem?_getD, List.getElem?_eq_none (by omega), Option.getD_none]
    rw [hout d hn, hout d' (by rwa [hasLine_sameCode same])]
    exact ⟨rfl, fun _ => rfl⟩

theorem upFrom_sameCode (n : Int) : List.Forall₂ SameCode (d.upFrom n) (d'.upFrom n) := by
  rw [Document.upFrom, Document.upFrom, hasLine_sameCode same]
  split
  · exact List.rel_reverse (List.forall₂_take _ same)
  · exact .nil

theorem downFrom_sameCode (n : Int) : List.Forall₂ SameCode (d.downFrom n) (d'.downFrom n) := by
  rw [Document.downFrom, Document.downFrom, hasLine_sameCode same]
  split
  · exact List.forall₂_drop _ same
  · exact .nil

theorem findStart_sameCode (cursor : Position) (kind : Kind) :
    findStart d' limit cursor kind = findStart d limit cursor kind := by
  rw [findStart, findStart, startAmong_sameCode (upFrom_sameCode same cursor.line)]

theorem currentScope_sameCode (cursor : Position) :
    currentScope d' limit cursor = currentScope d limit cursor :=
  scopeAmong_sameCode (upFrom_sameCode same cursor.line) limit 1

theorem findEnd_sameCode (start : Position) (kind : Kind) :
    (findEnd d' limit start kind).map Position.lineStart =
      (findEnd d limit start kind).map Position.lineStart := by
  have hlines := downFrom_sameCode same start.line
  rw [findEnd, findEnd]
  cases hdown : d.downFrom start.line with
  | nil =>
    rw [hdown, List.forall₂_nil_left_iff] at hlines
    rw [hlines]
  | cons line below =>
    rw [hdown] at hlines
    obtain ⟨line', below', hline, -, hdown'⟩ := List.forall₂_cons_left_iff.1 hlines
    rw [hdown'] at hlines ⊢
    dsimp only
    rw [hline.codeKind_eq]
    split
    · exact endAmong_sameCode hlines limit kind start.line 1 0 false
    · rfl

theorem findExtent_sameCode (cursor : Position) (kind : Kind) :
    (findExtent d' limit cursor kind).map Range.wholeLines =
      (findExtent d limit cursor kind).map Range.wholeLines := by
  refine map_bind_congr id ?_ fun anchor anchor' hanchor => ?_
  · rw [findStart_sameCode same]
  · obtain rfl : anchor' = anchor := hanchor
    refine map_bind_congr _ (findEnd_sameCode same limit anchor' kind) fun last last' hlast => ?_
    exact congrArg (fun p => Except.ok (Range.mk anchor' p)) hlast

theorem findOwner_sameCode (anchor : Int) :
    findOwner d' limit anchor = findOwner d limit anchor := by
  have hdecl : declaresFunction d' anchor = declaresFunction d anchor := by
    rw [declaresFunction, declaresFunction, hasLine_sameCode same,
      (lineText_sameCode same anchor).codeKind_eq]
  rw [findOwner, findOwner, enclosingLine, enclosingLine, hdecl]
  split
  · exact enclosingAmong_sameCode (upFrom_sameCode same (anchor - 1)) limit anchor 1 1
  · rfl

theorem hierarchy_sameCode (cursor : Position) :
    hierarchy d' limit cursor = hierarchy d limit cursor := by
  rw [hierarchy, hierarchy, hasLine_sameCode same]
  split
  · have hup := upFrom_sameCode same cursor.line
    rw [List.dropLast_eq_take, List.dropLast_eq_take, hup.length_eq]
    exact nodesAmong_sameCode (List.forall₂_take _ hup) limit cursor.line 1 0 []
  · rfl

theorem documentable_sameCode (cursor : Position) (kind : Kind) :
    (documentable d' limit cursor kind).map Target.wholeLines =
      (documentable d limit cursor kind).map Target.wholeLines := by
  refine map_bind_congr _ (findExtent_sameCode same limit cursor kind)
    fun extent extent' hextent => ?_
  obtain ⟨anchor, last⟩ := extent
  obtain ⟨anchor', last'⟩ := extent'
  obtain ⟨rfl, hlast⟩ := Range.mk.inj hextent
  have hline := lineText_sameCode same anchor'.line
  dsimp only
  rw [hline.codeName_eq]
  split
  · rfl
  · next hname =>
    rw [hline.indent_eq kind (by simpa using hname)]
    exact congrArg Except.ok (by simp only [Target.wholeLines, Range.wholeLines, hlast])

theorem currentFunction_sameCode (cursor : Position) :
    (currentFunction d' limit cursor).map Target.wholeLines =
      (currentFunction d limit cursor).map Target.wholeLines := by
  refine map_bind_congr _ (documentable_sameCode same limit cursor .function) fun t t' ht => ?_
  have hanchor : t'.extent.anchor = t.extent.anchor := congrArg (·.extent.anchor) ht
  rw [hanchor]
  refine map_bind_congr id ?_ fun owner owner' howner => ?_
  · rw [findOwner_sameCode same]
  · obtain rfl : owner' = owner := howner
    exact congrArg (fun u : Target => Except.ok { u with owner := owner' }) ht

theorem current_sameCode (cursor : Position) :
    (current d' limit cursor).map Target.wholeLines =
      (current d limit cursor).map Target.wholeLines := by
  rw [current, current, currentScope_sameCode same]
  split
  · exact currentFunction_sameCode same limit cursor
  · exact documentable_sameCode same limit cursor .struct
  · exact documentable_sameCode same limit cursor .trait
  · rfl

end Documents

/-- The scans of `d` and `d'` from a cursor have the same outcome, but for the column in which a
construct ends. -/
structure Agrees (d d' : Document) (limit : Limit) (cursor : Position) : Prop where
  start : ∀ kind, findStart d' limit cursor kind = findStart d limit cursor kind
  owner : findOwner d' limit cursor.line = findOwner d limit cursor.line
  scope : currentScope d' limit cursor = currentScope d limit cursor
  hierarchy : Scan.hierarchy d' limit cursor = Scan.hierarchy d limit cursor
  last : ∀ kind, (findEnd d' limit cursor kind).map Position.lineStart =
    (findEnd d limit cursor kind).map Position.lineStart
  extent : ∀ kind, (findExtent d' limit cursor kind).map Range.wholeLines =
    (findExtent d limit cursor kind).map Range.wholeLines
  function : (currentFunction d' limit cursor).map Target.wholeLines =
    (currentFunction d limit cursor).map Target.wholeLines
  struct : (currentStruct d' limit cursor).map Target.wholeLines =
    (currentStruct d limit cursor).map Target.wholeLines
  trait : (currentTrait d' limit cursor).map Target.wholeLines =
    (currentTrait d limit cursor).map Target.wholeLines
  current : (Scan.current d' limit cursor).map Target.wholeLines =
    (Scan.current d limit cursor).map Target.wholeLines

/-- **Trailing comments are invisible**: whatever they hold, line comments after some lines of a
document change no scan from any cursor under any limit, but for the column in which a construct
ends. -/
theorem Annotated.agrees {d d' : Document} (annotated : Annotated d d') (limit : Limit)
    (cursor : Position) : Agrees d d' limit cursor := by
  have same : List.Forall₂ SameCode d d' := annotated.imp fun _ _ h => h.sameCode
  exact {
    start := findStart_sameCode same limit cursor
    owner := findOwner_sameCode same limit cursor.line
    scope := currentScope_sameCode same limit cursor
    hierarchy := hierarchy_sameCode same limit cursor
    last := findEnd_sameCode same limit cursor
    extent := findExtent_sameCode same limit cursor
    function := currentFunction_sameCode same limit cursor
    struct := documentable_sameCode same limit cursor .struct
    trait := documentable_sameCode same limit cursor .trait
    current := current_sameCode same limit cursor }

/-- A method with an escaped `//` in its body. -/
def quotedMethod : Document :=
  ["impl S \x7b", "  fn f() \x7b", "    g(\"\\//\")", "  \x7d", "\x7d"]

/-- The method with comments that hold braces, declarations and the tokens of comments. -/
def annotatedMethod : Document :=
  ["impl S \x7b// trait T for U \x7b", "  fn f() \x7b// \x7d */ fn g() \x7b",
    "    g(\"\\//\")// \x7d // /*", "  \x7d", "\x7d// \x7b"]

theorem quotedMethod_agrees :
    Annotated quotedMethod annotatedMethod ∧
    current quotedMethod ⟨4⟩ ⟨2, 0⟩ =
      .ok ⟨.function, "f", ⟨⟨1, 0⟩, ⟨3, 2⟩⟩, "  ", some ⟨.structImpl, "S"⟩⟩ ∧
    Agrees quotedMethod annotatedMethod ⟨4⟩ ⟨2, 0⟩ := by
  have annotated : Annotated quotedMethod annotatedMethod :=
    .cons (.comment " trait T for U \x7b" (by decide))
      (.cons (.comment " \x7d */ fn g() \x7b" (by decide))
        (.cons (.comment " \x7d // /*" (by decide))
          (.cons .same (.cons (.comment " \x7b" (by decide)) .nil))))
  exact ⟨annotated, by decide +kernel, annotated.agrees ⟨4⟩ ⟨2, 0⟩⟩

end Scan

end DocScribe
