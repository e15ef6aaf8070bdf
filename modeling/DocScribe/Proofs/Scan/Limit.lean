import DocScribe.Proofs.Scan.Hierarchy
import DocScribe.Proofs.Scan.Target

/-!
# Raising the limit

A scan that the limit did not cut short has seen all that it needs: under a wider limit
(`Limit.Within`) it has the same outcome, result or failure (`Settles`). A search made of several
scans is settled when each of them is, although each has the whole limit to itself
(`Settles.bind`). A hierarchy is never settled in this sense, since a longer scan can find owners
farther away; what it holds under the narrow limit it keeps, and an owner may only give way to a
farther one (`Extended`).
-/

namespace DocScribe.Scan

open Source

/-- The narrow limit is in force, and the wide one lets a scan examine as many lines or any
number. -/
structure Limit.Within (narrow wide : Limit) : Prop where
  pos : 0 < narrow.lines
  le_or_off : narrow.lines ≤ wide.lines ∨ wide.lines ≤ 0

theorem Limit.Within.not_exceeded {narrow wide : Limit} (within : narrow.Within wide) {n : Nat}
    (h : ¬ narrow.exceeded n = true) : ¬ wide.exceeded n = true := by
  rw [Limit.exceeded_iff] at h ⊢
  have hpos := within.pos
  have hle := within.le_or_off
  omega

/-- The search fails for this reason. -/
def FailsWith {α : Type} (reason : Reason) (x : Except Failure α) : Prop :=
  ∃ failure, x = .error failure ∧ failure.reason = reason

/-- Unless the first search was cut short by the limit, the second has the same outcome. -/
def Settles {α : Type} (x y : Except Failure α) : Prop :=
  ¬ FailsWith .limitExceeded x → y = x

theorem Settles.refl {α : Type} (x : Except Failure α) : Settles x x :=
  fun _ => rfl

theorem settles_of_limit {α : Type} {failure : Failure} (h : failure.reason = .limitExceeded)
    (y : Except Failure α) : Settles (.error failure) y :=
  fun settled => absurd ⟨failure, rfl, h⟩ settled

theorem Settles.bind {α β : Type} {x y : Except Failure α} {next next' : α → Except Failure β}
    (first : Settles x y) (rest : ∀ a, x = .ok a → Settles (next a) (next' a)) :
    Settles (x >>= next) (y >>= next') := by
  intro settled
  cases hx : x with
  | error failure =>
    rw [hx] at first settled
    have hy : y = .error failure := first fun ⟨cause, hcause, hreason⟩ => by
      cases hcause
      exact settled ⟨failure, rfl, hreason⟩
    rw [hy]
    rfl
  | ok a =>
    rw [hx] at first settled
    have hy : y = .ok a := first fun ⟨_, h, _⟩ => by cases h
    rw [hy]
    exact rest a hx settled

theorem Settles.map {α β : Type} {x y : Except Failure α} (h : Settles x y) (g : α → β) :
    Settles (x.map g) (y.map g) :=
  h.bind fun a _ => Settles.refl (.ok (g a))

section Scans

variable {narrow wide : Limit} (within : narrow.Within wide)
include within

/-- One line of a scan: the narrow limit cuts the scan short, or both go on. -/
theorem settles_step {α : Type} {examined : Nat} {failure : Failure}
    (hfailure : failure.reason = .limitExceeded) {x y : Except Failure α} (h : Settles x y) :
    Settles (if narrow.exceeded examined then .error failure else x)
      (if wide.exceeded examined then .error failure else y) := by
  by_cases hlim : narrow.exceeded examined = true
  · rw [if_pos hlim]
    exact settles_of_limit hfailure _
  · rw [if_neg hlim, if_neg (within.not_exceeded hlim)]
    exact h

theorem startAmong_settles (kind : Kind) (cursor : Int) (examined : Nat) (lines : List Text) :
    Settles (startAmong narrow kind cursor examined lines)
      (startAmong wide kind cursor examined lines) := by
  induction lines generalizing examined with
  | nil => exact Settles.refl _
  | cons line above ih =>
    rw [startAmong, startAmong]
    refine settles_step within rfl ?_
    dsimp only
    split
    · exact Settles.refl _
    · split
      · exact ih (examined + 1)
      · exact Settles.refl _

theorem endAmong_settles (kind : Kind) (start : Int) (examined : Nat) (depth : Int)
    (opened : Bool) (lines : List Text) :
    Settles (endAmong narrow kind start examined depth opened lines)
      (endAmong wide kind start examined depth opened lines) := by
  induction lines generalizing examined depth opened with
  | nil => exact Settles.refl _
  | cons line below ih =>
    rw [endAmong, endAmong]
    refine settles_step within rfl ?_
    dsimp only
    split
    · exact Settles.refl _
    · exact ih _ _ _

theorem enclosingAmong_settles (anchor : Int) (examined : Nat) (depth : Int) (lines : List Text) :
    Settles (enclosingAmong narrow anchor examined depth lines)
      (enclosingAmong wide anchor examined depth lines) := by
  induction lines generalizing examined depth with
  | nil => exact Settles.refl _
  | cons line above ih =>
    rw [enclosingAmong, enclosingAmong]
    refine settles_step within rfl ?_
    dsimp only
    split
    · exact Settles.refl _
    · exact ih _ _

variable (d : Document)

theorem findStart_settles (cursor : Position) (kind : Kind) :
    Settles (findStart d narrow cursor kind) (findStart d wide cursor kind) := by
  rw [findStart, findStart]
  split
  · exact Settles.refl _
  · exact ((startAmong_settles within kind cursor.line 1 _).bind fun _ _ => Settles.refl _).map _

theorem findEnd_settles (start : Position) (kind : Kind) :
    Settles (findEnd d narrow start kind) (findEnd d wide start kind) := by
  rw [findEnd, findEnd]
  split
  · exact Settles.refl _
  · split
    · exact endAmong_settles within kind start.line 1 0 false _
    · exact Settles.refl _

theorem findExtent_settles (cursor : Position) (kind : Kind) :
    Settles (findExtent d narrow cursor kind) (findExtent d wide cursor kind) :=
  (findStart_settles within d cursor kind).bind fun anchor _ =>
    (findEnd_settles within d anchor kind).bind fun _ _ => Settles.refl _

theorem findOwner_settles (anchor : Int) :
    Settles (findOwner d narrow anchor) (findOwner d wide anchor) := by
  refine Settles.map ?_ _
  rw [enclosingLine, enclosingLine]
  split
  · exact enclosingAmong_settles within anchor 1 1 _
  · exact Settles.refl _

theorem documentable_settles (cursor : Position) (kind : Kind) :
    Settles (documentable d narrow cursor kind) (documentable d wide cursor kind) :=
  (findExtent_settles within d cursor kind).bind fun _ _ => Settles.refl _

theorem currentFunction_settles (cursor : Position) :
    Settles (currentFunction d narrow cursor) (currentFunction d wide cursor) :=
  (documentable_settles within d cursor .function).bind fun target _ =>
    (findOwner_settles within d target.extent.anchor.line).bind fun _ _ => Settles.refl _

end Scans

/-- The list begins with `nodes`, their owners apart. A node with an owner still has one, the same
or one farther away. -/
def Extended (nodes more : List Node) : Prop :=
  ∀ (i : Nat) (node : Node), nodes[i]? = some node →
    ∃ k, more[i]? = some { node with ownerIndex := k } ∧
      (node.ownerIndex ≠ noOwner → k ≠ noOwner ∧ node.ownerIndex ≤ k)

theorem Extended.refl (nodes : List Node) : Extended nodes nodes :=
  fun _ node h => ⟨node.ownerIndex, h, fun hlink => ⟨hlink, Int.le_refl _⟩⟩

theorem Extended.trans {nodes more most : List Node} (h : Extended nodes more)
    (h' : Extended more most) : Extended nodes most := by
  intro i node hnode
  obtain ⟨k, hmore, hlink⟩ := h i node hnode
  obtain ⟨k', hmost, hlink'⟩ := h' i _ hmore
  refine ⟨k', hmost, fun howner => ?_⟩
  obtain ⟨hk, hle⟩ := hlink howner
  obtain ⟨hk', hle'⟩ := hlink' hk
  exact ⟨hk', Int.le_trans hle hle'⟩

theorem Linked.ownerIndex_lt {nodes : List Node} (linked : Linked nodes) {i : Nat} {node : Node}
    (hnode : nodes[i]? = some node) : node.ownerIndex < nodes.length := by
  rcases linked i node hnode with ⟨j, owner, link, -, hindex⟩ | ⟨hindex, -⟩
  · have hj := (List.getElem?_eq_some_iff.1 link.at_index).1
    omega
  · rw [hindex, noOwner]
    omega

/-- **The step**: a node that is pushed can only take the place of a nearer owner. -/
theorem extended_push {nodes : List Node} (linked : Linked nodes) (node : Node) :
    Extended nodes (pushNode node nodes.reverse).reverse := by
  intro i old hold
  have hi : i < nodes.length := (List.getElem?_eq_some_iff.1 hold).1
  have hlt := linked.ownerIndex_lt hold
  rw [getElem?_push_of_lt hi, hold, Option.map_some]
  split
  · refine ⟨nodes.length, rfl, fun _ => ⟨?_, Int.le_of_lt hlt⟩⟩
    rw [noOwner]
    omega
  · exact ⟨old.ownerIndex, rfl, fun hlink => ⟨hlink, Int.le_refl _⟩⟩

theorem ownerIndex_of_nodeOnLine? {line : Text} {n : Nat} {depth : Int} {node : Node}
    (h : nodeOnLine? line n depth = some node) : node.ownerIndex = noOwner := by
  simp only [nodeOnLine?] at h
  split at h
  · cases h
  · cases h
    rfl

/-- **The scan** extends what has been collected so far. -/
theorem nodesAmong_extended (limit : Limit) (cursor : Int) (examined : Nat) (depth : Int)
    {nodes : List Node} (linked : Linked nodes.reverse) (lines : List Text) :
    Extended nodes.reverse (nodesAmong limit cursor examined depth nodes lines).nodes := by
  induction lines generalizing examined depth nodes with
  | nil => exact Extended.refl _
  | cons line above ih =>
    rw [nodesAmong]
    split
    · exact Extended.refl _
    · dsimp only
      split
      · next node hnode =>
        have hpush := extended_push linked node
        have hlinked := linked.push (ownerIndex_of_nodeOnLine? hnode)
        rw [List.reverse_reverse] at hpush hlinked
        exact hpush.trans (ih _ _ hlinked)
      · exact ih _ _ linked

section

variable {narrow wide : Limit} (within : narrow.Within wide)
include within

theorem nodesAmong_extended_of_within (cursor : Int) (examined : Nat) (depth : Int)
    {nodes : List Node} (linked : Linked nodes.reverse) (lines : List Text) :
    Extended (nodesAmong narrow cursor examined depth nodes lines).nodes
      (nodesAmong wide cursor examined depth nodes lines).nodes := by
  induction lines generalizing examined depth nodes with
  | nil => exact Extended.refl _
  | cons line above ih =>
    by_cases hlim : narrow.exceeded examined = true
    · -- The narrow scan stops here, and the wide one goes on from the same nodes.
      rw [nodesAmong, if_pos hlim]
      exact nodesAmong_extended wide cursor examined depth linked (line :: above)
    · rw [nodesAmong, nodesAmong, if_neg hlim, if_neg (within.not_exceeded hlim)]
      dsimp only
      split
      · next node hnode =>
        have hlinked := linked.push (ownerIndex_of_nodeOnLine? hnode)
        rw [List.reverse_reverse] at hlinked
        exact ih _ _ hlinked
      · exact ih _ _ linked

theorem hierarchy_extended (d : Document) (cursor : Position) :
    Extended (hierarchy d narrow cursor).nodes (hierarchy d wide cursor).nodes := by
  rw [hierarchy, hierarchy]
  split
  · refine nodesAmong_extended_of_within within cursor.line 1 0 ?_ _
    simp [Linked]
  · exact Extended.refl _

end

/-- What the scans from a position give under the narrow limit they give under the wide one, unless
they were cut short. -/
structure Repeats (d : Document) (narrow wide : Limit) (position : Position) (kind : Kind) :
    Prop where
  start : Settles (findStart d narrow position kind) (findStart d wide position kind)
  last : Settles (findEnd d narrow position kind) (findEnd d wide position kind)
  extent : Settles (findExtent d narrow position kind) (findExtent d wide position kind)
  owner : Settles (findOwner d narrow position.line) (findOwner d wide position.line)
  function : Settles (currentFunction d narrow position) (currentFunction d wide position)
  struct : Settles (currentStruct d narrow position) (currentStruct d wide position)
  trait : Settles (currentTrait d narrow position) (currentTrait d wide position)
  hierarchy : Extended (hierarchy d narrow position).nodes (Scan.hierarchy d wide position).nodes

/-- **A wider limit changes no answer**: only a scan that was cut short can end otherwise, and a
hierarchy only grows. -/
theorem Limit.Within.repeats {narrow wide : Limit} (within : narrow.Within wide) (d : Document)
    (position : Position) (kind : Kind) : Repeats d narrow wide position kind where
  start := findStart_settles within d position kind
  last := findEnd_settles within d position kind
  extent := findExtent_settles within d position kind
  owner := findOwner_settles within d position.line
  function := currentFunction_settles within d position
  struct := documentable_settles within d position .struct
  trait := documentable_settles within d position .trait
  hierarchy := hierarchy_extended within d position

/-- A block inside another, and a function in it that is never closed. -/
def nestedBlocks : Document :=
  ["", "trait T \x7b", "impl A \x7b", "  fn f() \x7b", "    x"]

/-- Three lines reach the function and its block; the whole document reaches the block around
that one, which then owns both. -/
theorem nestedBlocks_repeats :
    (⟨3⟩ : Limit).Within ⟨0⟩ ∧
    findStart nestedBlocks ⟨3⟩ ⟨4, 0⟩ .function = .ok ⟨3, 0⟩ ∧
    (hierarchy nestedBlocks ⟨3⟩ ⟨4, 0⟩).nodes.map (·.ownerIndex) = [1, noOwner] ∧
    (hierarchy nestedBlocks ⟨0⟩ ⟨4, 0⟩).nodes.map (·.ownerIndex) = [2, 2, noOwner] ∧
    Repeats nestedBlocks ⟨3⟩ ⟨0⟩ ⟨4, 0⟩ .function := by
  have within : (⟨3⟩ : Limit).Within ⟨0⟩ := ⟨by decide, .inr (by decide)⟩
  exact ⟨within, by decide +kernel, by decide +kernel, by decide +kernel,
    within.repeats nestedBlocks ⟨4, 0⟩ .function⟩

end DocScribe.Scan
