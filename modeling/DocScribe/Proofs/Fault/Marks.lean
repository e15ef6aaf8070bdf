import DocScribe.Fault.Basic

/-!
# Marks in a fault

The marks of a compound are those of its parts, left to right, so a fault keeps its marks wherever
it is put (`hasMark_compound_iff`).
-/

namespace DocScribe.Fault

theorem allNodes_eq_flatMap (faults : List Fault) : allNodes faults = faults.flatMap nodes := by
  induction faults with
  | nil => rfl
  | cons f faults ih => rw [allNodes, ih, List.flatMap_cons]

theorem hasMark_marked (mark : Mark) : (Fault.marked mark).hasMark mark = true := by
  simp [hasMark, marks, nodes, mark?]

/-- A compound has the marks that one of its parts has. -/
theorem hasMark_compound_iff {separator : Text} {parts : List Fault} {mark : Mark} :
    (Fault.compound separator parts).hasMark mark = true ↔
      ∃ part ∈ parts, part.hasMark mark = true := by
  have hmarks : (Fault.compound separator parts).marks = parts.flatMap marks := by
    rw [marks, nodes, allNodes_eq_flatMap, List.filterMap_cons_none rfl, List.filterMap_flatMap]
    rfl
  simp only [hasMark, hmarks, List.contains_iff_mem, List.mem_flatMap]

theorem hasMark_wrap_marked (context : Text) (mark : Mark) :
    (Fault.wrap context (.marked mark)).hasMark mark = true :=
  hasMark_compound_iff.2 ⟨_, List.mem_cons_of_mem _ (List.mem_singleton.2 rfl), hasMark_marked _⟩

theorem isMissing_file_missing (operation path : Text) :
    (Fault.file operation path .missing).isMissing = true := by
  rw [isMissing, file, hasMark_wrap_marked, Bool.true_or]

end DocScribe.Fault
