import DocScribe.Proofs.Scan.Limit

/-!
# The ancestors of a hierarchy

Following owner links has no bound of its own: links may lead in a circle, or to an index that
cannot be read. `Follows` says that it comes to an end and what has been read by then. It comes to
at most one end (`Follows.unique`), no node is read twice (`Follows.length_le`), and so the bound in
`ancestors` cuts nothing off (`Follows.ancestors_eq`). In a hierarchy the links are right
(`Linked`): each names a node with no shallower one after it, and such a node has no owner
(`Shallowest.ownerIndex_eq`). So the chain ends after one link.
-/

namespace DocScribe.Scan

/-- Following owners from index `i` comes to an end and reads `chain`. There is no rule for a
circle, nor for an index below 0 other than `noOwner`, where nothing can be read. -/
inductive Follows (nodes : List Node) : (i : Int) → (chain : List Node) → Prop where
  | top : Follows nodes noOwner []
  | pastEnd {i : Int} : (nodes.length : Int) ≤ i → Follows nodes i []
  | owner {j : Nat} {node : Node} {chain : List Node} : nodes[j]? = some node →
      Follows nodes node.ownerIndex chain → Follows nodes j (node :: chain)

/-- Where a node can be read, it is read. -/
theorem follows_index_iff {nodes : List Node} {j : Nat} {node : Node} {chain : List Node}
    (hnode : nodes[j]? = some node) :
    Follows nodes j chain ↔ ∃ rest, Follows nodes node.ownerIndex rest ∧ chain = node :: rest := by
  have hj : j < nodes.length := (List.getElem?_eq_some_iff.1 hnode).1
  constructor
  · intro h
    generalize hi : (j : Int) = i at h
    cases h with
    | top =>
      rw [noOwner] at hi
      omega
    | pastEnd hlength => omega
    | owner hread hrest =>
      obtain rfl := Int.ofNat_inj.1 hi
      obtain rfl := Option.some.inj (hnode.symm.trans hread)
      exact ⟨_, hrest, rfl⟩
  · rintro ⟨rest, hrest, rfl⟩
    exact .owner hnode hrest

namespace Follows

variable {nodes : List Node} {i : Int} {chain : List Node}

/-- There is at most one end to come to. -/
theorem unique (h : Follows nodes i chain) {other : List Node} (h' : Follows nodes i other) :
    chain = other := by
  induction h generalizing other with
  | top =>
    cases h' with
    | top => rfl
    | pastEnd => rfl
  | pastEnd hi =>
    cases h' with
    | top => rfl
    | pastEnd => rfl
    | owner hnode =>
      have hj := (List.getElem?_eq_some_iff.1 hnode).1
      omega
  | owner hnode hrest ih =>
    obtain ⟨rest, hrest', rfl⟩ := (follows_index_iff hnode).1 h'
    rw [ih hrest']

/-- The indexes that are read are different, since from each of them on less is left to read. -/
theorem exists_indexes (h : Follows nodes i chain) :
    ∃ indexes : List Nat, indexes.length = chain.length ∧ indexes.Nodup ∧
      ∀ j ∈ indexes, j < nodes.length ∧
        ∃ rest, Follows nodes j rest ∧ rest.length ≤ chain.length := by
  induction h with
  | top => exact ⟨[], rfl, List.nodup_nil, List.forall_mem_nil _⟩
  | pastEnd => exact ⟨[], rfl, List.nodup_nil, List.forall_mem_nil _⟩
  | @owner j node chain hnode hrest ih =>
    obtain ⟨indexes, hlength, hnodup, hall⟩ := ih
    have hj : j < nodes.length := (List.getElem?_eq_some_iff.1 hnode).1
    refine ⟨j :: indexes, congrArg (· + 1) hlength, List.nodup_cons.2 ⟨fun hmem => ?_, hnodup⟩,
      List.forall_mem_cons.2 ⟨⟨hj, _, .owner hnode hrest, Nat.le_refl _⟩, fun k hk => ?_⟩⟩
    · obtain ⟨-, rest, hfollows, hle⟩ := hall j hmem
      rw [← (Follows.owner hnode hrest).unique hfollows, List.length_cons] at hle
      exact absurd hle (Nat.not_succ_le_self _)
    · obtain ⟨hlt, rest, hfollows, hle⟩ := hall k hk
      exact ⟨hlt, rest, hfollows, Nat.le_succ_of_le hle⟩

theorem length_le (h : Follows nodes i chain) : chain.length ≤ nodes.length := by
  obtain ⟨indexes, hlength, hnodup, hall⟩ := h.exists_indexes
  have hsub : indexes ⊆ List.range nodes.length := fun j hj => List.mem_range.2 (hall j hj).1
  have hle := (List.subperm_of_subset hnodup hsub).length_le
  rwa [hlength, List.length_range] at hle

theorem ownersFrom_eq (h : Follows nodes i chain) {fuel : Nat} (hfuel : chain.length ≤ fuel) :
    ownersFrom nodes fuel i = chain := by
  induction h generalizing fuel with
  | top => cases fuel <;> simp [ownersFrom]
  | pastEnd hi =>
    cases fuel with
    | zero => rfl
    | succ fuel =>
      rw [ownersFrom, List.getElem?_eq_none (by omega)]
      split <;> rfl
  | @owner j node chain hnode hrest ih =>
    cases fuel with
    | zero => cases hfuel
    | succ fuel =>
      have hne : ((j : Int) == noOwner) = false := by
        rw [beq_eq_false_iff_ne, noOwner]
        omega
      rw [ownersFrom, hne, if_neg Bool.false_ne_true, Int.toNat_natCast, hnode]
      dsimp only
      rw [ih (Nat.le_of_succ_le_succ hfuel)]

end Follows

/-- Where following owners from the first node on comes to an end, `ancestors` is what it reads. -/
theorem Follows.ancestors_eq {nodes chain : List Node} (h : Follows nodes 0 chain) :
    ancestors nodes = chain := by
  cases nodes with
  | nil => exact (Follows.pastEnd (Int.le_refl 0)).unique h
  | cons node nodes =>
    obtain ⟨rest, hrest, rfl⟩ := (follows_index_iff (j := 0) List.getElem?_cons_zero).1 h
    have hlength : rest.length ≤ nodes.length + 1 := hrest.length_le
    rw [ancestors, hrest.ownersFrom_eq hlength]

/-- A shallowest node after another one has no owner. -/
theorem Shallowest.ownerIndex_eq {nodes : List Node} {i j : Nat} {owner : Node}
    (link : Shallowest nodes i j owner) (linked : Linked nodes) : owner.ownerIndex = noOwner := by
  rcases linked j owner link.at_index with ⟨k, farther, above, hlt, -⟩ | ⟨hindex, -⟩
  · have hle := link.least k farther (Nat.lt_trans link.after above.after) above.at_index
    omega
  · exact hindex

/-- **The scan** gives right links, wherever it stops. -/
theorem linked_nodesAmong (limit : Limit) (cursor : Int) (examined : Nat) (depth : Int)
    {nodes : List Node} (linked : Linked nodes.reverse) (lines : List Text) :
    Linked (nodesAmong limit cursor examined depth nodes lines).nodes := by
  induction lines generalizing examined depth nodes with
  | nil => exact linked
  | cons line above ih =>
    rw [nodesAmong]
    split
    · exact linked
    · dsimp only
      split
      · next node hnode =>
        have hpush := linked.push (ownerIndex_of_nodeOnLine? hnode)
        rw [List.reverse_reverse] at hpush
        exact ih _ _ hpush
      · exact ih _ _ linked

theorem linked_nil : Linked [] := by
  simp [Linked]

theorem linked_hierarchy (d : Document) (limit : Limit) (cursor : Position) :
    Linked (hierarchy d limit cursor).nodes := by
  rw [hierarchy]
  split
  · have start : Linked ([] : List Node).reverse := linked_nil
    exact linked_nodesAmong limit cursor.line 1 0 start _
  · exact linked_nil

/-- `chain` is what the ancestors of `nodes` should be: the first node, and the node that it names
as its owner, which names none. -/
inductive IsLineage (nodes : List Node) : (chain : List Node) → Prop where
  | nothing : nodes = [] → IsLineage nodes []
  | alone {node : Node} : nodes[0]? = some node → node.ownerIndex = noOwner →
      IsLineage nodes [node]
  | owned {node owner : Node} {j : Nat} : nodes[0]? = some node → node.ownerIndex = j →
      nodes[j]? = some owner → owner.ownerIndex = noOwner → IsLineage nodes [node, owner]

theorem IsLineage.follows {nodes chain : List Node} (h : IsLineage nodes chain) :
    Follows nodes 0 chain := by
  cases h with
  | nothing hnodes =>
    rw [hnodes]
    exact .pastEnd (Int.le_refl 0)
  | alone hnode hindex =>
    refine .owner (j := 0) hnode ?_
    rw [hindex]
    exact .top
  | owned hnode hindex howner htop =>
    refine .owner (j := 0) hnode ?_
    rw [hindex]
    refine .owner howner ?_
    rw [htop]
    exact .top

theorem IsLineage.length_le {nodes chain : List Node} (h : IsLineage nodes chain) :
    chain.length ≤ 2 := by
  cases h <;> simp

/-- Right links lead from the first node to a node without an owner, or nowhere. -/
theorem Linked.exists_isLineage {nodes : List Node} (linked : Linked nodes) :
    ∃ chain, IsLineage nodes chain := by
  cases hnode : nodes[0]? with
  | none =>
    have hlength : nodes.length ≤ 0 := List.getElem?_eq_none_iff.1 hnode
    exact ⟨[], .nothing (List.length_eq_zero_iff.1 (Nat.le_zero.1 hlength))⟩
  | some node =>
    rcases linked 0 node hnode with ⟨j, owner, link, -, hindex⟩ | ⟨hindex, -⟩
    · exact ⟨_, .owned hnode hindex link.at_index (link.ownerIndex_eq linked)⟩
    · exact ⟨_, .alone hnode hindex⟩

/-- **A construct has at most one ancestor**: from any position and under any limit, following the
owners of the nearest node comes to an end, and what it reads is that node and the one that it
names, if it names one. -/
theorem ancestors_hierarchy (d : Document) (limit : Limit) (cursor : Position) :
    Follows (hierarchy d limit cursor).nodes 0 (ancestors (hierarchy d limit cursor).nodes) ∧
    IsLineage (hierarchy d limit cursor).nodes (ancestors (hierarchy d limit cursor).nodes) ∧
    (ancestors (hierarchy d limit cursor).nodes).length ≤ 2 := by
  obtain ⟨chain, lineage⟩ := (linked_hierarchy d limit cursor).exists_isLineage
  rw [lineage.follows.ancestors_eq]
  exact ⟨lineage.follows, lineage, lineage.length_le⟩

-- The block in between is not named: of the shallower nodes the farthest wins.
example :
    let nested : Document :=
      ["", "impl A \x7b", "  impl B \x7b", "    fn f() \x7b", "      x"]
    (ancestors (hierarchy nested ⟨0⟩ ⟨4, 0⟩).nodes).map (·.name) = ["f", "A"] := by
  decide +kernel

end DocScribe.Scan
