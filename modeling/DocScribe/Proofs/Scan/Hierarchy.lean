import DocScribe.Proofs.Scan.Boundary
import DocScribe.Scan.Hierarchy

/-!
# What a hierarchy holds

A hierarchy lists the named lines that the scan passed, nearest first, and links each node to the
first of the shallowest nodes after it (`Shallowest`). Linking is retroactive: pushing a node
re-points a run of nodes before it. `Linked.push` is the step that keeps every link right,
`Collected` the invariant of the scan, and `nodesAmong_collected` the scan as a whole.
-/

namespace DocScribe.Scan

open Source

/-- Index `j` holds `owner`, the first node of least depth after index `i`. -/
structure Shallowest (nodes : List Node) (i j : Nat) (owner : Node) : Prop where
  after : i < j
  at_index : nodes[j]? = some owner
  least : ∀ m other, i < m → nodes[m]? = some other → owner.depth ≤ other.depth
  first : ∀ m other, i < m → m < j → nodes[m]? = some other → owner.depth < other.depth

/-- The node at index `i` names the shallowest node after it if that one is shallower than itself,
and no owner otherwise. -/
def LinkedAt (nodes : List Node) (i : Nat) (node : Node) : Prop :=
  (∃ j owner, Shallowest nodes i j owner ∧ owner.depth < node.depth ∧ node.ownerIndex = j) ∨
    (node.ownerIndex = noOwner ∧
      ∀ m other, i < m → nodes[m]? = some other → node.depth ≤ other.depth)

/-- Every link of the list is right. -/
def Linked (nodes : List Node) : Prop :=
  ∀ i node, nodes[i]? = some node → LinkedAt nodes i node

theorem map_relink {α : Type} (f : Node → α) (depth : Int) (next : Nat) (nodes : List Node)
    (ignores : ∀ node k, f { node with ownerIndex := k } = f node) :
    (relink depth next nodes).map f = nodes.map f := by
  induction nodes with
  | nil => rfl
  | cons node nodes ih =>
    rw [relink]
    split
    · rw [List.map_cons, List.map_cons, ignores, ih]
    · rfl

theorem exists_of_mem_relink {depth : Int} {next : Nat} {nodes : List Node} {node : Node}
    (h : node ∈ relink depth next nodes) :
    ∃ old ∈ nodes, ∃ k, node = { old with ownerIndex := k } := by
  induction nodes with
  | nil => cases h
  | cons head nodes ih =>
    rw [relink] at h
    split at h
    · rcases List.mem_cons.1 h with rfl | hmem
      · exact ⟨head, List.mem_cons_self, next, rfl⟩
      · obtain ⟨old, hold, k, hk⟩ := ih hmem
        exact ⟨old, List.mem_cons_of_mem head hold, k, hk⟩
    · exact ⟨node, h, node.ownerIndex, rfl⟩

theorem length_relink (depth : Int) (next : Nat) (nodes : List Node) :
    (relink depth next nodes).length = nodes.length := by
  rw [← List.length_map Node.depth, map_relink _ _ _ _ fun _ _ => rfl, List.length_map]

theorem length_reverse_relink (depth : Int) (next : Nat) (nodes : List Node) :
    (relink depth next nodes.reverse).reverse.length = nodes.length := by
  rw [List.length_reverse, length_relink, List.length_reverse]

/-- Relinking in the order of the result: a node is re-pointed iff it and all nodes after it are
deeper than the new one. -/
theorem getElem?_reverse_relink (depth : Int) (next : Nat) (nodes : List Node) (i : Nat) :
    (relink depth next nodes.reverse).reverse[i]? = nodes[i]?.map fun node =>
      if ∀ other ∈ nodes.drop i, depth < other.depth then { node with ownerIndex := next }
      else node := by
  induction nodes using List.reverseRecOn with
  | nil => simp [relink]
  | append_singleton nodes last ih =>
    have hlen := length_reverse_relink depth next nodes
    rw [List.reverse_append, List.reverse_singleton, List.singleton_append, relink]
    rcases Nat.lt_trichotomy i nodes.length with hi | rfl | hi
    · have hdrop : (nodes ++ [last]).drop i = nodes.drop i ++ [last] :=
        List.drop_append_of_le_length (Nat.le_of_lt hi)
      rw [List.getElem?_append_left hi, hdrop]
      split
      · next hdeeper =>
        rw [List.reverse_cons, List.getElem?_append_left (hlen ▸ hi), ih]
        have hiff : (∀ other ∈ nodes.drop i ++ [last], depth < other.depth) ↔
            ∀ other ∈ nodes.drop i, depth < other.depth := by
          rw [List.forall_mem_append, List.forall_mem_singleton, and_iff_left hdeeper]
        exact Option.map_congr fun node _ => if_congr hiff.symm rfl rfl
      · next hdeeper =>
        rw [List.reverse_cons, List.reverse_reverse, List.getElem?_append_left hi]
        have hnot : ¬ ∀ other ∈ nodes.drop i ++ [last], depth < other.depth := fun h =>
          hdeeper (h last (List.mem_append_right _ (List.mem_singleton_self last)))
        simp only [if_neg hnot, Option.map_id_fun', id]
    · split <;> next hdeeper => simp [hdeeper, length_relink]
    · have hnone : (nodes ++ [last])[i]? = none := List.getElem?_eq_none (by simp; omega)
      rw [hnone, Option.map_none]
      split <;> exact List.getElem?_eq_none (by simp [length_relink]; omega)

section Push

variable {nodes : List Node} {node : Node}

theorem getElem?_push_of_lt {i : Nat} (hi : i < nodes.length) :
    (pushNode node nodes.reverse).reverse[i]? = nodes[i]?.map fun old =>
      if ∀ later ∈ nodes.drop i, node.depth < later.depth
      then { old with ownerIndex := nodes.length } else old := by
  rw [pushNode, List.reverse_cons, List.length_reverse,
    List.getElem?_append_left (by rw [length_reverse_relink]; exact hi), getElem?_reverse_relink]

theorem getElem?_push_length :
    (pushNode node nodes.reverse).reverse[nodes.length]? = some node := by
  rw [pushNode, List.reverse_cons, List.length_reverse,
    List.getElem?_append_right (Nat.le_of_eq (length_reverse_relink _ _ _)), length_reverse_relink,
    Nat.sub_self, List.getElem?_cons_zero]

theorem length_push (nodes : List Node) (node : Node) :
    (pushNode node nodes.reverse).reverse.length = nodes.length + 1 := by
  rw [pushNode, List.reverse_cons, List.length_append, length_reverse_relink,
    List.length_singleton]

/-- Pushing changes no depth, so a node of the new list is as deep as an old one at its index, or
it is the new one. -/
theorem depth_of_getElem?_push {m : Nat} {other : Node}
    (h : (pushNode node nodes.reverse).reverse[m]? = some other) :
    (∃ old, nodes[m]? = some old ∧ other.depth = old.depth) ∨
      (m = nodes.length ∧ other = node) := by
  have hm : m < nodes.length + 1 := length_push nodes node ▸ (List.getElem?_eq_some_iff.1 h).1
  rcases Nat.lt_succ_iff_lt_or_eq.1 hm with hlt | rfl
  · rw [getElem?_push_of_lt hlt] at h
    obtain ⟨old, hold, rfl⟩ := Option.map_eq_some_iff.1 h
    refine .inl ⟨old, hold, ?_⟩
    split <;> rfl
  · rw [getElem?_push_length] at h
    exact .inr ⟨rfl, (Option.some.inj h).symm⟩

theorem exists_getElem?_push (node : Node) {m : Nat} {old : Node} (h : nodes[m]? = some old) :
    ∃ other, (pushNode node nodes.reverse).reverse[m]? = some other ∧ other.depth = old.depth := by
  rw [getElem?_push_of_lt (List.getElem?_eq_some_iff.1 h).1, h, Option.map_some]
  refine ⟨_, rfl, ?_⟩
  split <;> rfl

theorem mem_drop_iff_exists_getElem? {i : Nat} {later : Node} :
    later ∈ nodes.drop i ↔ ∃ m, i ≤ m ∧ nodes[m]? = some later := by
  rw [List.mem_iff_getElem?]
  constructor
  · rintro ⟨k, hk⟩
    exact ⟨i + k, Nat.le_add_right i k, List.getElem?_drop ▸ hk⟩
  · rintro ⟨m, him, hm⟩
    exact ⟨m - i, by rw [List.getElem?_drop, Nat.add_sub_cancel' him, hm]⟩

/-- A new node that is shallower than node `i` and all after it becomes the owner of node `i`. -/
theorem linkedAt_push_of_deeper {i : Nat} {old : Node} (hold : nodes[i]? = some old)
    (deeper : ∀ m later, i ≤ m → nodes[m]? = some later → node.depth < later.depth) :
    LinkedAt (pushNode node nodes.reverse).reverse i { old with ownerIndex := nodes.length } := by
  have hi : i < nodes.length := (List.getElem?_eq_some_iff.1 hold).1
  refine .inl ⟨nodes.length, node, ⟨hi, getElem?_push_length, ?_, ?_⟩,
    deeper i old (Nat.le_refl i) hold, rfl⟩
  · intro m other him h
    rcases depth_of_getElem?_push h with ⟨later, hlater, hdepth⟩ | ⟨-, rfl⟩
    · have hlt := deeper m later (Nat.le_of_lt him) hlater
      omega
    · exact Int.le_refl _
  · intro m other him hm h
    rcases depth_of_getElem?_push h with ⟨later, hlater, hdepth⟩ | ⟨rfl, -⟩
    · have hlt := deeper m later (Nat.le_of_lt him) hlater
      omega
    · exact absurd hm (Nat.lt_irrefl _)

/-- Node `i` keeps its link when it, or a node after it, is not deeper than the new one. -/
theorem LinkedAt.push_of_not_deeper {i k : Nat} {old stop : Node} (linked : LinkedAt nodes i old)
    (hold : nodes[i]? = some old) (hik : i ≤ k) (hstop : nodes[k]? = some stop)
    (hle : stop.depth ≤ node.depth) : LinkedAt (pushNode node nodes.reverse).reverse i old := by
  have hcases : stop = old ∨ i < k := by
    rcases Nat.eq_or_lt_of_le hik with rfl | hlt
    · exact .inl (Option.some.inj (hstop.symm.trans hold))
    · exact .inr hlt
  rcases linked with ⟨j, owner, link, hlt, hindex⟩ | ⟨hindex, hall⟩
  · have hnew : owner.depth ≤ node.depth := by
      rcases hcases with rfl | hik
      · omega
      · have hleast := link.least k stop hik hstop
        omega
    have hj : j < nodes.length := (List.getElem?_eq_some_iff.1 link.at_index).1
    obtain ⟨owner', hat, howner⟩ := exists_getElem?_push node link.at_index
    refine .inl ⟨j, owner', ⟨link.after, hat, ?_, ?_⟩, by omega, hindex⟩
    · intro m other him h
      rcases depth_of_getElem?_push h with ⟨later, hlater, hdepth⟩ | ⟨-, rfl⟩
      · have hleast := link.least m later him hlater
        omega
      · omega
    · intro m other him hm h
      rcases depth_of_getElem?_push h with ⟨later, hlater, hdepth⟩ | ⟨rfl, -⟩
      · have hfirst := link.first m later him hm hlater
        omega
      · omega
  · refine .inr ⟨hindex, ?_⟩
    intro m other him h
    rcases depth_of_getElem?_push h with ⟨later, hlater, hdepth⟩ | ⟨-, rfl⟩
    · have hleast := hall m later him hlater
      omega
    · rcases hcases with rfl | hik
      · exact hle
      · have hleast := hall k stop hik hstop
        omega

/-- **The step**: pushing a node without an owner keeps every link right. -/
theorem Linked.push (linked : Linked nodes) (fresh : node.ownerIndex = noOwner) :
    Linked (pushNode node nodes.reverse).reverse := by
  intro i other h
  have hi : i < nodes.length + 1 := length_push nodes node ▸ (List.getElem?_eq_some_iff.1 h).1
  rcases Nat.lt_succ_iff_lt_or_eq.1 hi with hlt | rfl
  · rw [getElem?_push_of_lt hlt] at h
    obtain ⟨old, hold, rfl⟩ := Option.map_eq_some_iff.1 h
    split
    · next deeper =>
      exact linkedAt_push_of_deeper hold fun m later him hlater =>
        deeper later (mem_drop_iff_exists_getElem?.2 ⟨m, him, hlater⟩)
    · next notDeeper =>
      simp only [not_forall, Int.not_lt] at notDeeper
      obtain ⟨stop, hmem, hle⟩ := notDeeper
      obtain ⟨k, hik, hstop⟩ := mem_drop_iff_exists_getElem?.1 hmem
      exact (linked i old hold).push_of_not_deeper hold hik hstop hle
  · rw [getElem?_push_length] at h
    cases h
    refine .inr ⟨fresh, fun m later him hlater => ?_⟩
    have hm := length_push nodes node ▸ (List.getElem?_eq_some_iff.1 hlater).1
    omega

end Push

/-- The code of line `l` gives a name to what it declares. -/
def Named (d : Document) (l : Nat) : Prop :=
  codeName (d.lineText l) (codeKind (d.lineText l)) ≠ []

/-- What a node on line `l` says, seen from line `c`. -/
structure Describes (d : Document) (c l : Nat) (node : Node) : Prop where
  position : node.position = ⟨l, 0⟩
  kind : node.kind = codeKind (d.lineText l)
  name : node.name = codeName (d.lineText l) (codeKind (d.lineText l))
  depth : node.depth =
    ∑ m ∈ Finset.Icc l c, ((closes (d.lineText m) : Int) - (opens (d.lineText m) : Int))
  indent : node.indent = (d.lineText l).indent

/-- The nodes of the named lines from `c` up to `n + 1`, nearest first. -/
structure Collected (d : Document) (c n : Nat) (nodes : List Node) : Prop where
  exact : ∀ l : Nat, (l : Int) ∈ nodes.map (·.position.line) ↔ n < l ∧ l ≤ c ∧ Named d l
  descending : (nodes.map (·.position.line)).Pairwise (· > ·)
  described : ∀ node ∈ nodes, ∃ l, Describes d c l node
  linked : Linked nodes

theorem neg_net_eq_sum (d : Document) (l c : Nat) :
    -net d l (c + 1) =
      ∑ m ∈ Finset.Icc l c, ((closes (d.lineText m) : Int) - (opens (d.lineText m) : Int)) := by
  rw [net, ← Finset.sum_neg_distrib, Finset.Ico_add_one_right_eq_Icc]
  refine Finset.sum_congr rfl fun m _ => ?_
  rw [balance, neg_sub]

theorem nodeOnLine?_eq_none_iff {d : Document} {l n : Nat} {depth : Int} :
    nodeOnLine? (d.lineText l) n depth = none ↔ ¬ Named d l := by
  simp [nodeOnLine?, Named]

theorem describes_of_nodeOnLine? {d : Document} {c l : Nat} {node : Node}
    (h : nodeOnLine? (d.lineText l) l (-net d l (c + 1)) = some node) :
    Named d l ∧ node.ownerIndex = noOwner ∧ Describes d c l node := by
  simp only [nodeOnLine?] at h
  split at h
  · cases h
  · next hname =>
    cases h
    exact ⟨by simpa [Named] using hname, rfl, rfl, rfl, rfl, neg_net_eq_sum d l c, rfl⟩

theorem Collected.skip {d : Document} {c n : Nat} {nodes : List Node}
    (collected : Collected d c (n + 1) nodes) (hname : ¬ Named d (n + 1)) :
    Collected d c n nodes := by
  refine ⟨fun l => ?_, collected.descending, collected.described, collected.linked⟩
  rw [collected.exact]
  constructor
  · rintro ⟨hl, hlc, hnamed⟩
    exact ⟨by omega, hlc, hnamed⟩
  · rintro ⟨hl, hlc, hnamed⟩
    have hne : l ≠ n + 1 := fun h => hname (h ▸ hnamed)
    exact ⟨by omega, hlc, hnamed⟩

theorem Collected.push {d : Document} {c n : Nat} {nodes : List Node} {node : Node}
    (collected : Collected d c (n + 1) nodes) (hnc : n + 1 ≤ c) (hname : Named d (n + 1))
    (fresh : node.ownerIndex = noOwner) (describes : Describes d c (n + 1) node) :
    Collected d c n (pushNode node nodes.reverse).reverse := by
  have hlines : (pushNode node nodes.reverse).reverse.map (·.position.line) =
      nodes.map (·.position.line) ++ [((n + 1 : Nat) : Int)] := by
    rw [pushNode, List.reverse_cons, List.map_append, List.map_reverse,
      map_relink _ _ _ _ fun _ _ => rfl, List.map_reverse, List.reverse_reverse,
      List.map_singleton, describes.position]
  refine ⟨fun l => ?_, ?_, ?_, collected.linked.push fresh⟩
  · rw [hlines, List.mem_append, List.mem_singleton, collected.exact, Int.ofNat_inj]
    constructor
    · rintro (⟨hl, hlc, hnamed⟩ | rfl)
      · exact ⟨by omega, hlc, hnamed⟩
      · exact ⟨by omega, hnc, hname⟩
    · rintro ⟨hl, hlc, hnamed⟩
      rcases Nat.eq_or_lt_of_le hl with rfl | hlt
      · exact .inr rfl
      · exact .inl ⟨hlt, hlc, hnamed⟩
  · rw [hlines, List.pairwise_append]
    refine ⟨collected.descending, List.pairwise_singleton _ _, fun x hx y hy => ?_⟩
    obtain ⟨above, habove, rfl⟩ := List.mem_map.1 hx
    obtain ⟨l, hl⟩ := collected.described above habove
    rw [hl.position] at hx ⊢
    have hlt := ((collected.exact l).1 hx).1
    rw [List.mem_singleton.1 hy]
    exact Int.ofNat_lt.2 hlt
  · intro other hother
    rw [pushNode, List.reverse_cons, List.mem_append, List.mem_reverse, List.mem_singleton]
      at hother
    rcases hother with hmem | rfl
    · obtain ⟨old, hold, k, rfl⟩ := exists_of_mem_relink hmem
      obtain ⟨l, hl⟩ := collected.described old (List.mem_reverse.1 hold)
      exact ⟨l, hl.position, hl.kind, hl.name, hl.depth, hl.indent⟩
    · exact ⟨n + 1, describes⟩

/-- The lines that the scan passes from line `n` on: up to line 1, nearest first. -/
theorem Document.reverse_take_dropLast {d : Document} {n : Nat} (hn : n + 1 < d.length) :
    (d.take (n + 2)).reverse.dropLast =
      d.lineText (n + 1 : Nat) :: (d.take (n + 1)).reverse.dropLast := by
  rw [Document.reverse_take_succ hn, List.dropLast_cons_of_ne_nil]
  intro h
  have hlen := congrArg List.length h
  rw [List.length_reverse, List.length_take, List.length_nil] at hlen
  omega

/-- How far a scan from line `c` got: to line `n`, where the limit stopped it, or to the top. -/
def StoppedAt (limit : Limit) (c n : Nat) (failure : Option Failure) : Prop :=
  (n = 0 ∧ limit.exceeded c = false ∧ failure = none) ∨
    (0 < n ∧ limit.exceeded (c - n) = false ∧ limit.exceeded (c - n + 1) = true ∧
      failure = some (.hierarchyLimit c))

theorem StoppedAt.reason {limit : Limit} {c n : Nat} {failure : Option Failure}
    (stopped : StoppedAt limit c n failure) : failure.map Failure.reason =
      if 0 < limit.lines ∧ limit.lines < c then some .limitExceeded else none := by
  rcases stopped with ⟨rfl, hlim, rfl⟩ | ⟨hn, -, hlim, rfl⟩
  · rw [Limit.not_exceeded_iff] at hlim
    rw [if_neg (by omega)]
    rfl
  · rw [Limit.exceeded_iff] at hlim
    rw [if_pos (by omega)]
    rfl

theorem StoppedAt.lt_iff {limit : Limit} {c n l : Nat} {failure : Option Failure}
    (stopped : StoppedAt limit c n failure) :
    n < l ↔ 1 ≤ l ∧ (0 < limit.lines → (c : Int) - limit.lines < l) := by
  rcases stopped with ⟨rfl, hlim, -⟩ | ⟨hn, hlim, hlim', -⟩
  · rw [Limit.not_exceeded_iff] at hlim
    omega
  · rw [Limit.not_exceeded_iff] at hlim
    rw [Limit.exceeded_iff] at hlim'
    omega

/-- **The scan** from line `n` on, when the lines below it up to the cursor are collected. -/
theorem nodesAmong_collected {d : Document} {limit : Limit} {c : Nat} (hc : c < d.length)
    (n : Nat) (nodes : List Node) (hn : n ≤ c) (hlim : limit.exceeded (c - n) = false)
    (collected : Collected d c n nodes.reverse) :
    ∃ m, StoppedAt limit c m (nodesAmong limit c (c - n + 1) (-net d (n + 1) (c + 1)) nodes
        (d.take (n + 1)).reverse.dropLast).failure ∧
      Collected d c m (nodesAmong limit c (c - n + 1) (-net d (n + 1) (c + 1)) nodes
        (d.take (n + 1)).reverse.dropLast).nodes := by
  induction n generalizing nodes with
  | zero =>
    have hnil : (d.take 1).reverse.dropLast = [] := by
      rw [← List.length_eq_zero_iff, List.length_dropLast, List.length_reverse, List.length_take]
      omega
    rw [hnil, nodesAmong]
    exact ⟨0, .inl ⟨rfl, by simpa using hlim, rfl⟩, collected⟩
  | succ n ih =>
    rw [Document.reverse_take_dropLast (by omega), nodesAmong]
    by_cases hstop : limit.exceeded (c - (n + 1) + 1) = true
    · rw [if_pos hstop]
      exact ⟨n + 1, .inr ⟨Nat.succ_pos n, hlim, hstop, rfl⟩, collected⟩
    · -- The counters of the scan after line `n + 1` are those that the hypothesis for `n` names.
      rw [if_neg hstop]
      have hdepth : -net d (n + 1 + 1) (c + 1) - balance (d.lineText (n + 1 : Nat)) =
          -net d (n + 1) (c + 1) := by
        rw [net_eq_balance_add d (show n + 1 < c + 1 by omega)]
        omega
      have habove : (d.take (n + 1)).reverse.dropLast.length + 1 = n + 1 := by
        rw [List.length_dropLast, List.length_reverse, List.length_take]
        omega
      have hcount : c - (n + 1) + 1 = c - n := by omega
      simp only [hdepth, habove, hcount] at hstop ⊢
      cases hnode : nodeOnLine? (d.lineText (n + 1 : Nat)) (n + 1) (-net d (n + 1) (c + 1)) with
      | none =>
        exact ih nodes (by omega) (by simpa using hstop)
          (collected.skip (nodeOnLine?_eq_none_iff.1 hnode))
      | some node =>
        obtain ⟨hname, fresh, describes⟩ := describes_of_nodeOnLine? hnode
        have hpush := collected.push hn hname fresh describes
        rw [List.reverse_reverse] at hpush
        exact ih (pushNode node nodes) (by omega) (by simpa using hstop) hpush

/-- What a hierarchy from line `c` holds, whether it is complete or cut short by the limit. -/
structure IsHierarchy (d : Document) (limit : Limit) (c : Nat) (result : HierarchyResult) :
    Prop where
  /-- The nodes stand on the named lines within the limit; line 0 is never among them. -/
  exact : ∀ l : Nat, (l : Int) ∈ result.nodes.map (·.position.line) ↔
    1 ≤ l ∧ l ≤ c ∧ (0 < limit.lines → (c : Int) - limit.lines < l) ∧ Named d l
  descending : (result.nodes.map (·.position.line)).Pairwise (· > ·)
  described : ∀ node ∈ result.nodes, ∃ l, Describes d c l node
  linked : Linked result.nodes
  failed : result.failure.map Failure.reason =
    if 0 < limit.lines ∧ limit.lines < c then some .limitExceeded else none

/-- **Hierarchies are exact**: from any line of the document and under any limit. -/
theorem isHierarchy_hierarchy {d : Document} {limit : Limit} {cursor : Position} {c : Nat}
    (hcursor : cursor.line = c) (hc : c < d.length) :
    IsHierarchy d limit c (hierarchy d limit cursor) := by
  have hzero : limit.exceeded (c - c) = false := by
    rw [Limit.not_exceeded_iff]
    omega
  have start : Collected d c c ([] : List Node).reverse := by
    refine ⟨fun l => ⟨fun h => by simp at h, fun ⟨hl, hlc, _⟩ => by omega⟩,
      List.Pairwise.nil, ?_, ?_⟩
    · simp
    · simp [Linked]
  obtain ⟨m, hstop, collected⟩ := nodesAmong_collected hc c [] (Nat.le_refl c) hzero start
  rw [net_self, Nat.sub_self, neg_zero] at hstop collected
  have hrun : hierarchy d limit cursor =
      nodesAmong limit c 1 0 [] (d.take (c + 1)).reverse.dropLast := by
    rw [hierarchy, hcursor, Document.hasLine_natCast, decide_eq_true hc, if_pos rfl,
      Document.upFrom, Document.hasLine_natCast, decide_eq_true hc, if_pos rfl, Int.toNat_natCast]
  rw [← hrun] at hstop collected
  refine ⟨fun l => ?_, collected.descending, collected.described, collected.linked, hstop.reason⟩
  rw [collected.exact]
  constructor
  · rintro ⟨hl, hlc, hname⟩
    obtain ⟨hpos, hrange⟩ := hstop.lt_iff.1 hl
    exact ⟨hpos, hlc, hrange, hname⟩
  · rintro ⟨hpos, hlc, hrange, hname⟩
    exact ⟨hstop.lt_iff.2 ⟨hpos, hrange⟩, hlc, hname⟩

/-- A trait, and a block with two functions that both belong to it. -/
def siblings : Document :=
  ["", "trait T \x7b\x7d", "impl A \x7b", "  fn f() \x7b", "  \x7d", "  fn g() \x7b", "    x"]

theorem isHierarchy_siblings :
    6 < siblings.length ∧
      (hierarchy siblings ⟨5⟩ ⟨6, 2⟩).nodes.map (·.ownerIndex) = [2, 2, noOwner] ∧
      IsHierarchy siblings ⟨5⟩ 6 (hierarchy siblings ⟨5⟩ ⟨6, 2⟩) :=
  ⟨by decide, by decide +kernel, isHierarchy_hierarchy rfl (by decide)⟩

end DocScribe.Scan
