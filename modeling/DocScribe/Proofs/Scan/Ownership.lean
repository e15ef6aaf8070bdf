import DocScribe.Proofs.Scan.Enclosure
import DocScribe.Proofs.Scan.Hierarchy

/-!
# The owner of a function in a hierarchy

A function has two owners: the block that the backward scan finds around it, and the node that its
link in a hierarchy names. The depth of a node on line `l` is that of the function on line `a` below
it less the balance of lines `l` to `a - 1` (`Describes.depth_lt_iff`), so the block is the first
node after the function that is shallower (`FirstShallower`). The link names the shallowest of all,
and the two agree iff no node after the block is shallower still (`LinkedAt.ownerIndex_eq_iff`).
-/

namespace DocScribe.Scan

open Source

/-- Index `j` holds `owner`, the first node after `node` at index `i` that is shallower than it. -/
structure FirstShallower (nodes : List Node) (i : Nat) (node : Node) (j : Nat) (owner : Node) :
    Prop where
  after : i < j
  at_index : nodes[j]? = some owner
  shallower : owner.depth < node.depth
  first : ∀ m other, i < m → m < j → nodes[m]? = some other → node.depth ≤ other.depth

section Links

variable {nodes : List Node} {i j : Nat} {node owner : Node}

/-- A node with a shallower one after it names an owner. -/
theorem LinkedAt.exists_shallowest (linked : LinkedAt nodes i node)
    (near : FirstShallower nodes i node j owner) :
    ∃ k farthest, Shallowest nodes i k farthest ∧ node.ownerIndex = k := by
  rcases linked with ⟨k, farthest, link, -, hindex⟩ | ⟨-, hall⟩
  · exact ⟨k, farthest, link, hindex⟩
  · have hle := hall j owner near.after near.at_index
    have hlt := near.shallower
    omega

/-- The first shallower node is named iff none after it is shallower still. -/
theorem LinkedAt.ownerIndex_eq_iff (linked : LinkedAt nodes i node)
    (near : FirstShallower nodes i node j owner) :
    node.ownerIndex = j ↔
      ∀ m later, j < m → nodes[m]? = some later → owner.depth ≤ later.depth := by
  obtain ⟨k, farthest, link, hindex⟩ := linked.exists_shallowest near
  have hleast := link.least j owner near.after near.at_index
  have hlt := near.shallower
  rw [hindex, Int.natCast_inj]
  constructor
  · rintro rfl m later hkm hlater
    have hsame : farthest = owner := Option.some.inj (link.at_index.symm.trans near.at_index)
    rw [← hsame]
    exact link.least m later (Nat.lt_trans link.after hkm) hlater
  · intro hall
    rcases Nat.lt_trichotomy k j with hkj | hkj | hjk
    · have hdeep := near.first k farthest link.after hkj link.at_index
      omega
    · exact hkj
    · have hle := hall k farthest hjk link.at_index
      have hfirst := link.first j owner near.after hjk near.at_index
      omega

end Links

theorem Describes.depth_eq {d : Document} {c l : Nat} {node : Node}
    (describes : Describes d c l node) : node.depth = -net d l (c + 1) :=
  describes.depth.trans (neg_net_eq_sum d l c).symm

/-- A node above another is shallower iff the lines from it to the other leave a brace open. -/
theorem Describes.depth_lt_iff {d : Document} {c l a : Nat} {node other : Node}
    (upper : Describes d c l other) (lower : Describes d c a node) (hla : l ≤ a) (hac : a ≤ c) :
    other.depth < node.depth ↔ 0 < net d l a := by
  have hsplit := net_append d hla (show a ≤ c + 1 by omega)
  rw [upper.depth_eq, lower.depth_eq]
  omega

theorem collected_nil (d : Document) (c : Nat) : Collected d c c [] := by
  refine ⟨fun l => ?_, List.Pairwise.nil, by simp, by simp [Linked]⟩
  simp only [List.map_nil, List.not_mem_nil, false_iff]
  omega

/-- Without a limit a hierarchy holds the named lines from the cursor up to line 1. -/
theorem collected_hierarchy {d : Document} {limit : Limit} (off : limit.lines ≤ 0)
    {cursor : Position} {c : Nat} (hcursor : cursor.line = c) (hc : c < d.length) :
    Collected d c 0 (hierarchy d limit cursor).nodes := by
  obtain ⟨m, stopped, collected⟩ := nodesAmong_collected hc c [] (Nat.le_refl c)
    (Limit.not_exceeded_of_off off (c - c)) (collected_nil d c)
  rw [net_self, Nat.sub_self, neg_zero, ← Document.upFrom_natCast hc] at collected
  obtain rfl : m = 0 := by
    rcases stopped with ⟨hm, -⟩ | ⟨-, -, hlim, -⟩
    · exact hm
    · rw [Limit.not_exceeded_of_off off] at hlim
      cases hlim
  rw [hierarchy, hcursor, Document.hasLine_natCast, decide_eq_true hc]
  exact collected

namespace Collected

variable {d : Document} {c n : Nat} {nodes : List Node}

theorem exists_describes (collected : Collected d c n nodes) {i : Nat} {node : Node}
    (h : nodes[i]? = some node) : ∃ l, n < l ∧ l ≤ c ∧ Describes d c l node := by
  have hmem := List.mem_of_getElem? h
  obtain ⟨l, describes⟩ := collected.described node hmem
  have hline : (l : Int) ∈ nodes.map (·.position.line) :=
    List.mem_map.2 ⟨node, hmem, by rw [describes.position]⟩
  obtain ⟨hnl, hlc, -⟩ := (collected.exact l).1 hline
  exact ⟨l, hnl, hlc, describes⟩

/-- Later nodes stand farther up. -/
theorem line_lt (collected : Collected d c n nodes) {i j a l : Nat} {node other : Node}
    (hi : nodes[i]? = some node) (hj : nodes[j]? = some other) (hnode : Describes d c a node)
    (hother : Describes d c l other) (hij : i < j) : l < a := by
  obtain ⟨hi', rfl⟩ := List.getElem?_eq_some_iff.1 hi
  obtain ⟨hj', rfl⟩ := List.getElem?_eq_some_iff.1 hj
  have descending := List.pairwise_iff_getElem.1 (List.pairwise_map.1 collected.descending)
  have hlt := descending i j hi' hj' hij
  rw [hnode.position, hother.position] at hlt
  exact Int.ofNat_lt.1 hlt

theorem line_lt_iff (collected : Collected d c n nodes) {i j a l : Nat} {node other : Node}
    (hi : nodes[i]? = some node) (hj : nodes[j]? = some other) (hnode : Describes d c a node)
    (hother : Describes d c l other) : l < a ↔ i < j := by
  constructor
  · intro hla
    rcases Nat.lt_trichotomy i j with hij | rfl | hji
    · exact hij
    · have hsame := Option.some.inj (hi.symm.trans hj)
      have hline := hnode.position.symm.trans (hsame ▸ hother.position)
      simp at hline
      omega
    · have hback := collected.line_lt hj hi hother hnode hji
      omega
  · exact collected.line_lt hi hj hnode hother

/-- The block around a line is the first shallower node above it. -/
theorem exists_firstShallower (collected : Collected d c n nodes) {i a h : Nat} {node : Node}
    (hi : nodes[i]? = some node) (hnode : Describes d c a node) (hac : a ≤ c)
    (enc : Encloses d h a) (hnh : n < h) (named : Named d h) :
    ∃ j owner, FirstShallower nodes i node j owner ∧ Describes d c h owner := by
  have habove := enc.above
  obtain ⟨owner, hmem, hline⟩ := List.mem_map.1 ((collected.exact h).2 ⟨hnh, by omega, named⟩)
  obtain ⟨j, hj⟩ := List.mem_iff_getElem?.1 hmem
  obtain ⟨l, -, -, howner⟩ := collected.exists_describes hj
  obtain rfl : l = h := by
    rw [howner.position] at hline
    exact Int.ofNat_inj.1 hline
  refine ⟨j, owner, ⟨(collected.line_lt_iff hi hj hnode howner).1 habove, hj, ?_, ?_⟩, howner⟩
  · exact (howner.depth_lt_iff hnode (Nat.le_of_lt habove) hac).2 enc.leaves_open
  · intro m other him hmj hother
    obtain ⟨k, -, -, hk⟩ := collected.exists_describes hother
    have hka := (collected.line_lt_iff hi hother hnode hk).2 him
    have hlk := (collected.line_lt_iff hother hj hk howner).2 hmj
    have hnet := enc.nearest k hlk hka
    have hiff := hk.depth_lt_iff hnode (Nat.le_of_lt hka) hac
    omega

end Collected

/-- **The two owners of a function**: without a limit, and where the block around the function lies
below line 0, the block is the first shallower node after the function in every hierarchy that holds
it. The link of the function then names an owner, and it names the block iff no node after the block
is shallower than the block. -/
theorem findOwner_firstShallower {d : Document} {limit : Limit} (off : limit.lines ≤ 0)
    {cursor : Position} {i : Nat} {node : Node}
    (hnode : (hierarchy d limit cursor).nodes[i]? = some node) {line : Text} {h : Nat} {o : Owner}
    (place : enclosingLine d limit node.position.line = .ok (some (line, h)))
    (found : findOwner d limit node.position.line = .ok (some o)) (hh : 1 ≤ h) :
    ∃ j owner, FirstShallower (hierarchy d limit cursor).nodes i node j owner ∧
      owner.position.line = h ∧ owner.kind = o.kind ∧ owner.name = o.name ∧
      node.ownerIndex ≠ noOwner ∧
      (node.ownerIndex = j ↔ ∀ m later, j < m →
        (hierarchy d limit cursor).nodes[m]? = some later → owner.depth ≤ later.depth) := by
  obtain ⟨c, hcursor, hc⟩ : ∃ c : Nat, cursor.line = c ∧ c < d.length := by
    apply Document.exists_of_hasLine
    by_contra hline
    rw [hierarchy, if_neg hline] at hnode
    cases hnode
  have collected := collected_hierarchy off hcursor hc
  obtain ⟨a, -, hac, describes⟩ := collected.exists_describes hnode
  rw [describes.position] at place found
  obtain ⟨-, enc, rfl, -⟩ := enclosingLine_eq_some_iff.1 place
  have howner : ownerOnLine? (d.lineText h) = some o := by
    rw [findOwner, place] at found
    exact Except.ok.inj found
  obtain ⟨-, hname, hkind, hcode⟩ := ownerOnLine?_eq_some_iff.1 howner
  have named : Named d h := by
    rw [Named, hkind, hcode]
    exact hname
  obtain ⟨j, owner, near, block⟩ :=
    collected.exists_firstShallower hnode describes hac enc hh named
  have linked := collected.linked i node hnode
  refine ⟨j, owner, near, ?_, ?_, ?_, ?_, linked.ownerIndex_eq_iff near⟩
  · rw [block.position]
  · rw [block.kind, hkind]
  · rw [block.name, hkind, hcode]
  · obtain ⟨k, farthest, -, hindex⟩ := linked.exists_shallowest near
    rw [hindex, noOwner]
    omega

/-- A block inside another that is never closed, a function that is, and one that holds the
cursor. -/
def nestedBlock : Document :=
  ["", "trait T \x7b", "impl A \x7b", "  fn f() \x7b", "  \x7d", "  fn g() \x7b", "    x"]

/-- The block around the function on line 3 is node 2 of the hierarchy from line 6, but the link of
the function names node 3, which is shallower still. -/
theorem nestedBlock_findOwner_firstShallower :
    (hierarchy nestedBlock ⟨0⟩ ⟨6, 0⟩).nodes.map (·.ownerIndex) = [3, 3, 3, noOwner] ∧
    ∃ node j owner,
      (hierarchy nestedBlock ⟨0⟩ ⟨6, 0⟩).nodes[1]? = some node ∧
      enclosingLine nestedBlock ⟨0⟩ node.position.line = .ok (some ("impl A \x7b", 2)) ∧
      findOwner nestedBlock ⟨0⟩ node.position.line = .ok (some ⟨.structImpl, "A"⟩) ∧
      FirstShallower (hierarchy nestedBlock ⟨0⟩ ⟨6, 0⟩).nodes 1 node j owner ∧
      owner.position.line = (2 : Nat) ∧ owner.kind = .structImpl ∧ owner.name = "A" ∧
      node.ownerIndex ≠ noOwner ∧
      (node.ownerIndex = j ↔ ∀ m later, j < m →
        (hierarchy nestedBlock ⟨0⟩ ⟨6, 0⟩).nodes[m]? = some later →
          owner.depth ≤ later.depth) := by
  refine ⟨by decide +kernel, ?_⟩
  have hnode : (hierarchy nestedBlock ⟨0⟩ ⟨6, 0⟩).nodes[1]? =
      some ⟨.function, "f", -1, 3, ⟨3, 0⟩, "  "⟩ := by
    decide +kernel
  have place : enclosingLine nestedBlock ⟨0⟩ 3 = .ok (some ("impl A \x7b", 2)) := by
    decide
  have found : findOwner nestedBlock ⟨0⟩ 3 = .ok (some ⟨.structImpl, "A"⟩) := by
    decide +kernel
  obtain ⟨j, owner, h⟩ := findOwner_firstShallower (by decide) hnode place found (by decide)
  exact ⟨_, j, owner, hnode, place, found, h⟩

end DocScribe.Scan
