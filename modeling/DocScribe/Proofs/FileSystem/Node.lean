import DocScribe.FileSystem.Basic
import Mathlib.Data.List.Induction

/-!
# Nodes of a file system

What stands where after a node is put, erased or moved. A file system is `Rooted` if every node
stands in a directory; then nothing stands below a place where nothing is.
-/

namespace DocScribe.FileSystem

theorem node?_of_ne_nil (fs : FileSystem) {place : Place} (h : place ≠ []) :
    fs.node? place = fs.nodes.lookup place := by
  rw [node?, if_neg (by simpa using h)]

@[simp] theorem node?_nil (fs : FileSystem) : fs.node? [] = some .directory := rfl

theorem lookup_cons (key : Place) (node : FileNode) (entries : List (Place × FileNode))
    (q : Place) :
    ((key, node) :: entries).lookup q = if q = key then some node else entries.lookup q := by
  rw [List.lookup_cons]
  by_cases hq : q = key
  · rw [if_pos hq, beq_iff_eq.2 hq]
  · rw [if_neg hq, beq_eq_false_iff_ne.2 hq]

theorem lookup_filter_ne (entries : List (Place × FileNode)) (p q : Place) :
    (entries.filter fun entry => entry.1 != p).lookup q =
      if q = p then none else entries.lookup q := by
  induction entries with
  | nil => simp
  | cons entry entries ih =>
    obtain ⟨key, node⟩ := entry
    by_cases hkey : key = p
    · rw [List.filter_cons_of_neg (by simpa using hkey), ih, lookup_cons, hkey]
      split <;> rfl
    · rw [List.filter_cons_of_pos (by simpa using hkey), lookup_cons, lookup_cons, ih]
      by_cases hq : q = key
      · rw [if_pos hq, if_neg (fun h => hkey (hq.symm.trans h)), if_pos hq]
      · rw [if_neg hq, if_neg hq]

theorem node?_erase (fs : FileSystem) {p : Place} (hp : p ≠ []) (q : Place) :
    (fs.erase p).node? q = if q = p then none else fs.node? q := by
  by_cases hq : q = []
  · subst hq
    rw [if_neg (Ne.symm hp), node?_nil, node?_nil]
  · rw [node?_of_ne_nil _ hq, node?_of_ne_nil _ hq]
    exact lookup_filter_ne fs.nodes p q

theorem node?_put (fs : FileSystem) {p : Place} (hp : p ≠ []) (node : FileNode) (q : Place) :
    (fs.put p node).node? q = if q = p then some node else fs.node? q := by
  by_cases hq : q = []
  · subst hq
    rw [if_neg (Ne.symm hp), node?_nil, node?_nil]
  · have herase := fs.node?_erase hp q
    rw [node?_of_ne_nil _ hq] at herase
    rw [node?_of_ne_nil _ hq, put, lookup_cons, herase]
    split <;> rfl

/-- Every node stands in a directory. -/
def Rooted (fs : FileSystem) : Prop :=
  ∀ place node, fs.node? place = some node → fs.node? place.dropLast = some .directory

theorem rooted_of_nodes {fs : FileSystem}
    (h : ∀ entry ∈ fs.nodes, fs.node? entry.1.dropLast = some .directory) : Rooted fs := by
  intro place node hnode
  by_cases hplace : place = []
  · rw [hplace, List.dropLast_nil, node?_nil]
  · rw [fs.node?_of_ne_nil hplace] at hnode
    obtain ⟨front, back, hnodes, -⟩ := List.lookup_eq_some_iff.1 hnode
    exact h (place, node) (by simp [hnodes])

theorem Rooted.node?_of_append {fs : FileSystem} (rooted : Rooted fs) {place rest : Place}
    {node : FileNode} (hrest : rest ≠ []) (h : fs.node? (place ++ rest) = some node) :
    fs.node? place = some .directory := by
  induction rest using List.reverseRecOn generalizing node with
  | nil => exact absurd rfl hrest
  | append_singleton rest name ih =>
    have hparent := rooted _ _ h
    rw [← List.append_assoc, List.dropLast_concat] at hparent
    by_cases hnil : rest = []
    · rwa [hnil, List.append_nil] at hparent
    · exact ih hnil hparent

/-- Nothing stands below a place where nothing is. -/
theorem Rooted.node?_eq_none {fs : FileSystem} (rooted : Rooted fs) {place : Place}
    (h : fs.node? place = none) (rest : Place) : fs.node? (place ++ rest) = none := by
  by_cases hrest : rest = []
  · rw [hrest, List.append_nil, h]
  · by_contra hsome
    obtain ⟨node, hnode⟩ := Option.ne_none_iff_exists'.1 hsome
    rw [rooted.node?_of_append hrest hnode] at h
    cases h

/-- A node put into a directory leaves the file system rooted, if no directory was there. -/
theorem Rooted.replace {fs : FileSystem} (rooted : Rooted fs) {place : Place} (hne : place ≠ [])
    (hdir : fs.node? place.dropLast = some .directory)
    (hplace : fs.node? place ≠ some .directory) (node : FileNode) :
    Rooted (fs.put place node) := by
  intro other found h
  have hparent : fs.node? other.dropLast = some .directory := by
    by_cases hother : other = place
    · rw [hother, hdir]
    · rw [fs.node?_put hne, if_neg hother] at h
      exact rooted other found h
  rw [fs.node?_put hne, if_neg, hparent]
  intro heq
  rw [heq] at hparent
  exact hplace hparent

theorem Rooted.put {fs : FileSystem} (rooted : Rooted fs) {dir : Place} {name : Text}
    (hdir : fs.node? dir = some .directory) (hfree : fs.node? (dir ++ [name]) = none)
    (node : FileNode) : Rooted (fs.put (dir ++ [name]) node) := by
  refine rooted.replace (by simp) ?_ (by simp [hfree]) node
  rw [List.dropLast_concat, hdir]

theorem take_eq_of_isPrefix {source place : Place} :
    place.take source.length = source ↔ source <+: place := by
  constructor
  · intro h
    rw [← h]
    exact List.take_prefix _ _
  · rintro ⟨rest, rfl⟩
    simp

/-- A node with nothing below it is moved to a place of its own. -/
theorem lookup_move {entries : List (Place × FileNode)} {source target : Place}
    (hne : source ≠ target) (alone : ∀ entry ∈ entries, source <+: entry.1 → entry.1 = source)
    (q : Place) :
    ((entries.filter fun entry => entry.1 != target).map fun entry =>
        if entry.1.take source.length == source then
          (target ++ entry.1.drop source.length, entry.2)
        else entry).lookup q =
      if q = target then entries.lookup source
      else if q = source then none else entries.lookup q := by
  induction entries with
  | nil => simp
  | cons entry entries ih =>
    obtain ⟨hentry, hrest⟩ := List.forall_mem_cons.1 alone
    have ih := ih hrest
    obtain ⟨key, node⟩ := entry
    by_cases htarget : key = target
    · -- The node at the target is replaced.
      rw [List.filter_cons_of_neg (by simpa using htarget), ih, lookup_cons, lookup_cons, htarget,
        if_neg hne]
      split <;> rfl
    · rw [List.filter_cons_of_pos (by simpa using htarget), List.map_cons]
      dsimp only
      by_cases hkey : key = source
      · have hhere : (key.take source.length == source) = true := by simp [hkey]
        rw [hhere, if_pos rfl, hkey, List.drop_length, List.append_nil, lookup_cons, lookup_cons,
          lookup_cons, ih, if_pos rfl]
        by_cases hq : q = target
        · rw [if_pos hq, if_pos hq]
        · rw [if_neg hq, if_neg hq, if_neg hq]
          split <;> rfl
      · have hbelow : (key.take source.length == source) = false := by
          rw [beq_eq_false_iff_ne]
          exact fun h => hkey (hentry (take_eq_of_isPrefix.1 h))
        rw [hbelow, if_neg Bool.false_ne_true, lookup_cons, lookup_cons, lookup_cons, ih,
          if_neg (Ne.symm hkey)]
        by_cases hq : q = key
        · rw [if_pos hq, if_neg (fun h => htarget (hq.symm.trans h)),
            if_neg (fun h => hkey (hq.symm.trans h)), if_pos hq]
        · rw [if_neg hq, if_neg hq]

theorem node?_move (fs : FileSystem) {source target : Place} (hsource : source ≠ [])
    (htarget : target ≠ []) (hne : source ≠ target)
    (alone : ∀ rest, rest ≠ [] → fs.node? (source ++ rest) = none) (q : Place) :
    (fs.move source target).node? q =
      if q = target then fs.node? source else if q = source then none else fs.node? q := by
  by_cases hq : q = []
  · subst hq
    rw [if_neg (Ne.symm htarget), if_neg (Ne.symm hsource), node?_nil, node?_nil]
  · rw [node?_of_ne_nil _ hq, node?_of_ne_nil _ hq, node?_of_ne_nil _ hsource]
    refine lookup_move hne ?_ q
    rintro ⟨key, node⟩ hmem ⟨rest, rfl⟩
    by_contra hbelow
    have hrest : rest ≠ [] := by
      rintro rfl
      exact hbelow (List.append_nil source)
    have hnone := alone rest hrest
    rw [node?_of_ne_nil _ (by simp [hsource]), List.lookup_eq_none_iff] at hnone
    simpa using hnone (source ++ rest, node) hmem

end DocScribe.FileSystem
