import DocScribe.Proofs.Settings.Library
import DocScribe.Proofs.Text.Order
import DocScribe.Settings.Layer
import Mathlib.Data.List.Perm.Basic

/-!
# What layers give

Without variables a key has its value in the file, or else its default (`value?_of_unset`). If the
file has known keys only, the keys of the layers are the known ones (`keys_eq`), and the layers are
put together from the values of these keys (`merged_eq_foldl`).
-/

namespace DocScribe.Settings

/-! Objects with distinct names. -/

theorem lastOfEach_eq_self {α : Type} {entries : List (Text × α)}
    (distinct : (entries.map (·.1)).Nodup) : Tree.lastOfEach entries = entries := by
  induction entries with
  | nil => rfl
  | cons entry entries ih =>
    obtain ⟨hentry, hrest⟩ := List.nodup_cons.1 distinct
    rw [Tree.lastOfEach, if_neg, ih hrest]
    rw [List.any_eq_true]
    rintro ⟨other, hother, hsame⟩
    exact hentry (List.mem_map.2 ⟨other, hother, beq_iff_eq.1 hsame⟩)

/-! Keys. -/

mutual

/-- The keys of the values in `v`, which stands at `key`. -/
def leafKeys (key : Text) : Json → List Text
  | .object members => memberLeafKeys (key ++ [0x2e]) members
  | _ => [key]

/-- The keys of the values in members, whose names come after `start`. -/
def memberLeafKeys (start : Text) : List (Text × Json) → List Text
  | [] => []
  | (name, v) :: ms => leafKeys (start ++ name) v ++ memberLeafKeys start ms

end

mutual

/-- The values in `v`, which stands at `key`, have known keys, and its objects have none. -/
def Fits (known : List Text) (key : Text) : Json → Prop
  | .object members => key ∉ known ∧ MembersFit known (key ++ [0x2e]) members
  | _ => key ∈ known

/-- The values in members, whose names come after `start`, have known keys, and the objects have
none. -/
def MembersFit (known : List Text) (start : Text) : List (Text × Json) → Prop
  | [] => True
  | (name, v) :: ms => Fits known (start ++ name) v ∧ MembersFit known start ms

end

/-- Known keys, each once, to which others were added. -/
structure Extends (known keys added keys' : List Text) : Prop where
  known : keys' ⊆ known
  nodup : keys'.Nodup
  mem : ∀ key, key ∈ keys' ↔ key ∈ keys ∨ key ∈ added

theorem Extends.leaf {known keys : List Text} {key : Text} (hknown : keys ⊆ known)
    (hnodup : keys.Nodup) (hkey : key ∈ known) :
    Extends known keys [key] (if keys.contains key then keys else keys ++ [key]) := by
  split
  · next hold =>
    rw [List.contains_iff_mem] at hold
    exact ⟨hknown, hnodup, fun other => by
      rw [List.mem_singleton, or_iff_left_of_imp]
      rintro rfl
      exact hold⟩
  · next hnew =>
    rw [List.contains_iff_mem] at hnew
    refine ⟨fun other hother => ?_, ?_, fun other => List.mem_append⟩
    · rcases List.mem_append.1 hother with hother | hother
      · exact hknown hother
      · rw [List.mem_singleton.1 hother]
        exact hkey
    · rw [List.nodup_append]
      refine ⟨hnodup, List.nodup_singleton key, ?_⟩
      rintro other hother _ hlast rfl
      rw [List.mem_singleton] at hlast
      exact hnew (hlast ▸ hother)

mutual

theorem extends_addKeys {known keys : List Text} (hknown : keys ⊆ known) (hnodup : keys.Nodup)
    {key : Text} : (v : Json) → Fits known key v →
      Extends known keys (leafKeys key v) (addKeys keys key v)
  | .object members, fits => by
    have hkey : ¬ keys.contains key = true := by
      rw [List.contains_iff_mem]
      exact fun h => fits.1 (hknown h)
    rw [addKeys, if_neg hkey]
    exact extends_addMemberKeys hknown hnodup members fits.2
  | .null, fits => Extends.leaf hknown hnodup fits
  | .bool _, fits => Extends.leaf hknown hnodup fits
  | .number _, fits => Extends.leaf hknown hnodup fits
  | .string _, fits => Extends.leaf hknown hnodup fits
  | .array _, fits => Extends.leaf hknown hnodup fits

theorem extends_addMemberKeys {known keys : List Text} (hknown : keys ⊆ known)
    (hnodup : keys.Nodup) {start : Text} : (ms : List (Text × Json)) → MembersFit known start ms →
      Extends known keys (memberLeafKeys start ms) (addMemberKeys keys start ms)
  | [], _ => ⟨hknown, hnodup, fun key => by simp [addMemberKeys, memberLeafKeys]⟩
  | (name, v) :: ms, fits => by
    have first := extends_addKeys hknown hnodup v fits.1
    have rest := extends_addMemberKeys first.known first.nodup ms fits.2
    refine ⟨rest.known, rest.nodup, fun key => ?_⟩
    rw [addMemberKeys, rest.mem, first.mem, memberLeafKeys, List.mem_append, or_assoc]

end

/-- Layers whose file has known keys only have the keys that the defaults have. -/
theorem keys_eq {l : Layers} {known : List Text}
    (sorted : known.Pairwise fun s t => Text.lt s t = true)
    (file : MembersFit known [] l.file.members) (defaults : MembersFit known [] l.defaults.members)
    (all : known ⊆ memberLeafKeys [] l.defaults.members) : l.keys = known := by
  have first := extends_addMemberKeys (List.nil_subset known) List.nodup_nil _ file
  have second := extends_addMemberKeys first.known first.nodup _ defaults
  have hnodup : known.Nodup := sorted.imp fun {s t} hlt heq => by
    subst heq
    exact absurd (Text.lt_iff.1 hlt) (List.lt_irrefl s)
  have hperm : (addMemberKeys (addMemberKeys [] [] l.file.members) [] l.defaults.members).Perm
      known := by
    rw [List.perm_ext_iff_of_nodup second.nodup hnodup]
    intro key
    exact ⟨fun h => second.known h, fun h => (second.mem key).2 (.inr (all h))⟩
  rw [Layers.keys, Text.sort_eq_of_perm hperm, Text.sort_eq_self sorted]

/-! Values. -/

namespace Layers

theorem present?_eq_some {ms : List (Text × Json)} (distinct : (ms.map (·.1)).Nodup) {name : Text}
    {v : Json} (h : (name, v) ∈ ms) (hv : v.isNull = false) :
    present? (.object ms) name = some v := by
  rw [present?, member?_eq_some distinct h, Option.filter_some, hv]
  rfl

theorem present?_eq_none {ms : List (Text × Json)} {name : Text} (h : name ∉ ms.map (·.1)) :
    present? (.object ms) name = none := by
  rw [present?, member?_eq_none_iff.2 h]
  rfl

theorem at?_name (v : Json) (name : Text) : at? v [name] = present? v name := by
  have hjoin : Text.join [0x2e] [name] = name := rfl
  rw [at?, search?, if_neg (by simp)]
  cases hpresent : present? v name <;> simp [hjoin, hpresent]

section Section

variable {ms leaves : List (Text × Json)} {name leaf : Text} (distinct : (ms.map (·.1)).Nodup)
  (hsection : (name, .object leaves) ∈ ms)
include distinct hsection

/-- A setting of a section is found in the object that the section is. -/
theorem at?_section (hdotted : Text.join [0x2e] [name, leaf] ∉ ms.map (·.1)) :
    at? (.object ms) [name, leaf] = present? (.object leaves) leaf := by
  have hleaf := at?_name (.object leaves) leaf
  have hname : present? (.object ms) (Text.join [0x2e] [name]) = some (.object leaves) :=
    present?_eq_some distinct hsection rfl
  have hrange : ((List.range [name, leaf].length).reverse.map (· + 1)) = [2, 1] := rfl
  have hrest : search? 2 (.object leaves) [leaf] = present? (.object leaves) leaf := hleaf
  rw [at?, search?, if_neg (by simp), hrange]
  simp [present?_eq_none hdotted, hname, hrest]

theorem isHidden_section : isHidden (.object ms) [name, leaf] = false := by
  have hname : present? (.object ms) name = some (.object leaves) :=
    present?_eq_some distinct hsection rfl
  rw [isHidden, hname]
  · rfl
  · simp

end Section

section Absent

variable {ms : List (Text × Json)} {name leaf : Text} (habsent : name ∉ ms.map (·.1))
include habsent

theorem at?_absent (hdotted : Text.join [0x2e] [name, leaf] ∉ ms.map (·.1)) :
    at? (.object ms) [name, leaf] = none := by
  have hrange : ((List.range [name, leaf].length).reverse.map (· + 1)) = [2, 1] := rfl
  have hname : present? (.object ms) (Text.join [0x2e] [name]) = none := present?_eq_none habsent
  rw [at?, search?, if_neg (by simp), hrange]
  simp [present?_eq_none hdotted, hname]

theorem isHidden_absent : isHidden (.object ms) [name, leaf] = false := by
  rw [isHidden, present?_eq_none habsent]
  simp

end Absent

variable {l : Layers} (unset : ∀ key, l.override? key = none)

include unset in
/-- Without variables a key has its value in the file, or else its default. -/
theorem value?_of_unset {key : Text} (shown : isHidden l.file (key.splitOnByte 0x2e) = false) :
    l.value? key =
      (at? l.file (key.splitOnByte 0x2e)).or (at? l.defaults (key.splitOnByte 0x2e)) := by
  have habove : l.isOverriddenAbove (key.splitOnByte 0x2e) = false := by
    rw [isOverriddenAbove, List.any_eq_false]
    intro n _
    rw [unset]
    simp
  rw [value?, unset, habove]
  dsimp only
  rw [shown]
  cases at? l.file (key.splitOnByte 0x2e) <;> rfl

/-- The layers are put together from the values of their keys. -/
theorem merged_eq_foldl {entries : List (Text × Json)} (hkeys : l.keys = entries.map (·.1))
    (hvalues : ∀ entry ∈ entries, l.value? entry.1 = some entry.2) :
    l.merged = entries.foldl (fun all entry => put entry.2 (entry.1.splitOnByte 0x2e) all)
      (.object []) := by
  rw [merged, hkeys, List.foldl_map]
  refine List.foldl_ext _ _ _ fun all entry hentry => ?_
  rw [hvalues entry hentry]

end Layers

end DocScribe.Settings
