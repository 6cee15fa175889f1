-- SUMMARY: A property that all entries of a map have, the operations of maps that keep it, and how many entries there are.
import Mathlib.Data.List.Perm.Subperm
import Std.Data.ExtTreeMap

/-!
# Entries of a map

A property of all entries of a map, with one lemma for each operation: what an
insertion adds has to have the property, and an update has to keep it.
-/

open Std

variable {κ α β : Type} {cmp : κ → κ → Ordering} [TransCmp cmp]

/-- All entries of the map have the property. -/
def AllEntries (P : α → Prop) (m : ExtTreeMap κ α cmp) : Prop :=
  ∀ (k : κ) (a : α), m[k]? = some a → P a

namespace AllEntries

variable {P : α → Prop} {Q : β → Prop} {m m' : ExtTreeMap κ α cmp} {k : κ} {a : α}

theorem empty : AllEntries P (∅ : ExtTreeMap κ α cmp) := by
  intro k a h
  rw [ExtTreeMap.getElem?_empty] at h
  cases h

theorem insertIfNew (h : AllEntries P m) (ha : P a) : AllEntries P (m.insertIfNew k a) := by
  intro k' a' h'
  rw [ExtTreeMap.getElem?_insertIfNew] at h'
  split at h'
  · cases h'
    exact ha
  · exact h k' a' h'

theorem erase (h : AllEntries P m) : AllEntries P (m.erase k) := by
  intro k' a' h'
  rw [ExtTreeMap.getElem?_erase] at h'
  split at h'
  · cases h'
  · exact h k' a' h'

variable [LawfulEqCmp cmp]

theorem map {f : κ → α → β} (h : AllEntries P m) (hf : ∀ k a, P a → Q (f k a)) :
    AllEntries Q (m.map f) := by
  intro k b hb
  rw [ExtTreeMap.getElem?_map, Option.map_eq_some_iff] at hb
  obtain ⟨a, ha, rfl⟩ := hb
  exact hf k a (h k a ha)

theorem modify {f : α → α} (h : AllEntries P m) (hf : ∀ a, m[k]? = some a → P a → P (f a)) :
    AllEntries P (m.modify k f) := by
  intro k' a' h'
  rw [ExtTreeMap.getElem?_modify] at h'
  split at h'
  · rename_i heq
    obtain rfl := LawfulEqCmp.eq_of_compare heq
    obtain ⟨a, ha, rfl⟩ := Option.map_eq_some_iff.mp h'
    exact hf a ha (h k a ha)
  · exact h k' a' h'

end AllEntries

/-! ## The number of entries -/

/-- A map has at least as many entries as keys that are known to be in it. -/
theorem length_le_size [LawfulEqCmp cmp] {m : ExtTreeMap κ α cmp} {keys : List κ}
    (hkeys : keys.Nodup) (h : ∀ k ∈ keys, k ∈ m) : keys.length ≤ m.size := by
  rw [← ExtTreeMap.length_keys]
  exact (hkeys.subperm fun k hk => ExtTreeMap.mem_keys.mpr (h k hk)).length_le

theorem size_le_of_subset [LawfulEqCmp cmp] {m : ExtTreeMap κ α cmp} {m' : ExtTreeMap κ β cmp}
    (h : ∀ k, k ∈ m' → k ∈ m) : m'.size ≤ m.size := by
  rw [← ExtTreeMap.length_keys]
  exact length_le_size ExtTreeMap.nodup_keys fun k hk => h k (ExtTreeMap.mem_keys.mp hk)

/-! ## Maps of images -/

section Images

variable [LawfulEqCmp cmp] {f : α → β} {m m' : ExtTreeMap κ α cmp} {k : κ}

/-- The images of entries that have all been there before. -/
theorem getElem?_map_of_subset
    (h : ∀ (k : κ) (a : α), m'[k]? = some a → ∃ a', m[k]? = some a' ∧ f a = f a') {b : β}
    (hb : (m'.map fun _ a => f a)[k]? = some b) : (m.map fun _ a => f a)[k]? = some b := by
  rw [ExtTreeMap.getElem?_map, Option.map_eq_some_iff] at hb ⊢
  obtain ⟨a, ha, rfl⟩ := hb
  obtain ⟨a', ha', heq⟩ := h k a ha
  exact ⟨a', ha', heq.symm⟩

theorem map_insertIfNew {a : α} :
    (m.insertIfNew k a).map (fun _ a => f a) = (m.map fun _ a => f a).insertIfNew k (f a) := by
  apply ExtTreeMap.ext_getElem?
  intro k'
  simp only [ExtTreeMap.getElem?_map, ExtTreeMap.getElem?_insertIfNew, ExtTreeMap.mem_map]
  split <;> rfl

theorem map_modify {u : α → α} {v : β → β} (h : ∀ a, f (u a) = v (f a)) :
    (m.modify k u).map (fun _ a => f a) = (m.map fun _ a => f a).modify k v := by
  apply ExtTreeMap.ext_getElem?
  intro k'
  simp only [ExtTreeMap.getElem?_map, ExtTreeMap.getElem?_modify]
  split
  · simp [Option.map_map, Function.comp_def, h]
  · rfl

theorem map_modify_of_eq {u : α → α} (h : ∀ a, f (u a) = f a) :
    (m.modify k u).map (fun _ a => f a) = m.map fun _ a => f a := by
  apply ExtTreeMap.ext_getElem?
  intro k'
  simp only [ExtTreeMap.getElem?_map, ExtTreeMap.getElem?_modify]
  split
  · rename_i heq
    obtain rfl := LawfulEqCmp.eq_of_compare heq
    simp [Option.map_map, Function.comp_def, h]
  · rfl

theorem map_erase :
    (m.erase k).map (fun _ a => f a) = (m.map fun _ a => f a).erase k := by
  apply ExtTreeMap.ext_getElem?
  intro k'
  simp only [ExtTreeMap.getElem?_map, ExtTreeMap.getElem?_erase]
  split <;> rfl

theorem getElem?_foldl_erase [DecidableEq κ] {keys : List κ} {k : κ} :
    (keys.foldl (fun m k => m.erase k) m)[k]? = if k ∈ keys then none else m[k]? := by
  induction keys generalizing m with
  | nil => simp
  | cons first rest ih =>
      rw [List.foldl_cons, ih, ExtTreeMap.getElem?_erase]
      by_cases hfirst : k = first
      · simp [hfirst]
      · have hne : ¬ cmp first k = .eq := fun h => hfirst (LawfulEqCmp.eq_of_compare h).symm
        simp [hfirst, hne]

/-- A map that has no entries of its own is what some erasures leave. -/
theorem exists_foldl_erase [DecidableEq κ] (h : ∀ (k : κ) (a : α), m'[k]? = some a → m[k]? = some a) :
    ∃ keys : List κ, keys.foldl (fun m k => m.erase k) m = m' := by
  refine ⟨m.keys.filter fun k => k ∉ m', ?_⟩
  apply ExtTreeMap.ext_getElem?
  intro k
  rw [getElem?_foldl_erase]
  simp only [List.mem_filter, ExtTreeMap.mem_keys, decide_eq_true_eq]
  cases hm' : m'[k]? with
  | none =>
      have hnot : k ∉ m' := by simp [ExtTreeMap.mem_iff_isSome_getElem?, hm']
      split
      · rfl
      · rename_i hkept
        exact ExtTreeMap.getElem?_eq_none fun hm => hkept ⟨hm, hnot⟩
  | some a =>
      have hmem : k ∈ m' := by simp [ExtTreeMap.mem_iff_isSome_getElem?, hm']
      rw [if_neg fun hk => hk.2 hmem, h k a hm']

end Images
