-- SUMMARY: Maps that differ in a shift of their keys.
import Mathlib.Data.List.Sort
import Std.Data.ExtTreeMap

/-!
# Shifted maps

Two maps with integer keys, one of which has every key of the other raised by the same
amount. The shift keeps the order of the keys, so that the maps are also listed in the
same order.
-/

open Std

variable {α β : Type}

/-- `m` is `m'` with all keys raised by `d`. -/
def Shifted (d : Int) (m m' : ExtTreeMap Int α) : Prop := ∀ i, m[i + d]? = m'[i]?

namespace Shifted

variable {d i : Int} {m m' : ExtTreeMap Int α} {a : α}

theorem empty : Shifted d (∅ : ExtTreeMap Int α) ∅ := fun i => by
  rw [ExtTreeMap.getElem?_empty, ExtTreeMap.getElem?_empty]

theorem mem_iff (h : Shifted d m m') : i + d ∈ m ↔ i ∈ m' := by
  rw [ExtTreeMap.mem_iff_isSome_getElem?, ExtTreeMap.mem_iff_isSome_getElem?, h i]

theorem contains_eq (h : Shifted d m m') : m.contains (i + d) = m'.contains i := by
  rw [Bool.eq_iff_iff, ExtTreeMap.contains_iff_mem, ExtTreeMap.contains_iff_mem, h.mem_iff]

theorem insert (h : Shifted d m m') : Shifted d (m.insert (i + d) a) (m'.insert i a) := by
  intro j
  simp only [ExtTreeMap.getElem?_insert, Std.compare_eq_iff_eq, Int.add_left_inj, h j]

theorem insertIfNew (h : Shifted d m m') :
    Shifted d (m.insertIfNew (i + d) a) (m'.insertIfNew i a) := by
  intro j
  simp only [ExtTreeMap.getElem?_insertIfNew, Std.compare_eq_iff_eq, Int.add_left_inj, h.mem_iff, h j]

theorem erase (h : Shifted d m m') : Shifted d (m.erase (i + d)) (m'.erase i) := by
  intro j
  simp only [ExtTreeMap.getElem?_erase, Std.compare_eq_iff_eq, Int.add_left_inj, h j]

theorem map (h : Shifted d m m') (f : α → β) :
    Shifted d (m.map fun _ a => f a) (m'.map fun _ a => f a) := by
  intro j
  rw [ExtTreeMap.getElem?_map, ExtTreeMap.getElem?_map, h j]

/-- The entries in the order of the keys. -/
theorem toList_eq (h : Shifted d m m') :
    m.toList = m'.toList.map fun e => (e.1 + d, e.2) := by
  have hordered : ∀ t : ExtTreeMap Int α, t.toList.Pairwise fun a b => a.1 < b.1 := fun t =>
    t.ordered_keys_toList.imp fun h => compare_lt_iff_lt.mp h
  have hirrefl : Std.Irrefl fun a b : Int × α => a.1 < b.1 := ⟨fun a => lt_irrefl a.1⟩
  have hasymm : Std.Asymm fun a b : Int × α => a.1 < b.1 := ⟨fun a b => lt_asymm⟩
  refine List.Pairwise.eq_of_mem_iff (hordered m) ?_ fun e => ?_
  · exact List.pairwise_map.mpr ((hordered m').imp fun h => by simpa using h)
  · obtain ⟨k, a⟩ := e
    rw [ExtTreeMap.mem_toList_iff_getElem?_eq_some, List.mem_map]
    constructor
    · intro hk
      refine ⟨(k - d, a), ?_, by simp⟩
      rw [ExtTreeMap.mem_toList_iff_getElem?_eq_some, ← h (k - d), Int.sub_add_cancel]
      exact hk
    · rintro ⟨⟨j, b⟩, hj, heq⟩
      obtain ⟨rfl, rfl⟩ := Prod.mk.inj heq
      rw [h j]
      exact ExtTreeMap.mem_toList_iff_getElem?_eq_some.mp hj

end Shifted
