-- SUMMARY: Sparse arrays: the container of one component type, indexed by entity.
import Mathlib.Data.List.Basic

/-!
# Sparse arrays

`sparse_array<Component>`: a vector of optional components. Writing past the end
grows the vector with empty slots.
-/

namespace BeeRType

structure SparseArray (α : Type) where
  data : List (Option α)

namespace SparseArray

variable {α : Type}

def empty : SparseArray α := ⟨[]⟩

def size (a : SparseArray α) : Nat := a.data.length

/-- The value in a slot: what `operator[] const` refers to, where the slot
exists. -/
def get? (a : SparseArray α) (idx : Nat) : Option α := a.data.getD idx none

/-- `_data.resize(idx + 1)`, where the slot is missing. -/
def reserve (a : SparseArray α) (idx : Nat) : SparseArray α :=
  if a.size ≤ idx then ⟨a.data ++ List.replicate (idx + 1 - a.size) none⟩ else a

def insertAt (a : SparseArray α) (pos : Nat) (component : α) : SparseArray α :=
  ⟨(a.reserve pos).data.set pos (some component)⟩

/-- Constructing a component in its slot leaves what assigning it leaves. -/
def emplaceAt (a : SparseArray α) (pos : Nat) (component : α) : SparseArray α :=
  a.insertAt pos component

def erase (a : SparseArray α) (pos : Nat) : SparseArray α :=
  if pos < a.size then ⟨a.data.set pos none⟩ else a

/-- An assignment through the reference that `operator[]` returns. -/
def modify (a : SparseArray α) (idx : Nat) (f : α → α) : SparseArray α :=
  ⟨(a.reserve idx).data.modify idx (Option.map f)⟩

def contains (a : SparseArray α) (index : Nat) : Bool :=
  decide (index < a.size) && (a.get? index).isSome

/-! ## What a slot holds after an operation -/

variable {a : SparseArray α} {pos idx : Nat}

theorem get?_reserve (a : SparseArray α) (pos idx : Nat) :
    (a.reserve pos).get? idx = a.get? idx := by
  unfold reserve
  split
  · simp only [get?, List.getD_eq_getElem?_getD, List.getElem?_append, List.getElem?_replicate]
    split
    · rfl
    · rename_i hidx
      rw [List.getElem?_eq_none (Nat.le_of_not_lt hidx)]
      split <;> rfl
  · rfl

theorem reserve_of_lt (h : pos < a.size) : a.reserve pos = a := if_neg (Nat.not_le_of_lt h)

theorem lt_size_reserve : pos < (a.reserve pos).size := by
  unfold reserve
  split
  · simp only [size, List.length_append, List.length_replicate] at *
    omega
  · omega

theorem get?_insertAt {c : α} :
    (a.insertAt pos c).get? idx = if idx = pos then some c else a.get? idx := by
  have hpos : pos < (a.reserve pos).data.length := lt_size_reserve
  rw [← get?_reserve a pos idx]
  simp only [insertAt, get?, List.getD_eq_getElem?_getD, List.getElem?_set]
  split
  · rename_i h
    subst h
    simp
  · rename_i h
    simp [Ne.symm h]

theorem get?_modify {f : α → α} :
    (a.modify pos f).get? idx = if idx = pos then (a.get? idx).map f else a.get? idx := by
  rw [← get?_reserve a pos idx]
  simp only [modify, get?, List.getD_eq_getElem?_getD, List.getElem?_modify]
  by_cases h : idx = pos
  · subst h
    cases (a.reserve idx).data[idx]? <;> simp
  · cases (a.reserve pos).data[idx]? <;> simp [h, Ne.symm h]

theorem lt_size_insertAt {c : α} : pos < (a.insertAt pos c).size := by
  unfold insertAt size
  rw [List.length_set]
  exact lt_size_reserve

theorem lt_size_modify {f : α → α} : pos < (a.modify pos f).size := by
  unfold modify size
  rw [List.length_modify]
  exact lt_size_reserve

theorem get?_erase : (a.erase pos).get? idx = if idx = pos then none else a.get? idx := by
  unfold erase
  split
  · simp only [get?, List.getD_eq_getElem?_getD, List.getElem?_set]
    by_cases h : idx = pos
    · subst h
      by_cases hlt : idx < a.data.length <;> simp [hlt]
    · simp [h, Ne.symm h]
  · rename_i hsize
    split
    · rename_i h
      subst h
      simp [get?, List.getElem?_eq_none (Nat.le_of_not_lt hsize)]
    · rfl

theorem contains_iff : a.contains idx = true ↔ (a.get? idx).isSome = true := by
  simp only [contains, Bool.and_eq_true, decide_eq_true_eq, and_iff_right_iff_imp]
  intro h
  by_contra hidx
  simp [get?, List.getElem?_eq_none (Nat.le_of_not_lt hidx)] at h

end SparseArray

end BeeRType
