-- SUMMARY: Condition variables: the threads that sleep and those that are woken, counted against what there is to wake for.
import Mathlib.Data.Finset.Card

/-!
# Condition variables

A thread that finds its predicate false goes to sleep at the condition variable. A
notification, or nothing at all, wakes it; it then looks at the predicate again. A
producer adds to the available elements first and notifies later, without the lock.
No wake-up is lost if, as long as a thread sleeps, the elements are covered: by
notifications that are still to come, and by threads that will look again.
-/

namespace Monitor

variable {τ : Type*}

/-- The threads at a condition variable. -/
structure CondVar (τ : Type*) where
  blocked : Finset τ
  /-- Those that have been woken and have not looked at the predicate again. -/
  woken : Finset τ
  disjoint : Disjoint blocked woken

namespace CondVar

def new : CondVar τ := ⟨∅, ∅, Finset.disjoint_empty_left ∅⟩

variable [DecidableEq τ]

/-- The thread has found its predicate false. -/
def block (cv : CondVar τ) (t : τ) : CondVar τ where
  blocked := insert t cv.blocked
  woken := cv.woken.erase t
  disjoint := Finset.disjoint_insert_left.mpr
    ⟨Finset.notMem_erase t cv.woken, cv.disjoint.mono_right (Finset.erase_subset t cv.woken)⟩

/-- The thread has found its predicate true. -/
def pass (cv : CondVar τ) (t : τ) : CondVar τ where
  blocked := cv.blocked
  woken := cv.woken.erase t
  disjoint := cv.disjoint.mono_right (Finset.erase_subset t cv.woken)

/-- A sleeping thread is woken, for whatever reason. -/
def wake (cv : CondVar τ) (t : τ) : CondVar τ where
  blocked := cv.blocked.erase t
  woken := if t ∈ cv.blocked then insert t cv.woken else cv.woken
  disjoint := by
    split
    · exact Finset.disjoint_insert_right.mpr
        ⟨Finset.notMem_erase t cv.blocked, cv.disjoint.mono_left (Finset.erase_subset t cv.blocked)⟩
    · exact cv.disjoint.mono_left (Finset.erase_subset t cv.blocked)

/-- While a thread sleeps, the available elements are covered by the notifications
that are pending and by the threads that will look again. -/
def Covers (cv : CondVar τ) (pending available : Nat) : Prop :=
  cv.blocked.Nonempty → available ≤ pending + cv.woken.card

variable {cv : CondVar τ} {t : τ} {pending available : Nat}

omit [DecidableEq τ] in
theorem covers_zero : cv.Covers pending 0 := fun _ => Nat.zero_le _

omit [DecidableEq τ] in
/-- An element is added, and a notification promised. -/
theorem Covers.add (h : cv.Covers pending available) : cv.Covers (pending + 1) (available + 1) := by
  intro hblocked
  have := h hblocked
  omega

/-- A sleeping thread takes the notification over. -/
theorem Covers.notify (h : cv.Covers (pending + 1) available) (ht : t ∈ cv.blocked) :
    (cv.wake t).Covers pending available := by
  intro _
  have hle := h ⟨t, ht⟩
  have hnew : t ∉ cv.woken := Finset.disjoint_left.mp cv.disjoint ht
  simp only [wake, if_pos ht, Finset.card_insert_of_notMem hnew]
  omega

omit [DecidableEq τ] in
/-- A notification finds nobody. -/
theorem covers_of_blocked_eq (h : cv.blocked = ∅) : cv.Covers pending available := by
  intro hblocked
  rw [h] at hblocked
  exact absurd hblocked Finset.not_nonempty_empty

theorem Covers.spurious (h : cv.Covers pending available) : (cv.wake t).Covers pending available := by
  intro hblocked
  obtain ⟨u, hu⟩ := hblocked
  have hle := h ⟨u, Finset.mem_of_mem_erase hu⟩
  have hcard : cv.woken.card ≤ (cv.wake t).woken.card := by
    unfold wake
    dsimp only
    split
    · exact Finset.card_le_card (Finset.subset_insert t cv.woken)
    · exact Nat.le_refl _
  omega

/-- A thread takes an element and, if it has been woken, uses that up. -/
theorem Covers.take (h : cv.Covers pending (available + 1)) : (cv.pass t).Covers pending available := by
  intro hblocked
  have hle := h hblocked
  have hcard : cv.woken.card - 1 ≤ (cv.woken.erase t).card := Finset.pred_card_le_card_erase
  simp only [pass]
  omega

end CondVar

end Monitor
