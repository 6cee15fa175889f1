-- SUMMARY: A queue from which one element is taken at a time: when the turn of an element comes.
import BeeRType.Base.Transition

/-!
# Waiting in a queue

Some steps take the oldest element of a queue, and all others add new ones at its end, if
they touch it. An element then waits for one such step for each that is ahead of it, and
nothing that is added later can delay it.
-/

open Transition

namespace Fifo

variable {σ α β : Type} {step : σ → α → σ} {queue : σ → List β} {takes : α → Bool} {s : σ}
  {as : List α}

/-- The step takes the oldest element, or at most adds to the queue. -/
def InTurn (step : σ → α → σ) (queue : σ → List β) (takes : α → Bool) (s : σ) (a : α) : Prop :=
  if takes a then queue (step s a) = (queue s).tail else queue s <+: queue (step s a)

theorem drop_prefix_run (h : EachStep step (InTurn step queue takes) s as)
    (hfew : as.countP takes ≤ (queue s).length) :
    (queue s).drop (as.countP takes) <+: queue (run step s as) := by
  induction as generalizing s with
  | nil => exact List.prefix_rfl
  | cons a as ih =>
      obtain ⟨hstep, has⟩ := h
      unfold InTurn at hstep
      rw [List.countP_cons] at hfew ⊢
      split at hstep <;> rename_i htakes
      · rw [if_pos htakes] at hfew ⊢
        have hrest := ih has (by rw [hstep, List.length_tail]; omega)
        rwa [hstep, List.drop_tail] at hrest
      · rw [if_neg htakes, Nat.add_zero] at hfew ⊢
        obtain ⟨added, hadded⟩ := hstep
        have hrest := ih has (by rw [← hadded, List.length_append]; omega)
        rw [← hadded, List.drop_append_of_le_length hfew] at hrest
        exact (List.prefix_append _ _).trans hrest

/-- An element is the oldest after as many turns as there are elements ahead of it. -/
theorem exists_cons_run {ahead rest : List β} {b : β}
    (h : EachStep step (InTurn step queue takes) s as) (hqueue : queue s = ahead ++ b :: rest)
    (hturns : as.countP takes = ahead.length) : ∃ later, queue (run step s as) = b :: later := by
  have hlength : ahead.length ≤ (queue s).length := by
    rw [hqueue, List.length_append]
    exact Nat.le_add_right _ _
  have hprefix := drop_prefix_run h (hturns ▸ hlength)
  rw [hqueue, hturns, List.drop_left] at hprefix
  obtain ⟨later, hlater⟩ := hprefix
  exact ⟨rest ++ later, hlater.symm⟩

end Fifo
