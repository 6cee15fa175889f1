-- SUMMARY: A timer that is polled, fires once its period has passed, and starts anew when it fires: how often it fires.
import Mathlib.Data.List.Chain
import Mathlib.Tactic.Linarith

/-!
# Throttled polling

A loop reads the clock in every round and acts if the last time it did is at least a
period ago. What has passed since the last action is lost when the next one is late: over
a stretch of time there are at most as many actions as periods fit into it, and, if the
rounds are at most a delay apart, at least as many as periods with a delay each do.
-/

namespace Throttle

/-- The timer fires when it is polled. -/
def fires (period last now : Int) : Bool := decide (period ≤ now - last)

/-- The time from which the next period is counted. -/
def next (period last now : Int) : Int := if fires period last now then now else last

/-- How often the timer fires at these polls. -/
def firings (period : Int) : Int → List Int → Nat
  | _, [] => 0
  | last, now :: polls =>
    (fires period last now).toNat + firings period (next period last now) polls

variable {period delay last now start : Int} {polls : List Int}

@[simp] theorem firings_nil : firings period last [] = 0 := rfl

theorem firings_cons : firings period last (now :: polls) =
    (fires period last now).toNat + firings period (next period last now) polls := rfl

theorem next_le (period : Int) (h : last ≤ now) : next period last now ≤ now := by
  unfold next
  split
  · exact le_rfl
  · exact h

/-- While the clock does not go back, there are no more firings than periods fit between
the last firing before and the end. -/
theorem firings_mul_le (hlast : last ≤ start)
    (hpolls : List.IsChain (fun now next => now ≤ next) (start :: polls)) :
    firings period last polls * period ≤ polls.getLastD start - last := by
  induction polls generalizing last start with
  | nil => simpa using hlast
  | cons now polls ih =>
      obtain ⟨hnow, hpolls⟩ := List.isChain_cons_cons.mp hpolls
      have hrest := ih (next_le period (hlast.trans hnow)) hpolls
      rw [firings_cons, List.getLastD_cons]
      unfold next at hrest ⊢
      cases hfires : fires period last now with
      | true =>
          have hpassed : period ≤ now - last := of_decide_eq_true hfires
          rw [hfires, if_pos rfl] at hrest
          rw [if_pos rfl, Bool.toNat_true]
          push_cast
          linarith
      | false =>
          rw [hfires, if_neg Bool.false_ne_true] at hrest
          rw [if_neg Bool.false_ne_true, Bool.toNat_false, Nat.zero_add]
          exact hrest

/-- If the timer is polled again after the delay at the latest, no firing is later than
that after its period. -/
theorem lt_firings_mul (hperiod : 0 < period) (hstart : start - last < period)
    (hpolls : List.IsChain (fun now next => next ≤ now + delay) (start :: polls)) :
    polls.getLastD start - last < firings period last polls * (period + delay) + period := by
  induction polls generalizing last start with
  | nil => simpa using hstart
  | cons now polls ih =>
      obtain ⟨hdelay, hpolls⟩ := List.isChain_cons_cons.mp hpolls
      rw [firings_cons, List.getLastD_cons]
      unfold next
      cases hfires : fires period last now with
      | true =>
          have hrest : polls.getLastD now - now <
              firings period now polls * (period + delay) + period := ih (by linarith) hpolls
          rw [if_pos rfl, Bool.toNat_true]
          push_cast
          linarith
      | false =>
          have hearly : now - last < period := not_le.mp (of_decide_eq_false hfires)
          have hrest := ih hearly hpolls
          rw [if_neg Bool.false_ne_true, Bool.toNat_false, Nat.zero_add]
          exact hrest

end Throttle
