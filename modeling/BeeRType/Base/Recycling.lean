-- SUMMARY: Ids that are given back and given out again: the ids ever made are as many as were in use at once.
import BeeRType.Base.Transition
import Mathlib.Data.Finset.Card

/-!
# Recycling

An allocator makes a new id only when none waits that has been given back. So the number
of ids that it has made is the largest number that have been in use at once, whichever of
the waiting ids it prefers.
-/

open Transition

namespace Recycling

/-! ## Pools -/

/-- The ids that have been made. -/
structure Pool (ι : Type) where
  used : Finset ι
  free : Finset ι
  disjoint : Disjoint used free

namespace Pool

variable {ι : Type} {p p' : Pool ι}

def made (p : Pool ι) : Nat := p.used.card + p.free.card

theorem used_le_made (p : Pool ι) : p.used.card ≤ p.made := Nat.le_add_right _ _

variable [DecidableEq ι]

inductive Step (p p' : Pool ι) : Prop
  | idle (hused : p'.used = p.used) (hfree : p'.free = p.free)
  | reuse (k : ι) (hk : k ∈ p.free) (hused : p'.used = insert k p.used)
      (hfree : p'.free = p.free.erase k)
  | make (k : ι) (hempty : p.free = ∅) (hk : k ∉ p.used) (hused : p'.used = insert k p.used)
      (hfree : p'.free = ∅)
  | release (k : ι) (hk : k ∈ p.used) (hused : p'.used = p.used.erase k)
      (hfree : p'.free = insert k p.free)

/-- An id is made only if all are in use. -/
theorem Step.made_eq (h : Step p p') : p'.made = max p.made p'.used.card := by
  have hle := p.used_le_made
  cases h with
  | idle hused hfree =>
      rw [made, hused, hfree]
      exact (max_eq_left hle).symm
  | reuse k hk hused hfree =>
      have hnew : k ∉ p.used := fun hmem => Finset.disjoint_left.mp p.disjoint hmem hk
      have hcard := Finset.card_erase_add_one hk
      rw [made, made, hused, hfree, Finset.card_insert_of_notMem hnew]
      omega
  | make k hempty hk hused hfree =>
      rw [made, made, hused, hfree, hempty, Finset.card_insert_of_notMem hk, Finset.card_empty]
      omega
  | release k hk hused hfree =>
      have hnew : k ∉ p.free := Finset.disjoint_left.mp p.disjoint hk
      have hcard := Finset.card_erase_add_one hk
      rw [made, made, hused, hfree, Finset.card_insert_of_notMem hnew]
      omega

end Pool

/-! ## Peaks -/

variable {σ α : Type} {step : σ → α → σ} {inUse : σ → Nat} {s : σ} {as bs cs : List α}

/-- The most that are in use at once in a run. -/
def peak (step : σ → α → σ) (inUse : σ → Nat) : σ → List α → Nat
  | s, [] => inUse s
  | s, a :: as => max (inUse s) (peak step inUse (step s a) as)

theorem inUse_le_peak (s : σ) (as : List α) : inUse s ≤ peak step inUse s as := by
  cases as with
  | nil => exact Nat.le_refl _
  | cons a as => exact Nat.le_max_left _ _

theorem peak_append (s : σ) (as bs : List α) :
    peak step inUse s (as ++ bs) =
      max (peak step inUse s as) (peak step inUse (run step s as) bs) := by
  induction as generalizing s with
  | nil => exact (max_eq_right (inUse_le_peak s bs)).symm
  | cons a as ih => rw [List.cons_append, peak, ih, peak, max_assoc, run_cons]

theorem inUse_run_le_peak {s₀ : σ} (h : as = bs ++ cs) :
    inUse (run step s₀ bs) ≤ peak step inUse s₀ as := by
  rw [h, peak_append]
  exact (inUse_le_peak _ cs).trans (Nat.le_max_right _ _)

/-- No step goes above the peak. -/
theorem eachStep_le_peak (s₀ : σ) (as : List α) :
    EachStep step (fun s a => inUse (step s a) ≤ peak step inUse s₀ as) s₀ as := by
  refine eachStep_iff.mpr fun pre a post heq => ?_
  have hle : inUse (run step s₀ (pre ++ [a])) ≤ peak step inUse s₀ as :=
    inUse_run_le_peak (by rw [heq, List.append_assoc, List.singleton_append])
  rwa [run_append] at hle

/-- In a run that never makes an id while another one waits, what has been made follows
the peak. -/
theorem made_run (made : σ → Nat) (hstart : inUse s ≤ made s)
    (h : EachStep step (fun s a => made (step s a) = max (made s) (inUse (step s a))) s as) :
    made (run step s as) = max (made s) (peak step inUse s as) := by
  induction as generalizing s with
  | nil => exact (max_eq_left hstart).symm
  | cons a as ih =>
      obtain ⟨hstep, has⟩ := h
      have hnext : inUse (step s a) ≤ made (step s a) := by
        rw [hstep]
        exact Nat.le_max_right _ _
      have hpeak : inUse (step s a) ≤ peak step inUse (step s a) as := inUse_le_peak _ as
      rw [run_cons, ih hnext has, hstep, peak]
      omega

end Recycling
