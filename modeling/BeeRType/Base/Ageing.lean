-- SUMMARY: Slots whose value ages while it is kept: what a run leaves in one is the value last put there, aged by the steps since.
import BeeRType.Base.Transition
import Mathlib.Data.List.Induction
import Mathlib.Logic.Function.Iterate

/-!
# Ageing

A step of a machine puts a value into a slot, empties the slot, or keeps what it finds
there and ages it some number of times. The value found after a run is accounted for by
the last step that put one there, and by the ages that the steps since have added up to.
-/

open Transition

namespace Ageing

variable {σ ε α : Type*}

/-- What a step does to a slot. -/
inductive Effect (α : Type*) where
  | put (a : α)
  | drop
  | keep (age : Nat)

namespace Effect

def apply (f : α → α) : Effect α → Option α → Option α
  | .put a, _ => some a
  | .drop, _ => none
  | .keep age, value => value.map f^[age]

def Keeps : Effect α → Prop
  | .keep _ => True
  | _ => False

def age : Effect α → Nat
  | .keep age => age
  | _ => 0

/-- Every value is one that is put there or one that is kept. -/
theorem apply_eq_some_iff {f : α → α} {effect : Effect α} {value : Option α} {b : α} :
    effect.apply f value = some b ↔
      effect = .put b ∨ effect.Keeps ∧ ∃ a, value = some a ∧ b = f^[effect.age] a := by
  cases effect with
  | put a => simp [apply, Keeps]
  | drop => simp [apply, Keeps]
  | keep age => simp [apply, Keeps, Effect.age, eq_comm]

end Effect

variable (step : σ → ε → σ) (effect : σ → ε → Effect α)

/-- The age that a run adds to what it keeps. -/
def age : σ → List ε → Nat
  | _, [] => 0
  | s, e :: es => (effect s e).age + age (step s e) es

variable (f : α → α) (slot : σ → Option α)

/-- The step acts on the slot as its effect says. -/
def Acts (s : σ) (e : ε) : Prop := slot (step s e) = (effect s e).apply f (slot s)

variable {step effect f slot} {s : σ} {e : ε} {es es' : List ε} {b : α}

@[simp] theorem age_nil : age step effect s [] = 0 := rfl
@[simp] theorem age_cons :
    age step effect s (e :: es) = (effect s e).age + age step effect (step s e) es := rfl

theorem age_append : age step effect s (es ++ es') =
    age step effect s es + age step effect (run step s es) es' := by
  induction es generalizing s with
  | nil => simp
  | cons e es ih => rw [List.cons_append, age_cons, ih, age_cons, run_cons, Nat.add_assoc]

/-- What every step keeps is there at the end, aged. -/
theorem slot_run_of_keeps (hacts : EachStep step (Acts step effect f slot) s es)
    (hkeeps : EachStep step (fun s e => (effect s e).Keeps) s es) :
    slot (run step s es) = (slot s).map f^[age step effect s es] := by
  induction es generalizing s with
  | nil => simp
  | cons e es ih =>
      rw [run_cons, ih hacts.2 hkeeps.2, hacts.1, age_cons]
      have hkeep : (effect s e).Keeps := hkeeps.1
      cases h : effect s e with
      | keep n =>
          rw [Effect.apply, Option.map_map, Effect.age, Nat.add_comm, Function.iterate_add]
      | put a =>
          rw [h] at hkeep
          exact hkeep.elim
      | drop =>
          rw [h] at hkeep
          exact hkeep.elim

theorem run_append_cons :
    run step s (es ++ e :: es') = run step (run step s (es ++ [e])) es' := by
  rw [← run_append, List.append_assoc, List.singleton_append]

/-- A value was there from the start and has been kept since, or a step has put it
there and the later ones have kept it. -/
theorem slot_run_eq_some_iff (hacts : EachStep step (Acts step effect f slot) s es) :
    slot (run step s es) = some b ↔
      (EachStep step (fun s e => (effect s e).Keeps) s es ∧
        ∃ a, slot s = some a ∧ b = f^[age step effect s es] a) ∨
      ∃ pre e post a, es = pre ++ e :: post ∧ effect (run step s pre) e = .put a ∧
        EachStep step (fun s e => (effect s e).Keeps) (run step s (pre ++ [e])) post ∧
        b = f^[age step effect (run step s (pre ++ [e])) post] a := by
  constructor
  · intro hb
    -- The last step has either put the value there or kept what was there before it.
    induction es using List.reverseRecOn generalizing b with
    | nil => exact .inl ⟨trivial, b, hb, rfl⟩
    | append_singleton es e ih =>
        obtain ⟨hacts, hact, -⟩ := eachStep_append.mp hacts
        rw [run_append, run_cons, run_nil, hact, Effect.apply_eq_some_iff] at hb
        obtain hput | ⟨hkeep, a, ha, rfl⟩ := hb
        · exact .inr ⟨es, e, [], b, rfl, hput, trivial, rfl⟩
        obtain ⟨hkeeps, a, hstart, rfl⟩ | ⟨pre, e', post, a, rfl, hput, hkeeps, rfl⟩ := ih hacts ha
        · refine .inl ⟨eachStep_append.mpr ⟨hkeeps, hkeep, trivial⟩, a, hstart, ?_⟩
          rw [age_append, age_cons, age_nil, Nat.add_zero, Nat.add_comm, Function.iterate_add_apply]
        · rw [run_append_cons] at hkeep ⊢
          refine .inr ⟨pre, e', post ++ [e], a, by simp, hput,
            eachStep_append.mpr ⟨hkeeps, hkeep, trivial⟩, ?_⟩
          rw [age_append, age_cons, age_nil, Nat.add_zero, Nat.add_comm, Function.iterate_add_apply]
  · rintro (⟨hkeeps, a, ha, rfl⟩ | ⟨pre, e, post, a, rfl, hput, hkeeps, rfl⟩)
    · rw [slot_run_of_keeps hacts hkeeps, ha, Option.map_some]
    · obtain ⟨-, hact, hacts⟩ := eachStep_append.mp hacts
      have hstart : slot (run step s (pre ++ [e])) = some a := by
        rw [run_append, run_cons, run_nil, hact, hput, Effect.apply]
      have hrest : EachStep step (Acts step effect f slot) (run step s (pre ++ [e])) post := by
        rw [run_append, run_cons, run_nil]
        exact hacts
      rw [run_append_cons, slot_run_of_keeps hrest hkeeps, hstart, Option.map_some]

end Ageing
