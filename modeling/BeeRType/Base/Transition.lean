-- SUMMARY: Runs of a deterministic state machine: invariants, conditions on steps, and the rules that relate the two.
import Mathlib.Logic.Basic
import Mathlib.Data.List.Basic

/-!
# Runs of a state machine

A machine is a function `step : σ → ε → σ`; an event that is not enabled leaves
the state as it is. A run is given by the list of its events. Two predicates on
runs carry everything that is stated about them: `Always P` for what holds of
the states a run passes through, and `EachStep Q` for what holds of the steps
it takes.
-/

namespace Transition

variable {σ τ ε : Type*} (step : σ → ε → σ)

/-- The state a run ends in. -/
def run (s : σ) (es : List ε) : σ := es.foldl step s

/-- `P` holds in every state of the run, the first and the last included. -/
def Always (P : σ → Prop) : σ → List ε → Prop
  | s, [] => P s
  | s, e :: es => P s ∧ Always P (step s e) es

/-- `Q` holds of every step of the run: of the state it leaves and the event it
takes. -/
def EachStep (Q : σ → ε → Prop) : σ → List ε → Prop
  | _, [] => True
  | s, e :: es => Q s e ∧ EachStep Q (step s e) es

variable {step} {P P' : σ → Prop} {Q Q' : σ → ε → Prop} {s : σ} {es : List ε}

@[simp] theorem run_nil : run step s [] = s := rfl
@[simp] theorem run_cons {e : ε} : run step s (e :: es) = run step (step s e) es := rfl

@[simp] theorem always_nil : Always step P s [] ↔ P s := Iff.rfl
@[simp] theorem always_cons {e : ε} :
    Always step P s (e :: es) ↔ P s ∧ Always step P (step s e) es := Iff.rfl
@[simp] theorem eachStep_nil : EachStep step Q s [] := trivial
@[simp] theorem eachStep_cons {e : ε} :
    EachStep step Q s (e :: es) ↔ Q s e ∧ EachStep step Q (step s e) es := Iff.rfl

instance Always.decidable [DecidablePred P] : ∀ s es, Decidable (Always step P s es)
  | s, [] => inferInstanceAs (Decidable (P s))
  | s, e :: es =>
    have := Always.decidable (step s e) es
    inferInstanceAs (Decidable (P s ∧ Always step P (step s e) es))

instance EachStep.decidable [∀ s e, Decidable (Q s e)] : ∀ s es, Decidable (EachStep step Q s es)
  | _, [] => inferInstanceAs (Decidable True)
  | s, e :: es =>
    have := EachStep.decidable (step s e) es
    inferInstanceAs (Decidable (Q s e ∧ EachStep step Q (step s e) es))

/-! ## Reading the predicates at a point of the run -/

theorem always_iff : Always step P s es ↔ ∀ pre post, es = pre ++ post → P (run step s pre) := by
  induction es generalizing s with
  | nil =>
      constructor
      · rintro h pre post hes
        obtain ⟨rfl, -⟩ := List.append_eq_nil_iff.mp hes.symm
        exact h
      · intro h; exact h [] [] rfl
  | cons e es ih =>
      rw [always_cons, ih]
      constructor
      · rintro ⟨hs, htail⟩ pre post hes
        cases pre with
        | nil => exact hs
        | cons e' pre =>
            obtain ⟨rfl, htl⟩ := List.cons.inj hes
            exact htail pre post htl
      · intro h
        exact ⟨h [] _ rfl, fun pre post hes => h (e :: pre) post (by rw [hes]; rfl)⟩

theorem eachStep_iff :
    EachStep step Q s es ↔ ∀ pre e post, es = pre ++ e :: post → Q (run step s pre) e := by
  induction es generalizing s with
  | nil => simp
  | cons e es ih =>
      rw [eachStep_cons, ih]
      constructor
      · rintro ⟨hs, htail⟩ pre e' post hes
        cases pre with
        | nil =>
            obtain ⟨rfl, -⟩ := List.cons.inj hes
            exact hs
        | cons e'' pre =>
            obtain ⟨rfl, htl⟩ := List.cons.inj hes
            exact htail pre e' post htl
      · intro h
        exact ⟨h [] e es rfl, fun pre e' post hes => h (e :: pre) e' post (by rw [hes]; rfl)⟩

theorem run_append {es' : List ε} : run step s (es ++ es') = run step (run step s es) es' :=
  List.foldl_append

theorem eachStep_append {es' : List ε} :
    EachStep step Q s (es ++ es') ↔ EachStep step Q s es ∧ EachStep step Q (run step s es) es' := by
  induction es generalizing s with
  | nil => simp
  | cons e es ih => simp only [List.cons_append, eachStep_cons, run_cons, ih, and_assoc]

theorem Always.start (h : Always step P s es) : P s := by
  cases es with
  | nil => exact h
  | cons e es => exact h.1

theorem Always.final (h : Always step P s es) : P (run step s es) :=
  always_iff.mp h es [] (List.append_nil es).symm

theorem Always.mono (h : Always step P s es) (hP : ∀ s, P s → P' s) : Always step P' s es :=
  always_iff.mpr fun pre post hes => hP _ (always_iff.mp h pre post hes)

theorem EachStep.mono (h : EachStep step Q s es) (hQ : ∀ s e, Q s e → Q' s e) :
    EachStep step Q' s es :=
  eachStep_iff.mpr fun pre e post hes => hQ _ _ (eachStep_iff.mp h pre e post hes)

/-! ## Invariants -/

/-- An invariant that only the steps meeting `Q` are known to keep holds along
every run that takes no other step. -/
theorem always_of_eachStep {I : σ → Prop} (hs : I s)
    (hstep : ∀ s e, I s → Q s e → I (step s e)) (hrun : EachStep step Q s es) :
    Always step I s es := by
  induction es generalizing s with
  | nil => exact hs
  | cons e es ih => exact ⟨hs, ih (hstep s e hs hrun.1) hrun.2⟩

/-- The invariant rule: what every step keeps holds along every run. -/
theorem always_of_step {I : σ → Prop} (hs : I s) (hstep : ∀ s e, I s → I (step s e)) :
    Always step I s es :=
  always_of_eachStep (Q := fun _ _ => True) hs (fun s e h _ => hstep s e h)
    (eachStep_iff.mpr fun _ _ _ _ => trivial)

/-- What an invariant implies of each of its steps holds of every step of a run
along which the invariant holds. -/
theorem Always.eachStep {I : σ → Prop} (h : Always step I s es) (hQ : ∀ s e, I s → Q s e) :
    EachStep step Q s es := by
  induction es generalizing s with
  | nil => trivial
  | cons e es ih => exact ⟨hQ s e h.1, ih h.2⟩

theorem eachStep_of_forall {q : ε → Prop} (h : ∀ e ∈ es, q e) :
    EachStep step (fun _ e => q e) s es :=
  eachStep_iff.mpr fun pre e post hes => h e (by rw [hes]; simp)

/-- Two conditions that an invariant makes equivalent. -/
theorem Always.eachStep_congr {I : σ → Prop} (h : Always step I s es)
    (hQ : ∀ s e, I s → (Q s e ↔ Q' s e)) : EachStep step Q s es ↔ EachStep step Q' s es := by
  induction es generalizing s with
  | nil => exact Iff.rfl
  | cons e es ih => exact and_congr (hQ s e h.1) (ih h.2)

theorem EachStep.and (h : EachStep step Q s es) (h' : EachStep step Q' s es) :
    EachStep step (fun s e => Q s e ∧ Q' s e) s es :=
  eachStep_iff.mpr fun pre e post hes =>
    ⟨eachStep_iff.mp h pre e post hes, eachStep_iff.mp h' pre e post hes⟩

/-- A safety property `P` holds along a run exactly when each step meets `Q`,
provided an invariant `I` implies `P`, a step meeting `Q` keeps `I`, and a step
breaking `Q` breaks `P`. The last hypothesis may use `I`: only the first bad
step has to be looked at. All steps are known to meet `Q₀`. -/
theorem always_iff_eachStep_of_eachStep {I : σ → Prop} {Q₀ : σ → ε → Prop} (hs : I s)
    (hrun : EachStep step Q₀ s es) (hP : ∀ s, I s → P s)
    (hkeep : ∀ s e, I s → Q₀ s e → Q s e → I (step s e))
    (hbreak : ∀ s e, I s → Q₀ s e → ¬ Q s e → ¬ P (step s e)) :
    Always step P s es ↔ EachStep step Q s es := by
  constructor
  · intro h
    induction es generalizing s with
    | nil => trivial
    | cons e es ih =>
        have hQ : Q s e := by
          by_contra hQ
          exact hbreak s e hs hrun.1 hQ h.2.start
        exact ⟨hQ, ih (hkeep s e hs hrun.1 hQ) hrun.2 h.2⟩
  · intro h
    exact (always_of_eachStep hs (fun s e hs h => hkeep s e hs h.1 h.2) (hrun.and h)).mono hP

theorem always_iff_eachStep {I : σ → Prop} (hs : I s) (hP : ∀ s, I s → P s)
    (hkeep : ∀ s e, I s → Q s e → I (step s e))
    (hbreak : ∀ s e, I s → ¬ Q s e → ¬ P (step s e)) :
    Always step P s es ↔ EachStep step Q s es := by
  have hrun : EachStep step (fun _ _ => True) s es := eachStep_iff.mpr fun _ _ _ _ => trivial
  exact always_iff_eachStep_of_eachStep hs hrun hP (fun s e hs _ => hkeep s e hs)
    fun s e hs _ => hbreak s e hs

/-- Two conditions on steps are equivalent along a run if an invariant makes them
equivalent at each step, and the steps that meet them keep it. -/
theorem eachStep_iff_eachStep {I : σ → Prop} {Q₀ : σ → ε → Prop} (hs : I s)
    (hrun : EachStep step Q₀ s es) (hiff : ∀ s e, I s → (Q s e ↔ Q' s e))
    (hkeep : ∀ s e, I s → Q₀ s e → Q s e → I (step s e)) :
    EachStep step Q s es ↔ EachStep step Q' s es := by
  induction es generalizing s with
  | nil => exact Iff.rfl
  | cons e es ih =>
      rw [eachStep_cons, eachStep_cons, ← hiff s e hs]
      exact and_congr_right fun h => ih (hkeep s e hs hrun.1 h) hrun.2

/-! ## A log that the steps only extend -/

section Log

variable {β : Type*} {log : σ → List β}

theorem prefix_run (h : EachStep step (fun s e => log s <+: log (step s e)) s es) :
    log s <+: log (run step s es) := by
  induction es generalizing s with
  | nil => exact List.prefix_rfl
  | cons e es ih => exact h.1.trans (ih h.2)

/-- A beginning of the log ends with one of the steps, or in the middle of what it adds. -/
theorem exists_step_of_prefix (h : EachStep step (fun s e => log s <+: log (step s e)) s es)
    (hes : es ≠ []) {first : List β} (hstart : log s <+: first)
    (hend : first <+: log (run step s es)) :
    ∃ pre e post, es = pre ++ e :: post ∧ log (run step s pre) <+: first ∧
      first <+: log (run step s (pre ++ [e])) := by
  induction es generalizing s with
  | nil => exact absurd rfl hes
  | cons e es ih =>
      by_cases hfirst : first <+: log (step s e)
      · exact ⟨[], e, es, rfl, hstart, hfirst⟩
      · have hrest : log (step s e) <+: log (run step (step s e) es) := prefix_run h.2
        have hstep : log (step s e) <+: first :=
          (List.prefix_or_prefix_of_prefix hend hrest).resolve_left hfirst
        have hes' : es ≠ [] := by
          rintro rfl
          exact hfirst hend
        obtain ⟨pre, e', post, rfl, hpre, hpost⟩ := ih h.2 hes' hstep hend
        exact ⟨e :: pre, e', post, rfl, hpre, hpost⟩

end Log

end Transition
