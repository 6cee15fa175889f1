-- SUMMARY: Computations that may throw: peeling them apart, and the rules for loops of them.
import Mathlib.Data.List.Induction

/-!
# Fallible computations

A computation that may throw is an `Except`. What a successful one has done is
read off by peeling its binds; a loop is a fold, with one rule for what a
successful loop has done and one for when a loop succeeds.
-/

namespace Fallible

variable {ε α β : Type}

theorem bind_eq_ok {x : Except ε α} {f : α → Except ε β} {b : β} :
    x >>= f = .ok b ↔ ∃ a, x = .ok a ∧ f a = .ok b := by
  cases x with
  | error e => simp [bind, Except.bind]
  | ok a => simp [bind, Except.bind]

theorem pure_eq_ok {a b : α} : (pure a : Except ε α) = .ok b ↔ a = b := by
  simp [pure, Except.pure]

theorem exists_bind {x : Except ε α} {f : α → Except ε β} (hx : ∃ a, x = .ok a)
    (hf : ∀ a, x = .ok a → ∃ b, f a = .ok b) : ∃ b, x >>= f = .ok b := by
  obtain ⟨a, ha⟩ := hx
  obtain ⟨b, hb⟩ := hf a ha
  exact ⟨b, bind_eq_ok.mpr ⟨a, ha, hb⟩⟩

theorem ok_bind {a : α} {f : α → Except ε β} : (Except.ok a >>= f) = f a := rfl

variable {f : β → α → Except ε β} {l : List α} {b b' : β}

/-- What a successful loop has done: `P` relates the elements passed so far to
the state. -/
theorem foldlM_ok {P : List α → β → Prop} (hb : P [] b)
    (hstep : ∀ pre a b b', P pre b → f b a = .ok b' → P (pre ++ [a]) b')
    (h : l.foldlM f b = .ok b') : P l b' := by
  induction l using List.reverseRecOn generalizing b' with
  | nil =>
      obtain rfl := pure_eq_ok.mp h
      exact hb
  | append_singleton pre a ih =>
      rw [List.foldlM_append] at h
      obtain ⟨b'', hpre, h⟩ := bind_eq_ok.mp h
      obtain ⟨b₃, ha, h⟩ := bind_eq_ok.mp h
      obtain rfl := pure_eq_ok.mp h
      exact hstep pre a b'' b₃ (ih hpre) ha

/-- A loop succeeds if each of its steps does, from a state that meets an
invariant to one that meets it again. -/
theorem foldlM_succeeds {I : β → Prop} (hb : I b)
    (hstep : ∀ b, I b → ∀ a ∈ l, ∃ b', f b a = .ok b' ∧ I b') :
    ∃ b', l.foldlM f b = .ok b' ∧ I b' := by
  induction l generalizing b with
  | nil => exact ⟨b, rfl, hb⟩
  | cons a l ih =>
      obtain ⟨b₁, ha, hb₁⟩ := hstep b hb a List.mem_cons_self
      obtain ⟨b', hl, hb'⟩ := ih hb₁ fun b hb a ha => hstep b hb a (List.mem_cons_of_mem _ ha)
      refine ⟨b', ?_, hb'⟩
      rw [List.foldlM_cons, ha]
      exact hl

/-! ## Two computations -/

variable {α' β' : Type} {R R' : α → α' → Prop} {S : β → β' → Prop}

/-- Both computations succeed with related results, or both throw the same exception. -/
inductive Agree (R : α → α' → Prop) : Except ε α → Except ε α' → Prop
  | ok {a : α} {a' : α'} (h : R a a') : Agree R (.ok a) (.ok a')
  | error (e : ε) : Agree R (.error e) (.error e)

namespace Agree

variable {x : Except ε α} {x' : Except ε α'}

theorem eq (x : Except ε α) : Agree (· = ·) x x := by
  cases x with
  | ok a => exact .ok rfl
  | error e => exact .error e

theorem mono (h : Agree R x x') (hR : ∀ a a', R a a' → R' a a') : Agree R' x x' := by
  cases h with
  | ok h => exact .ok (hR _ _ h)
  | error e => exact .error e

/-- What the two successful results have in common besides. -/
theorem of_ok (h : Agree R x x') (hR : ∀ a a', x = .ok a → x' = .ok a' → R a a' → R' a a') :
    Agree R' x x' := by
  cases h with
  | ok h => exact .ok (hR _ _ rfl rfl h)
  | error e => exact .error e

theorem bind {f : α → Except ε β} {f' : α' → Except ε β'} (h : Agree R x x')
    (hf : ∀ a a', R a a' → Agree S (f a) (f' a')) : Agree S (x >>= f) (x' >>= f') := by
  cases h with
  | ok h => exact hf _ _ h
  | error e => exact .error e

/-- The rule for two loops over the same elements. -/
theorem foldlM {f : β → α → Except ε β} {f' : β' → α → Except ε β'} {l : List α} {b : β} {b' : β'}
    (hb : S b b') (hstep : ∀ b b', ∀ a ∈ l, S b b' → Agree S (f b a) (f' b' a)) :
    Agree S (l.foldlM f b) (l.foldlM f' b') := by
  induction l generalizing b b' with
  | nil => exact .ok hb
  | cons a l ih =>
      rw [List.foldlM_cons, List.foldlM_cons]
      refine (hstep b b' a List.mem_cons_self hb).bind fun _ _ h => ih h ?_
      exact fun b b' a ha => hstep b b' a (List.mem_cons_of_mem _ ha)

end Agree

end Fallible
