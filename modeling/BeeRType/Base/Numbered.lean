-- SUMMARY: Lists whose items carry consecutive numbers.
import Mathlib.Logic.Function.Iterate

/-!
# Consecutive numbers

What a sender that counts its items puts into a queue, and what a receiver that
checks the count has to see: every item carries the number after the one before
it. The numbers are any type with a successor, so a counter that wraps is one
too.
-/

namespace Numbering

variable {α ν : Type*} (carries : α → ν → Prop) (succ : ν → ν)

/-- The items carry the numbers after `n` in order, and `d` is the last one. -/
inductive Numbered : ν → List α → ν → Prop
  | nil (n : ν) : Numbered n [] n
  | cons {n d : ν} {a : α} {as : List α} (ha : carries a (succ n)) (has : Numbered (succ n) as d) :
      Numbered n (a :: as) d

variable {carries succ} {n d k : ν} {a : α} {as bs : List α}

@[simp] theorem numbered_nil : Numbered carries succ n [] d ↔ n = d := by
  constructor
  · rintro ⟨⟩; rfl
  · rintro rfl; exact .nil n

@[simp] theorem numbered_cons :
    Numbered carries succ n (a :: as) d ↔
      carries a (succ n) ∧ Numbered carries succ (succ n) as d := by
  constructor
  · intro h
    cases h with
    | cons ha has => exact ⟨ha, has⟩
  · rintro ⟨ha, has⟩
    exact .cons ha has

theorem Numbered.append (has : Numbered carries succ n as k)
    (hbs : Numbered carries succ k bs d) : Numbered carries succ n (as ++ bs) d := by
  induction has with
  | nil => exact hbs
  | cons ha _ ih => exact .cons ha (ih hbs)

theorem Numbered.concat (has : Numbered carries succ n as d) (ha : carries a (succ d)) :
    Numbered carries succ n (as ++ [a]) (succ d) :=
  has.append (.cons ha (.nil _))

/-- The last number is the first one counted up once for every item. -/
theorem Numbered.stop_eq (h : Numbered carries succ n as d) : d = succ^[as.length] n := by
  induction h with
  | nil => rfl
  | cons _ _ ih => exact ih

theorem Numbered.get (h : Numbered carries succ n as d) {i : Nat} (hi : as[i]? = some a) :
    carries a (succ^[i + 1] n) := by
  induction h generalizing i with
  | nil => simp at hi
  | cons ha _ ih =>
      cases i with
      | zero =>
          obtain rfl := Option.some.inj hi
          exact ha
      | succ i => exact ih hi

end Numbering
