-- SUMMARY: Axis-aligned boxes in the plane, and when two of them overlap.
import Mathlib.Algebra.Order.Field.Basic
import Mathlib.Data.Set.Prod
import Mathlib.Order.Interval.Set.LinearOrder
import Mathlib.Tactic.Linarith

/-!
# Boxes

A box is given by its upper left corner, its width and its height. Two boxes overlap if
they have a point in common that is on the edge of neither.
-/

variable {K : Type*} [Field K] [LinearOrder K] [IsStrictOrderedRing K]

/-- The inside of a box. -/
def box (x y width height : K) : Set (K × K) :=
  Set.Ioo x (x + width) ×ˢ Set.Ioo y (y + height)

variable {x x' y y' w w' h h' : K}

/-- Two intervals have a point in common exactly if each of them starts before the other
ends. -/
theorem Ioo_inter_nonempty_iff (hw : 0 < w) (hw' : 0 < w') :
    (Set.Ioo x (x + w) ∩ Set.Ioo x' (x' + w')).Nonempty ↔ x < x' + w' ∧ x' < x + w := by
  rw [Set.Ioo_inter_Ioo, Set.nonempty_Ioo, max_lt_iff, lt_min_iff, lt_min_iff]
  constructor
  · rintro ⟨⟨-, hx⟩, hx', -⟩
    exact ⟨hx, hx'⟩
  · rintro ⟨hx, hx'⟩
    exact ⟨⟨lt_add_of_pos_right x hw, hx⟩, hx', lt_add_of_pos_right x' hw'⟩

theorem box_inter_nonempty_iff (hw : 0 < w) (hw' : 0 < w') (hh : 0 < h) (hh' : 0 < h') :
    (box x y w h ∩ box x' y' w' h').Nonempty ↔
      (x < x' + w' ∧ x' < x + w) ∧ y < y' + h' ∧ y' < y + h := by
  rw [box, box, Set.prod_inter_prod, Set.prod_nonempty_iff, Ioo_inter_nonempty_iff hw hw',
    Ioo_inter_nonempty_iff hh hh']
