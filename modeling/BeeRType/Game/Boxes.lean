-- SUMMARY: The collision test of the game against the overlap of boxes and the test of the ECS.
import BeeRType.Base.Box
import BeeRType.Ecs.CollisionSystem
import BeeRType.Game.Effects

/-!
# Boxes

An object of the game takes up a box of 60 by 80. Before `Game::checkCollision` compares
the boxes, it wants the two positions to be further apart than the least distance, which
the boxes of two objects that nearly coincide are not.
-/

open Cpp

namespace BeeRType

/-- The box of every object of the game. -/
def gameHitbox : Hitbox := ⟨60, 80⟩

def GameObject.bounds (o : GameObject) : Set (ℚ × ℚ) :=
  box o.position.x o.position.y gameHitbox.width gameHitbox.height

namespace Game

variable {a b : GameObject}

/-- The square of the distance of two objects. -/
def distanceSq (a b : GameObject) : ℚ :=
  (a.position.x - b.position.x) ^ 2 + (a.position.y - b.position.y) ^ 2

/-- The test says whether the boxes overlap, as the test of the ECS does. -/
def TestsOverlap (a b : GameObject) : Prop :=
  (checkCollision a b 10 = true ↔ (a.bounds ∩ b.bounds).Nonempty) ∧
    checkCollision a b 10 = Hitbox.checkCollision a.position gameHitbox b.position gameHitbox

theorem hitbox_checkCollision_iff :
    Hitbox.checkCollision a.position gameHitbox b.position gameHitbox = true ↔
      (a.bounds ∩ b.bounds).Nonempty := by
  rw [GameObject.bounds, GameObject.bounds, box_inter_nonempty_iff (by norm_num [gameHitbox])
    (by norm_num [gameHitbox]) (by norm_num [gameHitbox]) (by norm_num [gameHitbox])]
  simp only [Hitbox.checkCollision, Bool.and_eq_true, decide_eq_true_eq, and_assoc]

/-- The test of the game is that of the ECS for objects that are far enough apart. -/
theorem checkCollision_eq : checkCollision a b 10 =
    (decide (10 ^ 2 < distanceSq a b) &&
      Hitbox.checkCollision a.position gameHitbox b.position gameHitbox) := by
  have hdistance : ((10 : ℚ) < 0 ∨ (10 : ℚ) ^ 2 < (a.position.x - b.position.x) ^ 2 +
      (a.position.y - b.position.y) ^ 2) ↔ 10 ^ 2 < distanceSq a b :=
    or_iff_right (by norm_num)
  unfold checkCollision
  dsimp only
  rw [if_congr hdistance rfl rfl]
  by_cases hfar : 10 ^ 2 < distanceSq a b
  · rw [if_pos hfar, decide_eq_true hfar, Bool.true_and]
    rfl
  · rw [if_neg hfar, decide_eq_false hfar, Bool.false_and]

/-- Objects that are not more than the least distance apart overlap. -/
theorem overlap_of_near (h : distanceSq a b ≤ 10 ^ 2) : (a.bounds ∩ b.bounds).Nonempty := by
  have hx : |a.position.x - b.position.x| ≤ 10 := by
    refine abs_le_of_sq_le_sq ?_ (by norm_num)
    exact (le_add_of_nonneg_right (sq_nonneg _)).trans h
  have hy : |a.position.y - b.position.y| ≤ 10 := by
    refine abs_le_of_sq_le_sq ?_ (by norm_num)
    exact (le_add_of_nonneg_left (sq_nonneg _)).trans h
  rw [abs_le] at hx hy
  rw [GameObject.bounds, GameObject.bounds, box_inter_nonempty_iff (by norm_num [gameHitbox])
    (by norm_num [gameHitbox]) (by norm_num [gameHitbox]) (by norm_num [gameHitbox])]
  simp only [gameHitbox]
  refine ⟨⟨?_, ?_⟩, ?_, ?_⟩ <;> linarith

/-- The test is one for overlap exactly between objects that are more than the least
distance apart. -/
theorem testsOverlap_iff (a b : GameObject) : TestsOverlap a b ↔ 10 ^ 2 < distanceSq a b := by
  rw [TestsOverlap, checkCollision_eq]
  by_cases hfar : 10 ^ 2 < distanceSq a b
  · rw [decide_eq_true hfar, Bool.true_and]
    exact iff_of_true ⟨hitbox_checkCollision_iff, rfl⟩ hfar
  · rw [decide_eq_false hfar, Bool.false_and]
    refine iff_of_false (fun h => ?_) hfar
    exact Bool.false_ne_true (h.1.mpr (overlap_of_near (not_lt.mp hfar)))

/-- Two objects in the same place are not seen to collide. -/
theorem not_testsOverlap_coinciding :
    ∃ a b : GameObject, a.position = ⟨0, 0⟩ ∧ b.position = ⟨0, 0⟩ ∧ ¬ TestsOverlap a b := by
  obtain ⟨o, ho⟩ := GameObject.exists_new (x := 0) (y := 0)
  have hposition := (GameObject.new_ok ho).2.1
  have hoverlap : (o.bounds ∩ o.bounds).Nonempty := overlap_of_near (by norm_num [distanceSq])
  refine ⟨o, o, hposition, hposition, fun h => ?_⟩
  have hcollides := h.1.mpr hoverlap
  norm_num [checkCollision] at hcollides

end Game

end BeeRType
