-- SUMMARY: The position system of the ECS, which moves copies of the positions, and when nothing is lost by that.
import BeeRType.Ecs.Components
import Mathlib.Algebra.Order.Ring.Rat

/-!
# The position system

`positionSystem` walks over two sparse arrays side by side. Its locals are
declared with `auto`, so each of them is a copy of a slot: the addition is done to
the copy, and nothing writes it back.
-/

namespace BeeRType

/-- The two arrays, and the locals of the turn that comes last. -/
structure PositionPass where
  positions : SparseArray Position
  velocities : SparseArray Velocity
  pos : Option Position
  vel : Option Velocity

namespace PositionPass

/-- `auto pos = positions[i]; auto vel = velocities[i];` -/
def load (p : PositionPass) (i : Nat) : PositionPass where
  positions := p.positions.reserve i
  velocities := p.velocities.reserve i
  pos := p.positions.get? i
  vel := p.velocities.get? i

/-- One turn of the loop. -/
def turn (p : PositionPass) (i : Nat) : PositionPass :=
  let p := p.load i
  match p.pos, p.vel with
  | some pos, some vel => { p with pos := some ⟨pos.x + vel.vx, pos.y + vel.vy⟩ }
  | _, _ => p

end PositionPass

/-- The arrays that `positionSystem` is called on. -/
structure MovingArrays where
  positions : SparseArray Position
  velocities : SparseArray Velocity

/-- `positionSystem`. A slot that is there is not grown into, so the sizes stay. -/
def positionSystem (a : MovingArrays) : MovingArrays :=
  let p := (List.range (min a.positions.size a.velocities.size)).foldl PositionPass.turn
    ⟨a.positions, a.velocities, none, none⟩
  ⟨p.positions, p.velocities⟩

namespace MovingArrays

/-- A slot of the positions after `k` steps of the velocity next to it, if there is
one. -/
def movedBy (k : Nat) : Option Position → Option Velocity → Option Position
  | some pos, some vel => some ⟨pos.x + k * vel.vx, pos.y + k * vel.vy⟩
  | pos, _ => pos

/-- Every number of successive calls moves the positions with a velocity by as many
times the velocity, and leaves the other slots and the velocities alone. -/
structure Integrates (a : MovingArrays) : Prop where
  positions : ∀ k i, (positionSystem^[k] a).positions.get? i =
    movedBy k (a.positions.get? i) (a.velocities.get? i)
  velocities : ∀ k, (positionSystem^[k] a).velocities = a.velocities

/-- Nothing moves: a velocity next to a position is zero. -/
def AtRest (a : MovingArrays) : Prop :=
  ∀ i pos vel, a.positions.get? i = some pos → a.velocities.get? i = some vel → vel = ⟨0, 0⟩

end MovingArrays

/-! ## What a pass does -/

variable {p : PositionPass} {a : MovingArrays} {i : Nat}

/-- A turn ends with other locals only. -/
theorem PositionPass.turn_arrays (hp : i < p.positions.size) (hv : i < p.velocities.size) :
    (p.turn i).positions = p.positions ∧ (p.turn i).velocities = p.velocities := by
  have hload : (p.load i).positions = p.positions ∧ (p.load i).velocities = p.velocities :=
    ⟨SparseArray.reserve_of_lt hp, SparseArray.reserve_of_lt hv⟩
  simp only [turn]
  split <;> exact hload

theorem PositionPass.turns_arrays (is : List Nat)
    (his : ∀ i ∈ is, i < p.positions.size ∧ i < p.velocities.size) :
    (is.foldl turn p).positions = p.positions ∧ (is.foldl turn p).velocities = p.velocities := by
  induction is generalizing p with
  | nil => exact ⟨rfl, rfl⟩
  | cons i is ih =>
      obtain ⟨hp, hv⟩ := his i List.mem_cons_self
      obtain ⟨hpositions, hvelocities⟩ := turn_arrays hp hv
      have hrest := ih (p := p.turn i) fun j hj => by
        rw [hpositions, hvelocities]
        exact his j (List.mem_cons_of_mem _ hj)
      rwa [hpositions, hvelocities] at hrest

theorem positionSystem_eq_self (a : MovingArrays) : positionSystem a = a := by
  obtain ⟨hpositions, hvelocities⟩ := PositionPass.turns_arrays
    (p := ⟨a.positions, a.velocities, none, none⟩)
    (List.range (min a.positions.size a.velocities.size))
    fun i hi => lt_min_iff.mp (List.mem_range.mp hi)
  simp only [positionSystem, hpositions, hvelocities]

theorem iterate_positionSystem (k : Nat) : positionSystem^[k] a = a :=
  Function.iterate_fixed (positionSystem_eq_self a) k

namespace MovingArrays

theorem movedBy_eq_self {k : Nat} {pos : Option Position} {vel : Option Velocity}
    (h : ∀ v, pos.isSome → vel = some v → v = ⟨0, 0⟩) : movedBy k pos vel = pos := by
  cases pos with
  | none => rfl
  | some pos =>
      cases vel with
      | none => rfl
      | some vel =>
          obtain rfl := h vel rfl rfl
          simp [movedBy]

/-- The calls integrate the velocities exactly if there is nothing to integrate. -/
theorem integrates_iff_atRest (a : MovingArrays) : a.Integrates ↔ a.AtRest := by
  constructor
  · intro h i pos vel hpos hvel
    have hmoved := h.positions 1 i
    rw [iterate_positionSystem, hpos, hvel] at hmoved
    obtain ⟨hx, hy⟩ := Position.mk.inj (Option.some.inj hmoved)
    cases vel
    simp only [Nat.cast_one, one_mul, left_eq_add] at hx hy
    rw [hx, hy]
  · intro h
    refine ⟨fun k i => ?_, fun k => by rw [iterate_positionSystem]⟩
    rw [iterate_positionSystem, movedBy_eq_self]
    intro v hsome hvel
    obtain ⟨pos, hpos⟩ := Option.isSome_iff_exists.mp hsome
    exact h i pos v hpos hvel

/-- An entity at the origin with the velocity (1, 0) stays there. -/
theorem not_integrates : ¬ Integrates ⟨⟨[some ⟨0, 0⟩]⟩, ⟨[some ⟨1, 0⟩]⟩⟩ := by
  intro h
  have hmoved := h.positions 1 0
  exact absurd hmoved (by decide +kernel)

end MovingArrays

end BeeRType
