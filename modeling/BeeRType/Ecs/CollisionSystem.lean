-- SUMMARY: The collision system of the ECS: the test between two positions with hitboxes, and the pass over all pairs that kills.
import BeeRType.Ecs.Components

/-!
# The collision system

The test that `CollisionSystem.hpp` decides collisions by, and the pass that applies
it to all pairs. A `Hitbox` is what the test reads of it. The loops hold references to
slots of the arrays, and `kill_entity` empties slots: a slot that is dereferenced may
be empty by then.
-/

open Cpp

namespace BeeRType

structure Hitbox where
  width : ℚ
  height : ℚ
  deriving DecidableEq

/-- `checkCollision` of `CollisionSystem.hpp`. -/
def Hitbox.checkCollision (pos1 : Position) (hitbox1 : Hitbox) (pos2 : Position) (hitbox2 : Hitbox) :
    Bool :=
  decide (pos1.x < pos2.x + hitbox2.width) &&
    decide (pos2.x < pos1.x + hitbox1.width) &&
    decide (pos1.y < pos2.y + hitbox2.height) &&
    decide (pos2.y < pos1.y + hitbox1.height)

/-! ## Components with a hitbox -/

/-- A `Collidable` as the system reads it. -/
structure HitCollidable where
  isCollidable : Bool
  hitbox : Hitbox
  deriving DecidableEq

/-- The component types of a registry whose `Collidable` has a hitbox. -/
inductive HitComponent where
  | position
  | velocity
  | drawable
  | controllable
  | collidable
  | projectile
  deriving DecidableEq, Repr

instance : ComponentKind HitComponent where
  Value
    | .position => Position
    | .velocity => Velocity
    | .drawable => Unit
    | .controllable => Unit
    | .collidable => HitCollidable
    | .projectile => Projectile
  typeName
    | .position => "8Position"
    | .velocity => "8Velocity"
    | .drawable => "8Drawable"
    | .controllable => "12Controllable"
    | .collidable => "10Collidable"
    | .projectile => "10Projectile"

/-! ## The system -/

/-- An empty slot is dereferenced, which is undefined. -/
inductive EmptySlot where
  | dereferenced
  deriving DecidableEq, Repr

/-- A pair that the system reports, and the calls of `kill_entity` for it, in order. -/
structure Encounter where
  first : Nat
  second : Nat
  killed : List Nat
  deriving DecidableEq, Repr

/-- The registry during a call, and the pairs reported so far, in order. -/
structure CollisionPass where
  registry : Registry HitComponent
  encounters : List Encounter

/-- A registry with the calls of `kill_entity` for a pair. -/
structure Kills where
  registry : Registry HitComponent
  killed : List Nat

namespace Kills

/-- Whether `array[e]` holds a component; `operator[]` makes the slot. -/
def slot (s : Kills) (k : HitComponent) (e : Nat) : Bool × Kills :=
  ((s.registry.component? k e).isSome, { s with registry := s.registry.growTo k e })

/-- `array[i] || array[j]`. -/
def either (s : Kills) (k : HitComponent) (i j : Nat) : Bool × Kills :=
  let (found, s) := s.slot k i
  if found then (true, s) else s.slot k j

def kill (s : Kills) (e : Nat) : Kills := ⟨s.registry.killEntity e, s.killed ++ [e]⟩

/-- `if (controllables[i] || controllables[j])`. -/
def killControllable (s : Kills) (i j : Nat) : Kills :=
  let (found, s) := s.either .controllable i j
  if found then
    let (first, s) := s.slot .controllable i
    s.kill (if first then i else j)
  else s

/-- `if (projectiles[i] || projectiles[j])`, and its `else`. -/
def killPair (s : Kills) (i j : Nat) : Kills :=
  let (shot, s) := s.either .projectile i j
  if shot then
    let (first, s) := s.slot .projectile i
    let s := s.kill (if first then j else i)
    let (first, s) := s.slot .projectile i
    s.kill (if first then i else j)
  else
    let (controlled, s) := s.either .controllable i j
    if controlled then s else (s.kill i).kill j

end Kills

namespace CollisionPass

/-- A collision is recorded, and the pair is dealt with. -/
def collide (p : CollisionPass) (i j : Nat) : CollisionPass :=
  let s := (Kills.killControllable ⟨p.registry, []⟩ i j).killPair i j
  ⟨s.registry, p.encounters ++ [⟨i, j, s.killed⟩]⟩

/-- A turn of the inner loop. `pos` and `collidable` are references to slots that may
have been emptied since the loop began. -/
def innerTurn (i : Nat) (p : CollisionPass) (j : Nat) : Except EmptySlot CollisionPass :=
  match (p.registry.component? .position j : Option Position),
    (p.registry.component? .collidable j : Option HitCollidable) with
  | some otherPos, some otherCollidable =>
    if otherCollidable.isCollidable then
      match (p.registry.component? .position i : Option Position),
        (p.registry.component? .collidable i : Option HitCollidable) with
      | some pos, some collidable =>
        if Hitbox.checkCollision pos collidable.hitbox otherPos otherCollidable.hitbox then
          .ok (p.collide i j)
        else .ok p
      | _, _ => .error .dereferenced
    else .ok p
  | _, _ => .ok p

/-- A turn of the outer loop, over arrays of which the shorter one has `n` slots. -/
def outerTurn (n : Nat) (p : CollisionPass) (i : Nat) : Except EmptySlot CollisionPass :=
  match (p.registry.component? .position i : Option Position),
    (p.registry.component? .collidable i : Option HitCollidable) with
  | some _, some collidable =>
    if collidable.isCollidable then (List.range' (i + 1) (n - (i + 1))).foldlM (innerTurn i) p
    else .ok p
  | _, _ => .ok p

end CollisionPass

/-- `collisionSystem`, called on the registry's own arrays. It grows the arrays of
`Controllable` and `Projectile` only, and a kill changes no size. -/
def collisionSystem (r : Registry HitComponent) :
    Except StdException (Except EmptySlot CollisionPass) := do
  let positions ← r.getComponents .position
  let collidables ← r.getComponents .collidable
  let _ ← r.getComponents .controllable
  let _ ← r.getComponents .projectile
  let n := min positions.size collidables.size
  pure ((List.range n).foldlM (CollisionPass.outerTurn n) ⟨r, []⟩)

end BeeRType
