-- SUMMARY: The component types of the game.
import BeeRType.Ecs.Registry
import Mathlib.Data.Rat.Defs

/-!
# Components

The component types that `AGame::registerComponents` registers. Coordinates are
exact.
-/

namespace BeeRType

structure Position where
  x : ℚ
  y : ℚ
  deriving DecidableEq

structure Velocity where
  vx : ℚ
  vy : ℚ
  deriving DecidableEq

structure Collidable where
  isCollidable : Bool
  deriving DecidableEq

structure Projectile where
  speed : ℚ
  deriving DecidableEq

inductive Component where
  | position
  | velocity
  | drawable
  | controllable
  | collidable
  | projectile
  deriving DecidableEq, Repr

/-- `Drawable` holds a shape that only the window reads, and `Controllable`
nothing. The names are those of the Itanium ABI. -/
instance : ComponentKind Component where
  Value
    | .position => Position
    | .velocity => Velocity
    | .drawable => Unit
    | .controllable => Unit
    | .collidable => Collidable
    | .projectile => Projectile
  typeName
    | .position => "8Position"
    | .velocity => "8Velocity"
    | .drawable => "8Drawable"
    | .controllable => "12Controllable"
    | .collidable => "10Collidable"
    | .projectile => "10Projectile"

end BeeRType
