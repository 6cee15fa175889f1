-- SUMMARY: The stored objects of a game by class, and the functions that look objects up by their entity: the kill functions and `getEntityRegistry`.
import BeeRType.Game.Loop
import BeeRType.Network.Announcement

/-!
# Objects

The four maps of a game seen as one list of objects, in the order in which
`getEntityRegistry` looks through them. The kill functions and
`getEntityRegistry` know an object by its entity and not by its id.
-/

open Cpp Std

namespace BeeRType

namespace Game

/-- The objects of a class in the order of their ids. -/
def objectsOf (g : Game) : ObjectClass → List (Int × GameObject)
  | .player => g.playerObjects
  | .enemy => g.enemies.toList
  | .bullet => g.bullets.toList
  | .boss => g.bosses.toList

/-- All stored objects with their class and id. -/
def objects (g : Game) : List ((ObjectClass × Int) × GameObject) :=
  [ObjectClass.player, .enemy, .bullet, .boss].flatMap fun c =>
    (g.objectsOf c).map fun o => ((c, o.1), o.2)

/-- The four `std::find_if` of `getEntityRegistry`. -/
def findEntity (g : Game) (entity : Nat) : Option ((ObjectClass × Int) × GameObject) :=
  g.objects.find? fun o => o.2.entity = entity

def getEntityRegistry (g : Game) (entity : Nat) : Except StdException (Registry Component) :=
  match g.findEntity entity with
  | some o => .ok o.2.registry
  | none => .error (.runtimeError "Entity not found in any registry.")

/-! ## Killing -/

/-- An `int` that is compared with a `std::size_t`. -/
def toSize (n : Int) : Nat := (n % 2 ^ 64).toNat

/-- The loop of a kill function over one map: the id of the first object with the
entity. -/
def findIn (g : Game) (c : ObjectClass) (entity : Nat) : Option Int :=
  ((g.objectsOf c).find? fun o => o.2.entity = entity).map fun o => o.1

/-- What the kill functions do in common with an object that has been found. -/
def killFound (g : Game) (c : ObjectClass) (entityId : Int) : Game :=
  { g with registry := g.registry.killEntity (toSize entityId) }.broadcast c.destroyType
    ⟨toStringInt entityId, str "0", str "0", str "0", str "0"⟩

def killPlayers (g : Game) (entityId : Int) : Game :=
  match g.findIn .player (toSize entityId) with
  | some id => { g with players := g.players.erase id }.killFound .player entityId
  | none => g

def killBullets (g : Game) (entityId : Int) : Game :=
  match g.findIn .bullet (toSize entityId) with
  | some id => { g with bullets := g.bullets.erase id }.killFound .bullet entityId
  | none => g

/-- The enemy stays in the map. -/
def killEnemies (g : Game) (entityId : Int) : Game :=
  match g.findIn .enemy (toSize entityId) with
  | some _ => g.killFound .enemy entityId
  | none => g

/-- The boss stays in the map. -/
def killBosses (g : Game) (entityId : Int) : Game :=
  match g.findIn .boss (toSize entityId) with
  | some _ => g.killFound .boss entityId
  | none => g

def killEntity (g : Game) (entityId : Int) : Game := (g.killPlayers entityId).killBullets entityId

end Game

end BeeRType
