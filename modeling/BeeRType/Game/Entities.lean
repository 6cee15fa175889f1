-- SUMMARY: The objects of the game: players, bullets, enemies and bosses, each with its own registry.
import BeeRType.Base.Fallible
import BeeRType.Ecs.Components
import Mathlib.Tactic.Linarith

/-!
# Entities

A `Player`, `Bullet`, `Enemy` or `Boss` holds a copy of the registry it was made
from and one entity of that copy. Their constructors add a `Position` to the
entity, which is why an object always has one.
-/

open Cpp

namespace BeeRType

/-- What the four classes have in common. -/
structure GameObject where
  registry : Registry Component
  entity : Nat
  located : (registry.component? .position entity).isSome = true

namespace GameObject

/-- The body of the four constructors: `registry` is passed by value. -/
def new (registry : Registry Component) (x y : ℚ) : Except StdException GameObject :=
  let spawned := registry.spawnEntity
  match h : spawned.2.addComponent .position spawned.1 (⟨x, y⟩ : Position) with
  | .error e => .error e
  | .ok registry => .ok ⟨registry, spawned.1, by simp [Registry.component?_addComponent h]⟩

/-- `getRegistry().get_components<Position>()[getEntity()]`. -/
def position (o : GameObject) : Position := (o.registry.component? .position o.entity).get o.located

def move (o : GameObject) (x y : ℚ) : GameObject :=
  if o.registry.hasComponent .position o.entity then
    { o with
      registry := o.registry.modifyComponent .position o.entity
        fun pos : Position => ⟨pos.x + x, pos.y + y⟩
      located := by
        rw [Registry.component?_modifyComponent, Option.isSome_map]
        exact o.located }
  else o

variable {registry : Registry Component} {o : GameObject} {x y : ℚ}

/-- What a constructor that does not throw has made. -/
theorem new_ok (h : new registry x y = .ok o) :
    o.entity = registry.spawnEntity.1 ∧ o.position = ⟨x, y⟩ ∧
      registry.spawnEntity.2.entityExists registry.spawnEntity.1 = true := by
  unfold new at h
  dsimp only at h
  split at h
  · cases h
  · rename_i r hadd
    cases h
    refine ⟨rfl, ?_, ?_⟩
    · simp only [position, Registry.component?_addComponent hadd, Option.get_some]
    · by_contra hexists
      simp [Registry.addComponent, hexists] at hadd

theorem hasComponent_new (h : new registry x y = .ok o) :
    o.registry.hasComponent .position o.entity = true := by
  refine Registry.hasComponent_iff.mpr ⟨?_, o.located⟩
  obtain ⟨hentity, -, hexists⟩ := new_ok h
  unfold new at h
  dsimp only at h
  split at h
  · cases h
  · rename_i r hadd
    cases h
    rw [Registry.entityExists_addComponent hadd]
    exact hexists

@[simp] theorem move_entity : (o.move x y).entity = o.entity := by
  unfold move
  split <;> rfl

theorem position_move : (o.move x y).position =
    if o.registry.hasComponent .position o.entity then ⟨o.position.x + x, o.position.y + y⟩
    else o.position := by
  unfold move
  split
  · simp only [position, Registry.component?_modifyComponent, Option.get_map]
  · rfl

end GameObject

abbrev Bullet : Type := GameObject
abbrev Enemy : Type := GameObject
abbrev Boss : Type := GameObject

/-- `Bullet::Bullet`, which leaves its `id` and `speed` unread. -/
def Bullet.new (registry : Registry Component) (x y : ℚ) : Except StdException Bullet :=
  GameObject.new registry x y

def Enemy.new (registry : Registry Component) (x y : ℚ) : Except StdException Enemy :=
  GameObject.new registry x y

def Boss.new (registry : Registry Component) (x y : ℚ) : Except StdException Boss :=
  GameObject.new registry x y

structure Player extends GameObject where
  hp : ℚ
  score : ℚ

namespace Player

def new (registry : Registry Component) (x y : ℚ) : Except StdException Player := do
  let object ← GameObject.new registry x y
  pure { object with hp := 0, score := 0 }

def move (p : Player) (x y : ℚ) : Player := { p with toGameObject := p.toGameObject.move x y }

def updateHp (p : Player) (amount : ℚ) : Player := { p with hp := p.hp + amount }

def updateScore (p : Player) (amount : ℚ) : Player := { p with score := p.score + amount }

end Player

end BeeRType
