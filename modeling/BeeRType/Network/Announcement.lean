-- SUMMARY: The packets that announce objects: which class of objects a packet type creates or destroys.
import BeeRType.Base.Replay
import BeeRType.Network.Packet

/-!
# Announcements

Objects are announced to the clients class by class: a CREATE packet and a DESTROY
packet of the class, each with the id of the object. A stream of packets is read
as one log of changes for every class.
-/

open Cpp Replay

namespace BeeRType

/-- The four classes of objects, each with ids of its own. -/
inductive ObjectClass where
  | player
  | enemy
  | boss
  | bullet
  deriving DecidableEq, Repr

namespace ObjectClass

def createType : ObjectClass → PacketType
  | player => .createPlayer
  | enemy => .createEnemy
  | boss => .createBoss
  | bullet => .createBullet

def destroyType : ObjectClass → PacketType
  | player => .destroyPlayer
  | enemy => .destroyEnemy
  | boss => .destroyBoss
  | bullet => .destroyBullet

/-- What a packet with a type and an id says about the objects of a class. -/
def announces {κ : Type} (c : ObjectClass) (type : PacketType) (id : κ) : Option (Change κ) :=
  if type = c.createType then some (.create id)
  else if type = c.destroyType then some (.destroy id)
  else none

variable {κ : Type} {c c' : ObjectClass} {type : PacketType} {id : κ}

@[simp] theorem announces_createType : c.announces c'.createType id =
    if c = c' then some (.create id) else none := by
  cases c <;> cases c' <;> rfl

@[simp] theorem announces_destroyType : c.announces c'.destroyType id =
    if c = c' then some (.destroy id) else none := by
  cases c <;> cases c' <;> rfl

end ObjectClass

/-- What a stream of messages says about the objects of a class. -/
def announced (c : ObjectClass) (messages : List Message) : List (Change Bytes) :=
  messages.filterMap fun m => c.announces m.type m.payload.f1

end BeeRType
