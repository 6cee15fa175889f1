-- SUMMARY: Packet types, the packets waiting for the worker, and the five-field payloads the server sends.
import BeeRType.Base.Decimal

/-!
# Packets

`PacketType` is the enumeration shared by both programs. A client packet is one
type byte; a server packet is a type byte followed by a payload of five fields
and the packet's number, all separated by `;`.
-/

open Cpp

namespace BeeRType

/-- `udp::endpoint`: an IPv4 address and a port. -/
structure Endpoint where
  address : UInt32
  port : UInt16
  deriving DecidableEq, Repr

/-- The error codes that the receive handlers tell apart. -/
inductive ReceiveError where
  | success
  | messageSize
  | operationAborted
  | other
  deriving DecidableEq, Repr

/-- The size of the receive buffers: a longer datagram is cut. -/
def maxLength : Nat := 1024

inductive PacketType where
  | none
  | reqConnect
  | disconnected
  | gameStart
  | playerDead
  | playerJoin
  | playerShoot
  | gameEnd
  | playerRight
  | playerLeft
  | playerUp
  | playerDown
  | createEnemy
  | createBoss
  | createPlayer
  | createBullet
  | change
  | gameStarted
  | gameNotStarted
  | uiUpdate
  | destroyPlayer
  | destroyEnemy
  | destroyBoss
  | destroyBullet
  | heartbeat
  deriving DecidableEq, Repr

namespace PacketType

/-- The value of the enumerator. -/
def code : PacketType → Nat
  | none => 0
  | reqConnect => 1
  | disconnected => 2
  | gameStart => 3
  | playerDead => 4
  | playerJoin => 5
  | playerShoot => 6
  | gameEnd => 15
  | playerRight => 16
  | playerLeft => 17
  | playerUp => 18
  | playerDown => 19
  | createEnemy => 22
  | createBoss => 23
  | createPlayer => 24
  | createBullet => 25
  | change => 29
  | gameStarted => 30
  | gameNotStarted => 31
  | uiUpdate => 34
  | destroyPlayer => 35
  | destroyEnemy => 36
  | destroyBoss => 37
  | destroyBullet => 38
  | heartbeat => 99

/-- The enumerator with a given value, if there is one. -/
def ofCode? : Int → Option PacketType
  | 0 => some none
  | 1 => some reqConnect
  | 2 => some disconnected
  | 3 => some gameStart
  | 4 => some playerDead
  | 5 => some playerJoin
  | 6 => some playerShoot
  | 15 => some gameEnd
  | 16 => some playerRight
  | 17 => some playerLeft
  | 18 => some playerUp
  | 19 => some playerDown
  | 22 => some createEnemy
  | 23 => some createBoss
  | 24 => some createPlayer
  | 25 => some createBullet
  | 29 => some change
  | 30 => some gameStarted
  | 31 => some gameNotStarted
  | 34 => some uiUpdate
  | 35 => some destroyPlayer
  | 36 => some destroyEnemy
  | 37 => some destroyBoss
  | 38 => some destroyBullet
  | 99 => some heartbeat
  | _ => Option.none

@[simp] theorem ofCode?_code (t : PacketType) : ofCode? t.code = some t := by
  cases t <;> rfl

theorem code_injective : Function.Injective code := by
  intro t u h
  have ht := ofCode?_code t
  rw [h, ofCode?_code] at ht
  exact (Option.some.inj ht).symm

/-- `static_cast<uint8_t>(type)`, the first byte of a packet. -/
def byte (t : PacketType) : UInt8 := t.code.toUInt8

theorem toNat_byte (t : PacketType) : t.byte.toNat = t.code := by
  cases t <;> rfl

theorem byte_ne_heartbeat {t : PacketType} (ht : t ≠ heartbeat) : t.byte ≠ heartbeat.byte := by
  intro h
  apply ht
  apply code_injective
  rw [← t.toNat_byte, h, toNat_byte]

/-- The packet announces a new object. -/
def isCreate : PacketType → Bool
  | createPlayer | createEnemy | createBoss | createBullet => true
  | _ => false

end PacketType

/-- A packet in the queue of the worker. `type` is the value cast to the
enumeration, whether or not it names an enumerator; the server fills no other
field. -/
structure Packet where
  type : Int
  deriving DecidableEq, Repr

/-- The packet type a queued packet carries. -/
def Packet.kind (p : Packet) : Option PacketType := PacketType.ofCode? p.type

/-- The data of a server packet: the text fields that the call sites join with
`";"`. -/
structure Payload where
  f1 : Bytes
  f2 : Bytes
  f3 : Bytes
  f4 : Bytes
  f5 : Bytes
  deriving DecidableEq, Repr

namespace Payload

def fields (p : Payload) : List Bytes := [p.f1, p.f2, p.f3, p.f4, p.f5]

/-- The payload as the text passed to `createPacket`. -/
def data (p : Payload) : Bytes :=
  p.f1 ++ str ";" ++ p.f2 ++ str ";" ++ p.f3 ++ str ";" ++ p.f4 ++ str ";" ++ p.f5

theorem data_ne_nil (p : Payload) : p.data ≠ [] := by
  simp [data, str]

end Payload

/-- A call `Broadcast(createPacket(type, data))` with a payload of five fields. -/
structure Message where
  type : PacketType
  payload : Payload
  deriving DecidableEq, Repr

end BeeRType
