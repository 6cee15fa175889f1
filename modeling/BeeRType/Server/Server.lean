-- SUMMARY: The server's state and the functions of `Server.cpp`: receiving, packet creation, the client table, the send queue.
import BeeRType.Network.Packet
import Mathlib.Data.List.Basic
import Std.Data.ExtTreeMap

/-!
# Server

The state of `Server` and one definition per function of `Server.cpp`. The
datagrams handed to `async_send_to` are recorded in `sent`, oldest first.
-/

open Cpp Std

namespace BeeRType

structure ClientRegister where
  id : UInt64
  endpoint : Endpoint
  deriving DecidableEq, Repr

structure Server where
  clients : ExtTreeMap UInt32 ClientRegister
  nbClients : UInt32
  availableIds : List UInt32
  gameRunning : Bool
  remoteEndpoint : Endpoint
  packetQueue : List Packet
  sendQueue : List Bytes
  sequenceNumber : Int32
  sent : List (Endpoint × Bytes)

namespace Server

/-- A server as the constructor leaves it. -/
def new : Server where
  clients := ∅
  nbClients := 0
  availableIds := []
  gameRunning := false
  remoteEndpoint := ⟨0, 0⟩
  packetQueue := []
  sendQueue := []
  sequenceNumber := 0
  sent := []

/-! ## Messages -/

def sendToClient (s : Server) (message : Bytes) (clientEndpoint : Endpoint) : Server :=
  { s with sent := s.sent ++ [(clientEndpoint, message)] }

def broadcast (s : Server) (message : Bytes) : Server :=
  { s with sendQueue := s.sendQueue ++ [message] }

/-- `packet_str[0]` is a signed `char`, and `'\0'` on an empty text. -/
def deserializePacket (packetStr : Bytes) : Packet :=
  ⟨(packetStr.headD 0).toInt8.toInt⟩

/-- A completed receive. The source of a datagram is stored when it arrives, cut
or not; on any other error there is no datagram. -/
def handleReceive (s : Server) (error : ReceiveError) (source : Endpoint) (data : Bytes) : Server :=
  match error with
  | .success | .messageSize =>
    { s with
      remoteEndpoint := source
      packetQueue := s.packetQueue ++ [deserializePacket (data.take maxLength)] }
  | .operationAborted | .other => s

/-- The packet of the next number, and the server that has given it out. -/
def createPacket (s : Server) (type : PacketType) (data : Bytes) : Bytes × Server :=
  let packetData := if data = [] then str "-1;-1;-1;-1;-1" else data
  let s := { s with sequenceNumber := s.sequenceNumber + 1 }
  (type.byte :: str ";" ++ packetData ++ str ";" ++ toStringInt s.sequenceNumber.toInt, s)

/-- `Broadcast(createPacket(type, data))`. -/
def broadcastPacket (s : Server) (type : PacketType) (data : Bytes) : Server :=
  let (message, s) := s.createPacket type data
  s.broadcast message

/-- `send_to_client(createPacket(type, data), endpoint)`. -/
def sendPacket (s : Server) (type : PacketType) (data : Bytes) (endpoint : Endpoint) : Server :=
  let (message, s) := s.createPacket type data
  s.sendToClient message endpoint

/-! ## Commands -/

/-- The loop over `clients_` for an entry with the given endpoint. -/
def findClient (s : Server) (endpoint : Endpoint) : Option (UInt32 × ClientRegister) :=
  s.clients.toList.find? fun client => client.2.endpoint = endpoint

/-- The id for a new client: the longest free one, or a fresh one. -/
def takeId (s : Server) : UInt32 × Server :=
  match s.availableIds with
  | nb :: rest => (nb, { s with availableIds := rest })
  | [] => (s.nbClients, { s with nbClients := s.nbClients + 1 })

/-- `clients_.insert` keeps an entry that is already there. -/
def createClient (s : Server) (clientEndpoint : Endpoint) : UInt32 × Server :=
  match s.findClient clientEndpoint with
  | some client => (client.1, s)
  | none =>
    let (nb, s) := s.takeId
    (nb, { s with clients := s.clients.insertIfNew nb ⟨nb.toUInt64, clientEndpoint⟩ })

/-- `ReqConnect` and `DisconnectData`: an `int id`. -/
structure IdData where
  id : Int32
  deriving DecidableEq, Repr

def reqConnectData (s : Server) (clientEndpoint : Endpoint) : IdData × Server :=
  let (idClient, s) := s.createClient clientEndpoint
  let data : IdData := ⟨idClient.toInt32⟩
  if s.gameRunning then (data, s.sendPacket .gameStarted [] clientEndpoint)
  else (data, s.sendPacket .gameNotStarted [] clientEndpoint)

def disconnectData (s : Server) (clientEndpoint : Endpoint) : IdData × Server :=
  match s.findClient clientEndpoint with
  | some client =>
    -- The id goes through the `int` of `DisconnectData` before it is queued.
    let data : IdData := ⟨client.2.id.toUInt32.toInt32⟩
    (data, { s with
      availableIds := s.availableIds ++ [data.id.toUInt32]
      clients := s.clients.erase client.1 })
  | none => (⟨-1⟩, s.sendPacket .none [] clientEndpoint)

def sendPong (s : Server) : Server := s.broadcastPacket .heartbeat []

/-- A tick of the send timer: the oldest queued message goes to every client, in
the order of the ids. -/
def handleSendTimer (s : Server) : Server :=
  match s.sendQueue with
  | [] => s
  | message :: rest =>
    s.clients.toList.foldl (fun s client => s.sendToClient message client.2.endpoint)
      { s with sendQueue := rest }

/-- The send timer touches what is sent and what waits to be sent only. -/
theorem handleSendTimer_frame {α : Type} {f : Server → α} {s : Server}
    (hsend : ∀ s message e, f (s.sendToClient message e) = f s)
    (hqueue : ∀ s sendQueue, f { s with sendQueue := sendQueue } = f s) :
    f s.handleSendTimer = f s := by
  unfold handleSendTimer
  split
  · rfl
  · rename_i message rest _
    have hall : ∀ (clients : List (UInt32 × ClientRegister)) (s : Server),
        f (clients.foldl (fun s client => s.sendToClient message client.2.endpoint) s) = f s := by
      intro clients
      induction clients with
      | nil => exact fun s => rfl
      | cons client clients ih => exact fun s => (ih _).trans (hsend _ _ _)
    exact (hall _ _).trans (hqueue _ _)

end Server

end BeeRType
