-- SUMMARY: The client's state and the functions of `Client.cpp`: sending, receiving, parsing, and the heartbeat.
import BeeRType.Base.FloatText
import BeeRType.Network.Packet

/-!
# Client

The state of `Client` without its window and scenes, and one definition per
function of `Client.cpp` that works on it. Times are in microseconds. The
datagrams handed to `async_send_to` are recorded in `sent`, oldest first.
-/

open Cpp

namespace BeeRType

/-- The mailbox between the receive thread and the scenes. -/
structure PacketData where
  action : Int
  serverId : Int32
  newX : FloatValue
  newY : FloatValue
  newVx : FloatValue
  newVy : FloatValue
  deriving DecidableEq

structure LagMeter where
  packetsLost : ℚ
  ping : ℚ
  deriving DecidableEq

structure Client where
  packetData : PacketData
  lagMeter : LagMeter
  serverEndpoint : Endpoint
  receivedData : Bytes
  mutexLocked : Bool
  sendQueue : List Bytes
  lastPacketnb : Int32
  packetsSent : Int
  packetsReceived : Int
  heartbeatStartTime : ℚ
  awaiting : Bool
  lastResponseTime : ℚ
  /-- The static `lastResetTime` of `resetPacketLoss`, set by its first call. -/
  lastResetTime : Option ℚ
  sent : List (Endpoint × Bytes)

namespace Client

/-- A client as the constructor leaves it. The constructor does not set the
mailbox. -/
def new (packetData : PacketData) (serverEndpoint : Endpoint) (now : ℚ) : Client where
  packetData := packetData
  lagMeter := ⟨0, 0⟩
  serverEndpoint := serverEndpoint
  receivedData := []
  mutexLocked := false
  sendQueue := []
  lastPacketnb := 0
  packetsSent := 0
  packetsReceived := 0
  heartbeatStartTime := 0
  awaiting := false
  lastResponseTime := now
  lastResetTime := none
  sent := []

/-! ## Sending -/

def createPacket (type : PacketType) : Bytes := [type.byte]

def send (c : Client) (message : Bytes) : Client :=
  { c with
    packetsSent := c.packetsSent + 1
    sent := c.sent ++ [(c.serverEndpoint, message)] }

/-- The completion of a send. -/
def handleSend (c : Client) (error : Bool) : Client :=
  if error then { c with lagMeter.packetsLost := c.lagMeter.packetsLost + 1 } else c

def handleSendTimer (c : Client) : Client :=
  match c.sendQueue with
  | [] => c
  | message :: rest => { c with sendQueue := rest }.send message

/-! ## Parsing -/

/-- The elements of a payload, none of them unless there are six. -/
def deserialisePacket (packetInside : Bytes) : List Bytes :=
  let elements := getlines 59 packetInside
  if elements.length ≠ 6 then [] else elements

/-- `handleHeartBeat`: the time since the last ping was queued, in
milliseconds. -/
def handleHeartBeat (c : Client) (now : ℚ) : Client :=
  { c with lagMeter.ping := (now - c.heartbeatStartTime) / 1000 }

/-- A conversion inside the `try` block of `parseMessage`. If it throws, the block
is left with what has been assigned before. -/
def tryAssign {α : Type} (c : Client) (value : Except StdException α) (rest : α → Client) : Client :=
  match value with
  | .error _ => c
  | .ok a => rest a

/-- The last conversion of the `try` block: the packet's number against the last
one. -/
def checkPacketnb (c : Client) (packetnb : Int32) : Client :=
  let c :=
    if packetnb - c.lastPacketnb ≠ 1 then
      { c with lagMeter.packetsLost := ((packetnb - c.lastPacketnb - 1).toInt : ℚ) }
    else c
  { c with lastPacketnb := packetnb }

/-- The `try` block of `parseMessage`. -/
def parseElements (c : Client) (packetType : UInt8) (elements : List Bytes) : Client :=
  let c := { c with packetData.action := packetType.toNat }
  c.tryAssign (stoi (elements.getD 0 [])) fun serverId =>
  let c := { c with packetData.serverId := serverId }
  c.tryAssign (stof (elements.getD 1 [])) fun newX =>
  let c := { c with packetData.newX := newX }
  c.tryAssign (stof (elements.getD 2 [])) fun newY =>
  let c := { c with packetData.newY := newY }
  c.tryAssign (stof (elements.getD 3 [])) fun newVx =>
  let c := { c with packetData.newVx := newVx }
  c.tryAssign (stof (elements.getD 4 [])) fun newVy =>
  let c := { c with packetData.newVy := newVy }
  c.tryAssign (stoi (elements.getD 5 [])) fun packetnb =>
  c.checkPacketnb packetnb

/-- `substr(2)` throws on a text of one byte, outside of the `try` block. -/
def parseMessage (c : Client) (now : ℚ) : Except StdException Client :=
  match c.receivedData with
  | [] => .ok c
  | [_] => .error (.outOfRange "basic_string::substr")
  | packetType :: _ :: packetInside =>
    let elements := deserialisePacket packetInside
    if elements = [] then .ok c
    else if packetType = PacketType.heartbeat.byte then
      .ok { c.handleHeartBeat now with awaiting := false, lastResponseTime := now }
    else .ok (c.parseElements packetType elements)

/-- The number that `parseMessage` compares with `last_packetnb_`, if it gets
that far. -/
def comparedNumber : Bytes → Option Int32
  | packetType :: _ :: packetInside =>
    let elements := deserialisePacket packetInside
    if elements = [] ∨ packetType = PacketType.heartbeat.byte then none
    else do
      let _ ← (stoi (elements.getD 0 [])).toOption
      let _ ← (stof (elements.getD 1 [])).toOption
      let _ ← (stof (elements.getD 2 [])).toOption
      let _ ← (stof (elements.getD 3 [])).toOption
      let _ ← (stof (elements.getD 4 [])).toOption
      let packetnb ← (stoi (elements.getD 5 [])).toOption
      some packetnb
  | _ => none

/-- A packet that `parseMessage` reads to its end: not a heartbeat, and every
conversion succeeds. -/
def WellFormed (data : Bytes) : Prop := (comparedNumber (data.take maxLength)).isSome = true

instance (data : Bytes) : Decidable (WellFormed data) :=
  inferInstanceAs (Decidable ((comparedNumber (data.take maxLength)).isSome = true))

/-! ## Receiving -/

/-- A completed receive, which takes the mutex and leaves it taken. The source of
a datagram is stored in the endpoint that the client sends to. -/
def handleReceive (c : Client) (now : ℚ) (error : ReceiveError) (source : Endpoint) (data : Bytes) :
    Except StdException Client :=
  match error with
  | .success | .messageSize =>
    parseMessage { c with
      serverEndpoint := source
      mutexLocked := true
      packetsReceived := c.packetsReceived + 1
      receivedData := data.take maxLength } now
  | .operationAborted | .other => .ok c

/-! ## Heartbeat -/

def sendHeartBeat (c : Client) (now : ℚ) : Client :=
  if c.awaiting then c
  else { c with
    heartbeatStartTime := now
    sendQueue := c.sendQueue ++ [createPacket .heartbeat]
    awaiting := true }

def checkTimeout (c : Client) (now : ℚ) : Client :=
  if c.awaiting ∧ 5000 < (now - c.lastResponseTime) / 1000 then { c with awaiting := false } else c

/-- The packet loss in percent, and the client after the call. -/
def resetPacketLoss (c : Client) (now : ℚ) : ℚ × Client :=
  let lastResetTime := c.lastResetTime.getD now
  let c := { c with lastResetTime := some lastResetTime }
  let c :=
    if 10 ≤ (now - lastResetTime) / 1000000 then
      { c with lagMeter.packetsLost := 0, lastResetTime := some now }
    else c
  let totalPackets : ℚ := c.packetsSent + c.packetsReceived
  let packetLoss := if 0 < totalPackets then c.lagMeter.packetsLost / totalPackets * 100 else 0
  (max 0 packetLoss, c)

/-- A tick of the heartbeat timer that `schedulePing` arms. -/
def handlePingTimer (c : Client) (now : ℚ) : Client :=
  let c := (c.sendHeartBeat now).checkTimeout now
  let (packetLoss, c) := c.resetPacketLoss now
  { c with lagMeter.packetsLost := packetLoss }

end Client

end BeeRType
