-- SUMMARY: For whom a packet is handled: the sender of a queued packet, and when the shared endpoint is its own.
import BeeRType.Server.ClientTable
import BeeRType.World.PacketHandler

/-!
# Attribution

The server keeps the source of the datagram that has arrived last, and nothing
about the packets that wait in the queue. The history variable `senders` of a
traced world says where each of them came from, and `onBehalfOf` what handling a
packet for a given sender means.
-/

open Cpp Transition

namespace BeeRType

namespace World

/-! ## Handling a packet for a sender -/

/-- The player of the client that is registered under an endpoint. -/
def playerOf (w : World) (sender : Endpoint) : Option Int :=
  (w.server.findClient sender).map fun client => playerIdOf client.1

/-- A move of the sender's player; while no game runs, and from a stranger, there
is none. -/
def moveOf (w : World) (sender : Endpoint) (action : Int) : World :=
  match w.server.gameRunning, w.playerOf sender with
  | true, some playerId => { w with game := w.game.addPlayerAction playerId action }
  | _, _ => w

/-- A shot of the sender's player. -/
def shotOf (w : World) (sender : Endpoint) : World :=
  match w.playerOf sender with
  | some playerId => w.callGame (w.game.spawnBullet playerId)
  | none => w

/-- What a packet asks for, done for its sender. Packets that are about nobody in
particular are left to the handler. -/
def onBehalfOf (w : World) (packet : Packet) (sender : Endpoint) : World :=
  match packet.kind with
  | some .reqConnect => { w with server := (w.server.reqConnectData sender).2 }
  | some .disconnected => { w with server := (w.server.disconnectData sender).2 }
  | some .playerLeft => w.moveOf sender 1
  | some .playerRight => w.moveOf sender 2
  | some .playerUp => w.moveOf sender 3
  | some .playerDown => w.moveOf sender 4
  | some .playerShoot => w.shotOf sender
  | _ => w.handlePacket packet

/-- The handler of the packet reads the shared endpoint: that of a move does so
only while a game runs. -/
def readsEndpoint (w : World) (packet : Packet) : Bool :=
  match packet.kind with
  | some .reqConnect | some .disconnected | some .playerShoot => true
  | some .playerLeft | some .playerRight | some .playerUp | some .playerDown =>
    w.server.gameRunning
  | _ => false

variable {w : World} {packet : Packet} {sender : Endpoint}

theorem handlePlayerAction_eq {action : Int} :
    w.handlePlayerAction action = w.moveOf w.server.remoteEndpoint action := by
  unfold handlePlayerAction moveOf playerOf
  cases w.server.gameRunning with
  | false => rfl
  | true => cases w.server.findClient w.server.remoteEndpoint <;> rfl

theorem handlePlayerShoot_eq : w.handlePlayerShoot = w.shotOf w.server.remoteEndpoint := by
  unfold handlePlayerShoot shotOf playerOf
  cases w.server.findClient w.server.remoteEndpoint <;> rfl

theorem moveOf_congr {other : Endpoint} {action : Int}
    (h : w.server.gameRunning = true → other = sender) :
    w.moveOf other action = w.moveOf sender action := by
  cases hrunning : w.server.gameRunning with
  | true => rw [h hrunning]
  | false => simp only [moveOf, hrunning]

/-- The handlers act for the endpoint that the server has stored. -/
theorem handlePacket_eq : w.handlePacket packet = w.onBehalfOf packet w.server.remoteEndpoint := by
  unfold onBehalfOf
  split <;> rename_i hkind <;> simp only [handlePacket, hkind]
  · rfl
  · rfl
  · exact handlePlayerAction_eq
  · exact handlePlayerAction_eq
  · exact handlePlayerAction_eq
  · exact handlePlayerAction_eq
  · exact handlePlayerShoot_eq

/-- Where the endpoint is not read, the packet is handled alike for everybody. -/
theorem onBehalfOf_congr {other : Endpoint} (h : w.readsEndpoint packet = true → other = sender) :
    w.onBehalfOf packet other = w.onBehalfOf packet sender := by
  unfold onBehalfOf
  split <;> rename_i hkind <;> simp only [readsEndpoint, hkind] at h
  · rw [h trivial]
  · rw [h trivial]
  · exact moveOf_congr h
  · exact moveOf_congr h
  · exact moveOf_congr h
  · exact moveOf_congr h
  · rw [h trivial]
  · rfl

end World

/-! ## The inbox -/

/-- What the receive handler fills and the worker empties. -/
def Server.inbox (s : Server) : Endpoint × List Packet := (s.remoteEndpoint, s.packetQueue)

theorem Server.reqConnectData_inbox {s : Server} {e : Endpoint} :
    (s.reqConnectData e).2.inbox = s.inbox := by
  have hcreate : (s.createClient e).2.inbox = s.inbox := by
    cases hfind : s.findClient e with
    | some client => rw [createClient_of_registered hfind]
    | none => rw [createClient_of_new hfind]; rfl
  unfold reqConnectData
  dsimp only
  split <;> exact hcreate

theorem Server.disconnectData_inbox {s : Server} {e : Endpoint} :
    (s.disconnectData e).2.inbox = s.inbox := by
  unfold disconnectData
  split <;> rfl

namespace World

variable {w : World} {packet : Packet}

theorem handlePacket_inbox : (w.handlePacket packet).server.inbox = w.server.inbox := by
  cases handlePacket_handled w packet with
  | ignored heq => rw [heq]
  | connected _ heq => rw [heq]; exact Server.reqConnectData_inbox
  | disconnected _ heq => rw [heq]; exact Server.disconnectData_inbox
  | started _ _ heq => rw [heq]; rfl
  | ended _ _ heq => rw [heq]; rfl
  | moved _ _ _ heq => rw [heq]
  | shot _ _ heq => rw [heq]; exact callGame_frame fun _ _ _ => rfl
  | pinged heq => rw [heq]; rfl

end World

/-! ## Runs with their senders -/

/-- A world with a history variable: the sources of the packets in the queue. -/
structure Traced where
  world : World
  senders : List Endpoint

namespace Traced

def start : Traced := ⟨.new, []⟩

/-- The senders after an event, of a program that has not ended. -/
def nextSenders (senders : List Endpoint) : World.Event → List Endpoint
  | .receive .success source _ => senders ++ [source]
  | .receive .messageSize source _ => senders ++ [source]
  | .process => senders.tail
  | _ => senders

def step (t : Traced) (e : World.Event) : Traced where
  world := t.world.step e
  senders := if t.world.terminated.isSome then t.senders else nextSenders t.senders e

/-- If the event is the handling of a packet, the packet is handled for the
endpoint that has sent it. -/
def Attributed (t : Traced) (e : World.Event) : Prop :=
  e = .process → t.world.terminated = none →
    ∀ packet rest, t.world.server.packetQueue = packet :: rest →
      ∃ sender senders, t.senders = sender :: senders ∧
        t.world.step e =
          (t.world.setPacketQueue rest).onBehalfOf packet sender

/-- If the event is the handling of a packet that reads the shared endpoint, no
packet of another endpoint has arrived since: the newest packet in the queue is
from the sender of the oldest. -/
def NewestIsOwn (t : Traced) (e : World.Event) : Prop :=
  e = .process → ∀ packet rest, t.world.server.packetQueue = packet :: rest →
    t.world.readsEndpoint packet = true → t.senders.getLast? = t.senders.head?

/-- The stored endpoint is the sender of the newest packet that waits. -/
structure Inv (t : Traced) : Prop where
  length_eq : t.senders.length = t.world.server.packetQueue.length
  newest : ∀ sender ∈ t.senders.getLast?, t.world.server.remoteEndpoint = sender

variable {t : Traced} {e : World.Event} {es : List World.Event}

theorem inv_start : Inv start := ⟨rfl, by simp [start]⟩

theorem Inv.of_inbox {w : World} (ht : Inv t) (h : w.server.inbox = t.world.server.inbox) :
    Inv ⟨w, t.senders⟩ := by
  obtain ⟨hendpoint, hqueue⟩ := Prod.mk.inj h
  exact ⟨by rw [hqueue]; exact ht.length_eq, by rw [hendpoint]; exact ht.newest⟩

/-- A datagram has come in. -/
theorem Inv.arrive {w : World} {source : Endpoint} {packet : Packet} (ht : Inv t)
    (h : w.server.inbox = (source, t.world.server.packetQueue ++ [packet])) :
    Inv ⟨w, t.senders ++ [source]⟩ := by
  obtain ⟨hendpoint, hqueue⟩ := Prod.mk.inj h
  refine ⟨by simp [hqueue, ht.length_eq], ?_⟩
  rw [List.getLast?_concat]
  rintro sender ⟨⟩
  exact hendpoint

/-- The oldest packet has been taken from the queue. -/
theorem Inv.pop {w : World} {packet : Packet} {rest : List Packet} (ht : Inv t)
    (hqueue : t.world.server.packetQueue = packet :: rest)
    (h : w.server.inbox = (t.world.server.remoteEndpoint, rest)) :
    Inv ⟨w, t.senders.tail⟩ := by
  obtain ⟨hendpoint, hrest⟩ := Prod.mk.inj h
  refine ⟨by simp [hrest, ht.length_eq, hqueue], fun sender hsender => ?_⟩
  rw [hendpoint]
  refine ht.newest sender ?_
  cases hs : t.senders with
  | nil => simp [hs] at hsender
  | cons first senders =>
      rw [hs, List.tail_cons] at hsender
      exact List.mem_getLast?_cons hsender

theorem Inv.step (ht : Inv t) : Inv (t.step e) := by
  unfold Traced.step
  split
  · rename_i hterminated
    rw [World.step_of_terminated hterminated]
    exact ht
  · rename_i hterminated
    rw [World.step_of_running (by simpa using hterminated)]
    cases e with
    | receive error source data =>
        cases error with
        | success => exact ht.arrive rfl
        | messageSize => exact ht.arrive rfl
        | operationAborted => exact ht
        | other => exact ht
    | process =>
        dsimp only [World.processPacket, nextSenders]
        split
        · rename_i hqueue
          have hnil : t.senders = [] := by
            rw [← List.length_eq_zero_iff, ht.length_eq, hqueue]
            rfl
          rw [hnil, List.tail_nil, ← hnil]
          exact ht
        · rename_i packet rest hqueue
          exact ht.pop hqueue World.handlePacket_inbox
    | sendTimer =>
        exact ht.of_inbox (Server.handleSendTimer_frame (fun _ _ _ => rfl) fun _ _ => rfl)
    | thread i now draws => exact ht.of_inbox (World.runThread_frame fun _ _ _ => rfl)

theorem attributed_of_newestIsOwn (ht : Inv t) (h : NewestIsOwn t e) : Attributed t e := by
  rintro rfl hrunning packet rest hqueue
  have hlength := ht.length_eq
  rw [hqueue] at hlength
  cases hsenders : t.senders with
  | nil => simp [hsenders] at hlength
  | cons sender senders =>
      refine ⟨sender, senders, rfl, ?_⟩
      rw [World.step_of_running hrunning]
      dsimp only [World.processPacket]
      rw [hqueue]
      dsimp only
      rw [World.handlePacket_eq]
      refine World.onBehalfOf_congr fun hreads => ?_
      have hnewest := h rfl packet rest hqueue hreads
      exact ht.newest sender (by rw [hnewest, hsenders]; rfl)

/-- In every run in which, whenever a packet is handled by reading the shared
endpoint, the newest packet in the queue is from the sender of the oldest, every
packet is handled for its own sender. -/
theorem senderAttribution (h : EachStep step NewestIsOwn start es) :
    EachStep step Attributed start es := by
  have hinv : Always step Inv start es := always_of_step inv_start fun _ _ ht => ht.step
  have hsteps : EachStep step (fun t _ => Inv t) start es := hinv.eachStep fun _ _ ht => ht
  exact (hsteps.and h).mono fun _ _ hstep => attributed_of_newestIsOwn hstep.1 hstep.2

/-- Two clients that wait for their turn. -/
theorem senderAttribution_inTurn :
    EachStep step Attributed start
      [.receive .success ⟨1, 4000⟩ [1], .process, .receive .success ⟨1, 4001⟩ [1], .process] :=
  senderAttribution
    ⟨nofun, fun _ _ _ _ _ => rfl, nofun, fun _ _ _ _ _ => rfl, trivial⟩

/-- A REQCONNECT that is handled after the next datagram has arrived registers
the sender of that datagram. -/
theorem senderAttribution_race :
    ¬ EachStep step Attributed start
        [.receive .success ⟨1, 4000⟩ [1], .receive .success ⟨1, 4001⟩ [0], .process] ∧
      let s := (run step start
        [.receive .success ⟨1, 4000⟩ [1], .receive .success ⟨1, 4001⟩ [0], .process]).world.server
      s.findClient ⟨1, 4000⟩ = none ∧ s.findClient ⟨1, 4001⟩ = some (0, ⟨0, ⟨1, 4001⟩⟩) := by
  refine ⟨fun h => ?_, by decide⟩
  obtain ⟨sender, senders, hsenders, heq⟩ := h.2.2.1 rfl rfl _ _ rfl
  obtain ⟨rfl, rfl⟩ := List.cons.inj hsenders
  have hclient := congrArg (fun w => (w.server.findClient ⟨1, 4000⟩).isSome) heq
  exact absurd hclient (by decide)

end Traced

end BeeRType
