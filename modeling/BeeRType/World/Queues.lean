-- SUMMARY: How long a received packet waits to be handled, and a broadcast message to be sent.
import BeeRType.Base.Fifo
import BeeRType.Server.Dispatch
import BeeRType.World.Attribution
import BeeRType.World.ClientIds

/-!
# The queues of the server

The worker takes the received packets one at a time, and the send timer the broadcast
messages. What is ahead in the queue decides when the turn of a packet or a message comes,
whatever clients and games add behind it.
-/

open Cpp Std Transition Fifo

namespace BeeRType

namespace World

def Event.isProcess : Event → Bool
  | .process => true
  | _ => false

def Event.isSendTimer : Event → Bool
  | .sendTimer => true
  | _ => false

variable {w : World} {e : Event} {es : List Event} {game : Game} {packet : Packet}

theorem terminated_of_step (h : (w.step e).terminated = none) : w.terminated = none := by
  cases hterminated : w.terminated with
  | none => rfl
  | some exception =>
      rw [step_of_terminated (by rw [hterminated]; rfl), hterminated] at h
      cases h

/-- A program that runs at the end has run at every step. -/
theorem eachStep_running (h : (run step w es).terminated = none) :
    w.terminated = none ∧ EachStep step (fun w _ => w.terminated = none) w es := by
  induction es generalizing w with
  | nil => exact ⟨h, trivial⟩
  | cons e es ih =>
      obtain ⟨hstep, hes⟩ := ih h
      exact ⟨terminated_of_step hstep, terminated_of_step hstep, hes⟩

/-! ## The packets that are to be handled -/

theorem packetQueue_handlePacket :
    (w.handlePacket packet).server.packetQueue = w.server.packetQueue :=
  congrArg Prod.snd handlePacket_inbox

theorem inTurn_packetQueue (hrunning : w.terminated = none) :
    InTurn step (fun w => w.server.packetQueue) Event.isProcess w e := by
  rw [InTurn, step_of_running hrunning]
  cases e with
  | receive error source data =>
      cases error <;> first | exact List.prefix_append _ _ | exact List.prefix_rfl
  | process =>
      dsimp only [Event.isProcess, if_true, processPacket]
      cases hqueue : w.server.packetQueue with
      | nil => exact hqueue
      | cons packet rest => exact packetQueue_handlePacket
  | sendTimer =>
      have hsame : w.server.handleSendTimer.packetQueue = w.server.packetQueue :=
        Server.handleSendTimer_frame (f := Server.packetQueue) (fun _ _ _ => rfl) fun _ _ => rfl
      exact hsame ▸ List.prefix_rfl
  | thread i now draws =>
      have hsame : (w.runThread i ⟨now, draws, w.server.clients.size⟩).server.packetQueue =
          w.server.packetQueue := runThread_frame (f := Server.packetQueue) fun _ _ _ => rfl
      exact hsame ▸ List.prefix_rfl

/-- A packet is handled in exactly the step of the worker after as many as there are
packets ahead of it. -/
theorem handled_after {ahead rest : List Packet} (hqueue : w.server.packetQueue = ahead ++ packet :: rest)
    (hsteps : es.countP Event.isProcess = ahead.length)
    (hrunning : (run step w es).terminated = none) :
    ∃ later, (run step w es).server.packetQueue = packet :: later ∧
      (run step w es).step .process = ((run step w es).setPacketQueue later).handlePacket packet := by
  have hturns := (eachStep_running hrunning).2.mono fun _ e h => inTurn_packetQueue (e := e) h
  obtain ⟨later, hlater⟩ := exists_cons_run hturns hqueue hsteps
  exact ⟨later, hlater, step_process hrunning hlater⟩

/-- Two clients ask to be registered. -/
def twoRequests : List Event :=
  [.receive .success ⟨1, 4000⟩ [1], .receive .success ⟨1, 4001⟩ [1]]

theorem handled_after_twoRequests : ∃ packet later,
    (run step (run step new twoRequests) [.process]).step .process =
      ((run step (run step new twoRequests) [.process]).setPacketQueue later).handlePacket packet := by
  obtain ⟨first, packet, hqueue⟩ : ∃ first packet,
      (run step new twoRequests).server.packetQueue = [first] ++ [packet] := ⟨_, _, rfl⟩
  have hsteps : [Event.process].countP Event.isProcess = [first].length := rfl
  obtain ⟨later, -, hhandled⟩ := handled_after hqueue hsteps (by decide)
  exact ⟨packet, later, hhandled⟩

/-! ## The messages that are to be sent -/

theorem prefix_setGame : w.server.sendQueue <+: (w.setGame game).server.sendQueue := by
  have hall : ∀ (messages : List Message) (s : Server), s.sendQueue <+:
      (messages.foldl (fun s m => s.broadcastPacket m.type m.payload.data) s).sendQueue := by
    intro messages
    induction messages with
    | nil => exact fun s => List.prefix_rfl
    | cons m messages ih =>
        intro s
        have hfirst : s.sendQueue <+: (s.broadcastPacket m.type m.payload.data).sendQueue :=
          List.prefix_append _ _
        exact hfirst.trans (ih _)
  exact hall _ w.server

theorem prefix_handlePacket : w.server.sendQueue <+: (w.handlePacket packet).server.sendQueue := by
  cases handlePacket_handled w packet with
  | ignored heq => rw [heq]
  | connected _ heq =>
      rw [heq]
      exact (Server.reqConnectData_unicasts).queue ▸ List.prefix_rfl
  | disconnected _ heq =>
      rw [heq]
      exact Server.sendQueue_disconnectData ▸ List.prefix_rfl
  | started _ _ heq =>
      rw [heq]
      exact List.prefix_append _ _
  | ended _ _ heq =>
      rw [heq]
      exact List.prefix_rfl
  | moved _ _ _ heq => rw [heq]
  | shot playerId _ heq =>
      rw [heq]
      cases w.game.spawnBullet playerId with
      | ok game => exact prefix_setGame
      | error exception => exact List.prefix_rfl
  | pinged heq =>
      rw [heq]
      exact List.prefix_append _ _

theorem inTurn_sendQueue (hrunning : w.terminated = none) :
    InTurn step (fun w => w.server.sendQueue) Event.isSendTimer w e := by
  rw [InTurn, step_of_running hrunning]
  cases e with
  | receive error source data => cases error <;> exact List.prefix_rfl
  | process =>
      dsimp only [Event.isSendTimer, processPacket]
      cases w.server.packetQueue with
      | nil => exact List.prefix_rfl
      | cons packet rest => exact prefix_handlePacket (w := w.setPacketQueue rest)
  | sendTimer =>
      change w.server.handleSendTimer.sendQueue = w.server.sendQueue.tail
      cases hqueue : w.server.sendQueue with
      | nil => rw [Server.handleSendTimer_nil hqueue, hqueue, List.tail_nil]
      | cons message rest => rw [Server.handleSendTimer_cons hqueue, List.tail_cons]
  | thread i now draws =>
      change w.server.sendQueue <+: (w.runThread i _).server.sendQueue
      unfold runThread
      split
      · exact List.prefix_rfl
      · split
        · exact prefix_setGame
        · exact List.prefix_rfl

theorem atMostOnce_step (hw : ∀ endpoint, w.server.AtMostOnce endpoint) (endpoint : Endpoint) :
    (w.step e).server.AtMostOnce endpoint := by
  obtain heq | ⟨s, op, hsame, heq⟩ := table_step w e
  · exact (hw endpoint).of_clients (Prod.mk.inj heq).1
  · have hs : s.AtMostOnce endpoint := (hw endpoint).of_clients (Prod.mk.inj hsame).1
    refine Server.AtMostOnce.of_clients (s := op.apply s) ?_ (Prod.mk.inj heq).1
    cases op with
    | createClient e' => exact hs.createClient
    | disconnectData e' => exact hs.disconnectData

theorem atMostOnce_run (es : List Event) (endpoint : Endpoint) :
    (run step new es).server.AtMostOnce endpoint :=
  (always_of_step (I := fun w : World => ∀ endpoint, w.server.AtMostOnce endpoint)
    (fun _ => Server.tableInv_new.atMostOnce) fun _ _ hw => atMostOnce_step hw).final endpoint

/-- A message is sent in exactly the tick of the send timer after as many as there are
messages ahead of it: once to every client that is registered then, and to nobody else. -/
theorem sent_after (before es : List Event) {ahead rest : List Bytes} {message : Bytes}
    (hqueue : (run step new before).server.sendQueue = ahead ++ message :: rest)
    (hticks : es.countP Event.isSendTimer = ahead.length)
    (hrunning : (run step new (before ++ es)).terminated = none) (endpoint : Endpoint) :
    (run step new (before ++ es ++ [.sendTimer])).server.sentTo endpoint =
      (run step new (before ++ es)).server.sentTo endpoint ++
        if (run step new (before ++ es)).server.Registered endpoint then [message] else [] := by
  have honce := atMostOnce_run (before ++ es) endpoint
  have hstep : (run step new (before ++ es)).step .sendTimer =
      { run step new (before ++ es) with
        server := (run step new (before ++ es)).server.handleSendTimer } := step_of_running hrunning
  rw [run_append, run_cons, run_nil, hstep]
  rw [run_append] at hrunning honce ⊢
  have hturns := (eachStep_running hrunning).2.mono fun _ e h => inTurn_sendQueue (e := e) h
  obtain ⟨later, hlater⟩ := exists_cons_run hturns hqueue hticks
  split
  · rename_i hregistered
    exact Server.sentTo_handleSendTimer_of_registered hlater honce hregistered
  · rename_i hregistered
    rw [List.append_nil]
    exact Server.sentTo_handleSendTimer_of_not_registered hlater hregistered

/-- A client registers and starts a game, whose thread announces the player. -/
def started : List Event :=
  [.receive .success ⟨1, 4000⟩ [1], .process, .receive .success ⟨1, 4000⟩ [3], .process,
    .thread 0 0 fun _ => .origin]

theorem sent_after_started : ∃ message,
    (run step new (started ++ [.sendTimer] ++ [.sendTimer])).server.sentTo ⟨1, 4000⟩ =
      (run step new (started ++ [.sendTimer])).server.sentTo ⟨1, 4000⟩ ++ [message] := by
  obtain ⟨first, message, rest, hqueue⟩ : ∃ first message rest,
      (run step new started).server.sendQueue = [first] ++ message :: rest := by
    have hlength : 2 ≤ (run step new started).server.sendQueue.length := by decide +kernel
    generalize (run step new started).server.sendQueue = queue at hlength ⊢
    obtain _ | ⟨first, _ | ⟨message, rest⟩⟩ := queue
    · exact absurd hlength (by decide)
    · exact absurd hlength (by simp)
    · exact ⟨first, message, rest, rfl⟩
  refine ⟨message, (sent_after started [.sendTimer] hqueue rfl (by decide +kernel) _).trans ?_⟩
  rw [if_pos (by decide +kernel)]

end World

end BeeRType
