-- SUMMARY: Which of the queued messages a client is sent while it is registered.
import BeeRType.Base.Transition
import BeeRType.Server.Dispatch

/-!
# Delivery

Messages wait in the send queue while clients come and go. A tick of the send timer
takes the oldest one and sends it to all clients of that moment, so that the clients
registered over a period are all sent the messages that the period takes off the queue.
-/

open Cpp Std Transition

namespace BeeRType

structure Delivery where
  server : Server
  /-- All messages that have been queued, oldest first. -/
  queued : List Bytes

inductive DeliveryEvent where
  | broadcast (message : Bytes)
  | sendPong
  | createClient (e : Endpoint)
  | disconnectData (e : Endpoint)
  | handleSendTimer

namespace Delivery

def start : Delivery where
  server := .new
  queued := []

def step (d : Delivery) : DeliveryEvent → Delivery
  | .broadcast message =>
    { server := d.server.broadcast message, queued := d.queued ++ [message] }
  | .sendPong =>
    let (message, _) := d.server.createPacket .heartbeat []
    { server := d.server.sendPong, queued := d.queued ++ [message] }
  | .createClient e => { d with server := (d.server.createClient e).2 }
  | .disconnectData e => { d with server := (d.server.disconnectData e).2 }
  | .handleSendTimer => { d with server := d.server.handleSendTimer }

/-- The messages of `taken` have left the queue, and no endpoint is in the client table
twice. -/
structure Taken (d : Delivery) (taken : List Bytes) : Prop where
  queued : d.queued = taken ++ d.server.sendQueue
  atMostOnce : ∀ e, d.server.AtMostOnce e

/-- What happens between two states: `block` leaves the queue, and the client at `e` is
sent it. -/
def SentBlock (d d' : Delivery) (block : List Bytes) (e : Endpoint) : Prop :=
  d'.server.sentTo e = d.server.sentTo e ++ block

variable {d : Delivery} {taken : List Bytes} {e : Endpoint} {event : DeliveryEvent}

theorem taken_start : start.Taken [] := by
  refine ⟨rfl, fun e k k' c c' hk => ?_⟩
  simp [start, Server.new] at hk

/-- A step that leaves the send queue and what has been sent alone. -/
theorem Taken.of_eq {d' : Delivery} (hd : d.Taken taken) (hqueued : d'.queued = d.queued)
    (hqueue : d'.server.sendQueue = d.server.sendQueue)
    (honce : ∀ e, d'.server.AtMostOnce e) : d'.Taken taken :=
  ⟨by rw [hqueued, hqueue, hd.queued], honce⟩

theorem Taken.push {server : Server} {message : Bytes} (hd : d.Taken taken)
    (hqueue : server.sendQueue = d.server.sendQueue ++ [message])
    (hclients : server.clients = d.server.clients) :
    Taken ⟨server, d.queued ++ [message]⟩ taken := by
  refine ⟨?_, fun e => (hd.atMostOnce e).of_clients hclients⟩
  rw [hqueue, hd.queued, List.append_assoc]

theorem Taken.disconnectData (hd : d.Taken taken) (e' : Endpoint) :
    (d.step (.disconnectData e')).Taken taken :=
  hd.of_eq rfl Server.sendQueue_disconnectData fun e => (hd.atMostOnce e).disconnectData

/-- A client that leaves, or is unknown, takes nothing from the others. -/
theorem sentTo_disconnectData (e' : Endpoint) (he : d.server.Registered e) :
    (d.step (.disconnectData e')).server.sentTo e = d.server.sentTo e := by
  by_cases hknown : d.server.Registered e'
  · obtain ⟨availableIds, k, hsilent⟩ := Server.disconnectData_silent hknown
    rw [Delivery.step, hsilent]
    rfl
  · have hne : e' ≠ e := by
      rintro rfl
      exact hknown he
    exact (Server.disconnectData_unicasts hknown).1.sentTo_other hne

/-- What a step takes off the queue goes to every client that is registered. -/
theorem Taken.step (hd : d.Taken taken) (event : DeliveryEvent) :
    ∃ block, (d.step event).Taken (taken ++ block) ∧
      ∀ e, d.server.Registered e → SentBlock d (d.step event) block e := by
  cases event with
  | broadcast message =>
      refine ⟨[], ?_, fun e _ => (List.append_nil _).symm⟩
      rw [List.append_nil]
      exact hd.push rfl rfl
  | sendPong =>
      refine ⟨[], ?_, fun e _ => (List.append_nil _).symm⟩
      rw [List.append_nil]
      exact hd.push rfl rfl
  | createClient e' =>
      have hqueue : (d.server.createClient e').2.sendQueue = d.server.sendQueue :=
        Server.createClient_frame (f := fun s => s.sendQueue) fun _ _ _ _ => rfl
      have hsent : (d.server.createClient e').2.sent = d.server.sent :=
        Server.createClient_frame (f := fun s => s.sent) fun _ _ _ _ => rfl
      refine ⟨[], ?_, fun e _ => ?_⟩
      · rw [List.append_nil]
        exact hd.of_eq rfl hqueue fun e => (hd.atMostOnce e).createClient
      · rw [SentBlock, List.append_nil, Server.sentTo, Server.sentTo, ← hsent]
        rfl
  | disconnectData e' =>
      refine ⟨[], ?_, fun e he => ?_⟩
      · rw [List.append_nil]
        exact hd.disconnectData e'
      · rw [SentBlock, List.append_nil]
        exact sentTo_disconnectData e' he
  | handleSendTimer =>
      cases hqueue : d.server.sendQueue with
      | nil =>
          have hidle := Server.handleSendTimer_nil hqueue
          refine ⟨[], ?_, fun e _ => ?_⟩
          · rw [List.append_nil, Delivery.step, hidle]
            exact hd
          · rw [SentBlock, List.append_nil, Delivery.step, hidle]
      | cons message rest =>
          have htick := Server.handleSendTimer_cons hqueue
          refine ⟨[message], ⟨?_, fun e => (hd.atMostOnce e).handleSendTimer⟩, fun e he => ?_⟩
          · rw [Delivery.step, htick, hd.queued, hqueue, List.append_assoc]
            rfl
          · exact Server.sentTo_handleSendTimer_of_registered hqueue (hd.atMostOnce e) he

theorem Taken.run (hd : d.Taken taken) (events : List DeliveryEvent) :
    ∃ block, (Transition.run Delivery.step d events).Taken (taken ++ block) ∧
      ∀ e, Always Delivery.step (fun d => d.server.Registered e) d events →
        SentBlock d (Transition.run Delivery.step d events) block e := by
  induction events generalizing d taken with
  | nil =>
      refine ⟨[], ?_, fun e _ => (List.append_nil _).symm⟩
      rw [List.append_nil]
      exact hd
  | cons event events ih =>
      obtain ⟨first, hstep, hsent⟩ := hd.step event
      obtain ⟨later, hrun, hlater⟩ := ih hstep
      refine ⟨first ++ later, ?_, fun e he => ?_⟩
      · rw [← List.append_assoc]
        exact hrun
      · rw [SentBlock, run_cons, hlater e he.2, hsent e he.1, List.append_assoc]

/-- Over any period, one block of the queued messages leaves the queue, and that block,
in order and each message once, is what every client is sent that stays registered
throughout. -/
theorem delivery (before period : List DeliveryEvent) :
    let d := run step start before
    let d' := run step d period
    ∃ earlier block, d.queued = earlier ++ d.server.sendQueue ∧
      d'.queued = earlier ++ block ++ d'.server.sendQueue ∧
        ∀ e, Always step (fun d => d.server.Registered e) d period →
          d'.server.sentTo e = d.server.sentTo e ++ block := by
  intro d d'
  obtain ⟨earlier, hbefore, -⟩ := taken_start.run before
  rw [List.nil_append] at hbefore
  obtain ⟨block, hperiod, hsent⟩ := hbefore.run period
  exact ⟨earlier, block, hbefore.queued, hperiod.queued, hsent⟩

end Delivery

end BeeRType
