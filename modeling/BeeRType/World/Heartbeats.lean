-- SUMMARY: The server and its clients over their pings: which ping each heartbeat reply answers.
import BeeRType.Base.Transition
import BeeRType.Client.Codec
import BeeRType.Client.Rejected
import BeeRType.Server.Dispatch
import Mathlib.Logic.Function.Basic

/-!
# Heartbeats

A ping is one byte, and the reply to it is a packet that waits in the send queue like
any other: it names no client, and the send timer sends it to all of them. Which ping
a reply answers is recorded beside it here; neither program knows.
-/

open Cpp Transition

namespace BeeRType

/-- The ping of a client with the given number, from 1. -/
structure Ping where
  client : Endpoint
  number : Nat
  deriving DecidableEq

structure Heartbeats where
  server : Server
  clients : Endpoint → Client
  /-- How many pings each client has queued. -/
  pings : Endpoint → Nat
  /-- How many of them the server has answered. -/
  answered : Endpoint → Nat
  /-- For each message of the send queue, the ping that it answers. -/
  replies : List (Option Ping)
  /-- The datagrams on their way to each client, oldest first, with the ping that
  each answers. -/
  incoming : Endpoint → List (Bytes × Option Ping)

inductive HeartbeatsEvent where
  | sendHeartBeat (e : Endpoint) (now : ℚ)
  | checkTimeout (e : Endpoint) (now : ℚ)
  /-- The worker takes the oldest ping of the client that it has not answered. -/
  | handlePing (e : Endpoint)
  | reqConnectData (e : Endpoint)
  | disconnectData (e : Endpoint)
  | broadcast (type : {t : PacketType // t ≠ .heartbeat}) (data : Bytes)
  | serverSendTimer
  /-- The client receives the oldest datagram on its way. -/
  | deliver (e : Endpoint) (now : ℚ) (source : Endpoint)

namespace Heartbeats

def start (clients : Endpoint → Client) : Heartbeats where
  server := .new
  clients := clients
  pings := fun _ => 0
  answered := fun _ => 0
  replies := []
  incoming := fun _ => []

/-- A command of the server: what it sends is on its way. -/
def dispatch (h : Heartbeats) (server : Server) (reply : Option Ping) : Heartbeats :=
  { h with
    server
    incoming := fun e => h.incoming e ++
      ((server.sentTo e).drop (h.server.sentTo e).length).map fun message => (message, reply) }

def step (h : Heartbeats) : HeartbeatsEvent → Heartbeats
  | .sendHeartBeat e now =>
    { h with
      clients := Function.update h.clients e ((h.clients e).sendHeartBeat now)
      pings := if (h.clients e).awaiting then h.pings
        else Function.update h.pings e (h.pings e + 1) }
  | .checkTimeout e now =>
    { h with clients := Function.update h.clients e ((h.clients e).checkTimeout now) }
  | .handlePing e =>
    if h.answered e < h.pings e then
      { h with
        server := h.server.sendPong
        answered := Function.update h.answered e (h.answered e + 1)
        replies := h.replies ++ [some ⟨e, h.answered e + 1⟩] }
    else h
  | .reqConnectData e => h.dispatch (h.server.reqConnectData e).2 none
  | .disconnectData e => h.dispatch (h.server.disconnectData e).2 none
  | .broadcast type data =>
    { h with server := h.server.broadcastPacket type data, replies := h.replies ++ [none] }
  | .serverSendTimer =>
    { h.dispatch h.server.handleSendTimer h.replies.head?.join with replies := h.replies.tail }
  | .deliver e now source =>
    match h.incoming e with
    | [] => h
    | (message, _) :: rest =>
      match (h.clients e).handleReceive now .success source message with
      | .ok client =>
        { h with
          clients := Function.update h.clients e client
          incoming := Function.update h.incoming e rest }
      -- The exception ends the client, which receives nothing any more.
      | .error _ => h

/-- The client has taken a reply: the wait is over, or another latency or another
time of the last response is recorded. -/
def TakesReply (c c' : Client) : Prop :=
  c'.awaiting ≠ c.awaiting ∨ c'.lagMeter.ping ≠ c.lagMeter.ping ∨
    c'.lastResponseTime ≠ c.lastResponseTime

/-- If the client takes what it receives for a reply, it is the reply to its own
latest ping. -/
def Paired (h : Heartbeats) : HeartbeatsEvent → Prop
  | .deliver e now source =>
    ∀ datagram ∈ (h.incoming e).head?,
      ∀ client ∈ ((h.clients e).handleReceive now .success source datagram.1).toOption,
        TakesReply (h.clients e) client → datagram.2 = some ⟨e, h.pings e⟩
  | _ => True

/-- A reply that leaves the send queue answers the latest ping of every client in
the table, and no client queues a ping while a reply is on its way to it. -/
def KeepsPaired (h : Heartbeats) : HeartbeatsEvent → Prop
  | .serverSendTimer =>
    ∀ ping ∈ h.replies.head?.join, ∀ e, h.server.Registered e → ping = ⟨e, h.pings e⟩
  | .sendHeartBeat e _ =>
    (h.clients e).awaiting = false → ∀ datagram ∈ h.incoming e, datagram.2 = none
  | _ => True

def IsDeliver : HeartbeatsEvent → Prop
  | .deliver _ _ _ => True
  | _ => False

variable {h : Heartbeats} {server : Server} {message : Bytes} {reply : Option Ping}
  {event : HeartbeatsEvent} {e : Endpoint}

/-! ## What the client makes of a datagram -/

/-- `parseMessage` comes to its heartbeat branch. -/
def ReadsHeartbeat (data : Bytes) : Prop :=
  (Client.decode data).1 = some PacketType.heartbeat.byte ∧ (Client.decode data).2 ≠ []

theorem readsHeartbeat_sendPong (s : Server) :
    ReadsHeartbeat ((s.createPacket .heartbeat []).1.take maxLength) := by
  have hsite := Payload.minusOnes_callSite
  rw [Server.createPacket_nil, List.take_of_length_le (hsite.fits s _), ReadsHeartbeat,
    Client.decode_createPacket hsite.noDelim]
  exact ⟨rfl, by simp⟩

theorem not_readsHeartbeat_createPacket (s : Server) {t : PacketType} (ht : t ≠ .heartbeat)
    (data : Bytes) : ¬ ReadsHeartbeat ((s.createPacket t data).1.take maxLength) := by
  rintro ⟨htype, -⟩
  exact PacketType.byte_ne_heartbeat ht (Option.some.inj htype)

theorem parseMessage_heartbeat {c : Client} {now : ℚ} (hread : ReadsHeartbeat c.receivedData) :
    c.parseMessage now =
      .ok { c.handleHeartBeat now with awaiting := false, lastResponseTime := now } := by
  obtain ⟨htype, helements⟩ := hread
  unfold Client.parseMessage
  split
  · rename_i hdata
    simp [hdata, Client.decode] at htype
  · rename_i hdata
    simp [hdata, Client.decode, Client.deserialisePacket] at helements
  · rename_i packetType _ packetInside hdata
    simp only [hdata, Client.decode, List.head?_cons, Option.some.injEq, List.drop_succ_cons,
      List.drop_zero] at htype helements
    simp only [helements, htype, if_false, if_true]

theorem parseMessage_not_heartbeat {c c' : Client} {now : ℚ}
    (hread : ¬ ReadsHeartbeat c.receivedData) (hok : c.parseMessage now = .ok c') :
    ¬ TakesReply c c' := by
  unfold Client.parseMessage at hok
  split at hok
  · cases hok
    simp [TakesReply]
  · cases hok
  · rename_i packetType _ packetInside hdata
    simp only [ReadsHeartbeat, hdata, Client.decode, List.head?_cons, Option.some.injEq,
      List.drop_succ_cons, List.drop_zero] at hread
    dsimp only at hok
    split_ifs at hok with hnil hheart
    · cases hok
      simp [TakesReply]
    · exact absurd ⟨hheart, hnil⟩ hread
    · cases hok
      have hframe := Client.parseElements_frame
        (f := fun c => (c.awaiting, c.lagMeter.ping, c.lastResponseTime)) (fun _ _ _ _ => rfl)
        c packetType (Client.deserialisePacket packetInside)
      simp only [Prod.mk.injEq] at hframe
      simp [TakesReply, hframe]

/-- A datagram with the ping it answers: it is read, and taken for a reply exactly
when it is one. -/
structure Tagged (message : Bytes) (reply : Option Ping) : Prop where
  length : 2 ≤ message.length
  reads : ReadsHeartbeat (message.take maxLength) ↔ reply.isSome

theorem length_createPacket (s : Server) (t : PacketType) (data : Bytes) :
    2 ≤ (s.createPacket t data).1.length := by
  simp only [Server.createPacket, str_semicolon, List.length_append, List.length_cons]
  omega

theorem tagged_sendPong (s : Server) (ping : Ping) :
    Tagged (s.createPacket .heartbeat []).1 (some ping) :=
  ⟨length_createPacket s _ _, iff_of_true (readsHeartbeat_sendPong s) rfl⟩

theorem tagged_createPacket (s : Server) {t : PacketType} (ht : t ≠ .heartbeat) (data : Bytes) :
    Tagged (s.createPacket t data).1 none :=
  ⟨length_createPacket s _ _, iff_of_false (not_readsHeartbeat_createPacket s ht data) nofun⟩

/-- The client reads the datagram to the end of its handler, and takes exactly a
reply for a reply; the time at which it does so can be told. -/
theorem Tagged.handleReceive (ht : Tagged message reply) (c : Client) (now : ℚ)
    (source : Endpoint) :
    ∃ c', c.handleReceive now .success source message = .ok c' ∧
      (reply = none → ¬ TakesReply c c') ∧
      (reply.isSome → now ≠ c.lastResponseTime → TakesReply c c') := by
  let received : Client := { c with
    serverEndpoint := source
    mutexLocked := true
    packetsReceived := c.packetsReceived + 1
    receivedData := message.take maxLength }
  have hlength : received.receivedData.length ≠ 1 := by
    have := ht.length
    simp only [received, List.length_take, maxLength]
    omega
  obtain ⟨c', hok⟩ := Client.exists_parseMessage (c := received) hlength
  refine ⟨c', hok, fun hnone => ?_, fun hsome hnow => ?_⟩
  · refine parseMessage_not_heartbeat (c := received) (fun hread => ?_) hok
    rw [hnone] at ht
    exact Bool.false_ne_true (ht.reads.mp hread)
  · rw [parseMessage_heartbeat (c := received) (ht.reads.mpr hsome)] at hok
    cases hok
    exact .inr (.inr hnow)

/-! ## What the server sends -/

/-- Whatever a command has sent answers `reply`. -/
def Sends (s s' : Server) (reply : Option Ping) : Prop :=
  ∀ e, ∃ messages, s'.sentTo e = s.sentTo e ++ messages ∧ ∀ message ∈ messages, Tagged message reply

theorem Sends.of_eq {s s' : Server} (hsent : s'.sent = s.sent) : Sends s s' reply :=
  fun e => ⟨[], by rw [List.append_nil, Server.sentTo, hsent]; rfl, nofun⟩

theorem Sends.of_unicasts {s s' : Server} {e' : Endpoint} (hunicasts : s.Unicasts s' e') :
    Sends s s' none := by
  intro e
  by_cases he : e' = e
  · subst he
    obtain ⟨t, ht, hsent⟩ := hunicasts.sentTo_self
    refine ⟨_, hsent, fun message hmessage => ?_⟩
    rw [List.mem_singleton.mp hmessage]
    exact tagged_createPacket s ht []
  · exact ⟨[], by rw [List.append_nil, hunicasts.sentTo_other he], nofun⟩

/-- What the send timer puts on the way to a client. -/
theorem sentTo_handleSendTimer {s : Server} {rest : List Bytes}
    (hqueue : s.sendQueue = message :: rest) (honce : s.AtMostOnce e) :
    s.handleSendTimer.sentTo e = s.sentTo e ++ if s.Registered e then [message] else [] := by
  split
  · exact Server.sentTo_handleSendTimer_of_registered hqueue honce ‹_›
  · rw [List.append_nil]
    exact Server.sentTo_handleSendTimer_of_not_registered hqueue ‹_›

/-! ## What every step keeps -/

/-- Each message and each datagram goes with the ping that it answers. -/
structure Tracked (h : Heartbeats) : Prop where
  once : ∀ e, h.server.AtMostOnce e
  queue : List.Forall₂ Tagged h.server.sendQueue h.replies
  incoming : ∀ e, ∀ datagram ∈ h.incoming e, Tagged datagram.1 datagram.2

theorem tracked_start (clients : Endpoint → Client) : Tracked (start clients) where
  once := fun e k k' c c' hk => by simp [start, Server.new] at hk
  queue := .nil
  incoming := nofun

theorem incoming_dispatch {messages : List Bytes}
    (hsent : server.sentTo e = h.server.sentTo e ++ messages) :
    (h.dispatch server reply).incoming e =
      h.incoming e ++ messages.map fun message => (message, reply) := by
  simp [dispatch, hsent]

theorem mem_incoming_dispatch (hsends : Sends h.server server reply) {datagram : Bytes × Option Ping}
    (hmem : datagram ∈ (h.dispatch server reply).incoming e) :
    datagram ∈ h.incoming e ∨ datagram.2 = reply ∧ Tagged datagram.1 reply := by
  obtain ⟨messages, hsent, htagged⟩ := hsends e
  rw [incoming_dispatch hsent, List.mem_append, List.mem_map] at hmem
  rcases hmem with hold | ⟨message, hmessage, rfl⟩
  · exact .inl hold
  · exact .inr ⟨rfl, htagged message hmessage⟩

theorem Tracked.dispatch {replies : List (Option Ping)} (hh : h.Tracked)
    (honce : ∀ e, server.AtMostOnce e) (hqueue : List.Forall₂ Tagged server.sendQueue replies)
    (hsends : Sends h.server server reply) :
    Tracked { h.dispatch server reply with replies := replies } := by
  refine ⟨honce, hqueue, fun e datagram hmem => ?_⟩
  rcases mem_incoming_dispatch hsends hmem with hold | ⟨htag, htagged⟩
  · exact hh.incoming e datagram hold
  · rw [htag]
    exact htagged

theorem Tracked.enqueue {answered : Endpoint → Nat} (hh : h.Tracked)
    (hqueue : server.sendQueue = h.server.sendQueue ++ [message])
    (hclients : server.clients = h.server.clients) (htagged : Tagged message reply) :
    Tracked { h with server := server, answered := answered, replies := h.replies ++ [reply] } where
  once e := (hh.once e).of_clients hclients
  queue := by
    rw [hqueue]
    exact List.rel_append hh.queue (.cons htagged .nil)
  incoming := hh.incoming

theorem Tracked.reqConnectData (hh : h.Tracked) (e' : Endpoint) :
    (h.step (.reqConnectData e')).Tracked := by
  have hunicasts := Server.reqConnectData_unicasts (s := h.server) (e := e')
  refine hh.dispatch (fun e => (hh.once e).reqConnectData) ?_ (.of_unicasts hunicasts)
  rw [hunicasts.queue]
  exact hh.queue

theorem sends_disconnectData (s : Server) (e' : Endpoint) :
    Sends s (s.disconnectData e').2 none := by
  by_cases hknown : s.Registered e'
  · obtain ⟨availableIds, k, hsilent⟩ := Server.disconnectData_silent hknown
    exact .of_eq (by rw [hsilent])
  · exact .of_unicasts (Server.disconnectData_unicasts hknown).1

theorem Tracked.disconnectData (hh : h.Tracked) (e' : Endpoint) :
    (h.step (.disconnectData e')).Tracked := by
  refine hh.dispatch (fun e => (hh.once e).disconnectData) ?_ (sends_disconnectData h.server e')
  rw [Server.sendQueue_disconnectData]
  exact hh.queue

/-- A tick of the send timer: what it sends answers the first ping of the list, and
goes to the clients in the table. -/
theorem Tracked.serverSendTimer (hh : h.Tracked) :
    (h.step .serverSendTimer).Tracked ∧ ∀ e, ∃ messages,
      (h.step .serverSendTimer).incoming e = h.incoming e ++
        messages.map (fun message => (message, h.replies.head?.join)) ∧
      (messages ≠ [] → h.server.Registered e) ∧
      (h.server.Registered e → h.replies ≠ [] → messages ≠ []) := by
  have hqueue := hh.queue
  cases hsendQueue : h.server.sendQueue with
  | nil =>
      have hidle := Server.handleSendTimer_nil hsendQueue
      rw [hsendQueue, List.forall₂_nil_left_iff] at hqueue
      refine ⟨?_, fun e => ⟨[], ?_, absurd rfl, fun _ hne => absurd hqueue hne⟩⟩
      · rw [step, hidle]
        refine hh.dispatch hh.once ?_ (.of_eq rfl)
        rw [hsendQueue, hqueue]
        exact .nil
      · rw [step, hidle]
        exact incoming_dispatch (List.append_nil _).symm
  | cons message rest =>
      rw [hsendQueue, List.forall₂_cons_left_iff] at hqueue
      obtain ⟨reply, replies, htagged, hrest, hreplies⟩ := hqueue
      have hsent := fun e => sentTo_handleSendTimer (e := e) hsendQueue (hh.once e)
      rw [hreplies]
      refine ⟨?_, fun e => ⟨if h.server.Registered e then [message] else [], ?_, ?_, ?_⟩⟩
      · rw [step, hreplies]
        refine hh.dispatch (fun e => (hh.once e).handleSendTimer) ?_ fun e =>
          ⟨_, hsent e, fun m hm => ?_⟩
        · rw [Server.handleSendTimer_cons hsendQueue]
          exact hrest
        · split at hm
          · rw [List.mem_singleton.mp hm]
            exact htagged
          · cases hm
      · rw [step, hreplies]
        exact incoming_dispatch (hsent e)
      · intro hne
        by_contra hreg
        exact hne (if_neg hreg)
      · intro hreg _
        rw [if_pos hreg]
        exact List.cons_ne_nil _ _

/-- The datagram that is delivered is read. -/
theorem step_deliver (hh : h.Tracked) {rest : List (Bytes × Option Ping)}
    (hincoming : h.incoming e = (message, reply) :: rest) (now : ℚ) (source : Endpoint) :
    ∃ c', (h.clients e).handleReceive now .success source message = .ok c' ∧
      h.step (.deliver e now source) = { h with
        clients := Function.update h.clients e c'
        incoming := Function.update h.incoming e rest } := by
  have htagged := hh.incoming e _ (by rw [hincoming]; exact List.mem_cons_self)
  obtain ⟨c', hok, -⟩ := htagged.handleReceive (h.clients e) now source
  exact ⟨c', hok, by simp only [step, hincoming, hok]⟩

theorem step_deliver_nil (hincoming : h.incoming e = []) (now : ℚ) (source : Endpoint) :
    h.step (.deliver e now source) = h := by
  simp only [step, hincoming]

/-- A delivery puts no datagram on its way. -/
theorem mem_incoming_deliver (hh : h.Tracked) {e' : Endpoint} {now : ℚ} {source : Endpoint}
    {datagram : Bytes × Option Ping}
    (hmem : datagram ∈ (h.step (.deliver e' now source)).incoming e) :
    datagram ∈ h.incoming e := by
  cases hincoming : h.incoming e' with
  | nil =>
      rw [step_deliver_nil hincoming] at hmem
      exact hmem
  | cons first rest =>
      obtain ⟨c', -, hstep⟩ := step_deliver hh hincoming now source
      rw [hstep] at hmem
      by_cases he : e = e'
      · subst he
        rw [hincoming]
        exact List.mem_cons_of_mem _ (by simpa using hmem)
      · simpa [he] using hmem

theorem Tracked.step (hh : h.Tracked) (event : HeartbeatsEvent) : (h.step event).Tracked := by
  cases event with
  | sendHeartBeat e now => exact ⟨hh.once, hh.queue, hh.incoming⟩
  | checkTimeout e now => exact ⟨hh.once, hh.queue, hh.incoming⟩
  | handlePing e =>
      simp only [Heartbeats.step]
      split
      · exact hh.enqueue rfl rfl (tagged_sendPong h.server _)
      · exact hh
  | reqConnectData e => exact hh.reqConnectData e
  | disconnectData e => exact hh.disconnectData e
  | broadcast type data => exact hh.enqueue rfl rfl (tagged_createPacket h.server type.property data)
  | serverSendTimer => exact hh.serverSendTimer.1
  | deliver e now source =>
      cases hincoming : h.incoming e with
      | nil =>
          rw [step_deliver_nil hincoming]
          exact hh
      | cons first rest =>
          obtain ⟨c', -, hstep⟩ := step_deliver hh hincoming now source
          refine ⟨?_, ?_, fun e' datagram hmem => ?_⟩
          · rw [hstep]
            exact hh.once
          · rw [hstep]
            exact hh.queue
          · exact hh.incoming e' datagram (mem_incoming_deliver hh hmem)

/-! ## Replies on their way -/

/-- Every reply on its way to a client answers the latest ping of that client. -/
def Own (h : Heartbeats) : Prop :=
  ∀ e, ∀ datagram ∈ h.incoming e, ∀ ping ∈ datagram.2, ping = ⟨e, h.pings e⟩

theorem Own.dispatch (ho : h.Own) (hsends : Sends h.server server none) :
    (h.dispatch server none).Own := by
  intro e datagram hmem ping hping
  rcases mem_incoming_dispatch hsends hmem with hold | ⟨htag, -⟩
  · exact ho e datagram hold ping hping
  · rw [htag] at hping
    cases hping

theorem Own.step (ho : h.Own) (hh : h.Tracked) (hkeeps : h.KeepsPaired event) :
    (h.step event).Own := by
  cases event with
  | sendHeartBeat e now =>
      intro e' datagram hmem ping hping
      simp only [Heartbeats.step] at hmem ⊢
      cases hawaiting : (h.clients e).awaiting with
      | true =>
          rw [if_pos rfl]
          exact ho e' datagram hmem ping hping
      | false =>
          rw [if_neg (by decide)]
          by_cases he : e' = e
          · subst he
            rw [hkeeps hawaiting datagram hmem] at hping
            cases hping
          · rw [Function.update_of_ne he]
            exact ho e' datagram hmem ping hping
  | checkTimeout e now => exact ho
  | handlePing e =>
      simp only [Heartbeats.step]
      split
      · exact ho
      · exact ho
  | reqConnectData e => exact ho.dispatch (.of_unicasts Server.reqConnectData_unicasts)
  | disconnectData e => exact ho.dispatch (sends_disconnectData h.server e)
  | broadcast type data => exact ho
  | serverSendTimer =>
      intro e datagram hmem ping hping
      obtain ⟨messages, hincoming, hreg, -⟩ := hh.serverSendTimer.2 e
      rw [hincoming, List.mem_append, List.mem_map] at hmem
      rcases hmem with hold | ⟨message, hmessage, rfl⟩
      · exact ho e datagram hold ping hping
      · exact hkeeps ping hping e (hreg (List.ne_nil_of_mem hmessage))
  | deliver e now source =>
      intro e' datagram hmem ping hping
      have hpings : (h.step (.deliver e now source)).pings = h.pings := by
        cases hincoming : h.incoming e with
        | nil => rw [step_deliver_nil hincoming]
        | cons first rest =>
            obtain ⟨c', -, hstep⟩ := step_deliver hh hincoming now source
            rw [hstep]
      rw [hpings]
      exact ho e' datagram (mem_incoming_deliver hh hmem) ping hping

/-- A step that does not keep the replies paired puts one on its way, or makes one of
them late. -/
theorem not_own_step (ho : h.Own) (hh : h.Tracked) (hbreaks : ¬ h.KeepsPaired event) :
    ¬ (h.step event).Own := by
  intro hown
  apply hbreaks
  cases event with
  | serverSendTimer =>
      intro ping hping e hreg
      obtain ⟨messages, hincoming, -, hsent⟩ := hh.serverSendTimer.2 e
      have hne : h.replies ≠ [] := by
        intro hnil
        rw [hnil] at hping
        cases hping
      obtain ⟨message, hmessage⟩ := List.exists_mem_of_ne_nil _ (hsent hreg hne)
      refine hown e (message, h.replies.head?.join) ?_ ping hping
      rw [hincoming, List.mem_append, List.mem_map]
      exact .inr ⟨message, hmessage, rfl⟩
  | sendHeartBeat e now =>
      intro hawaiting datagram hmem
      rw [Option.eq_none_iff_forall_not_mem]
      intro ping hping
      have hearlier := ho e datagram hmem ping hping
      have hlater := hown e datagram hmem ping hping
      simp only [Heartbeats.step, hawaiting] at hlater
      rw [if_neg (by decide), Function.update_self, hearlier, Ping.mk.injEq] at hlater
      omega
  | _ => trivial

/-! ## Deliveries -/

/-- Whatever is delivered from here on is paired. -/
def Sound (h : Heartbeats) : Prop :=
  ∀ deliveries : List HeartbeatsEvent, (∀ event ∈ deliveries, IsDeliver event) →
    EachStep step Paired h deliveries

theorem Own.paired (ho : h.Own) (hh : h.Tracked) (event : HeartbeatsEvent) : h.Paired event := by
  cases event with
  | deliver e now source =>
      intro datagram hhead client hok htakes
      have hmem := List.mem_of_mem_head? hhead
      obtain ⟨c', hok', hnone, -⟩ :=
        (hh.incoming e datagram hmem).handleReceive (h.clients e) now source
      rw [hok'] at hok
      obtain rfl := Option.some.inj hok
      cases hreply : datagram.2 with
      | none => exact absurd htakes (hnone hreply)
      | some ping => rw [ho e datagram hmem ping hreply]
  | _ => trivial

/-- Delivering what is on its way to a client brings any reply of another ping to
light. -/
theorem own_of_sound (hh : h.Tracked) (hs : h.Sound) : h.Own := by
  intro e
  generalize hincoming : h.incoming e = datagrams
  induction datagrams generalizing h with
  | nil => exact nofun
  | cons first rest ih =>
      -- A time at which the client has not had a response yet.
      let deliver : HeartbeatsEvent := .deliver e ((h.clients e).lastResponseTime + 1) ⟨0, 0⟩
      obtain ⟨c', hok, hstep⟩ :=
        step_deliver hh hincoming ((h.clients e).lastResponseTime + 1) ⟨0, 0⟩
      intro datagram hmem ping hping
      rcases List.mem_cons.mp hmem with rfl | hmem
      · have hpaired : h.Paired deliver := (hs [deliver] (by simp [deliver, IsDeliver])).1
        obtain ⟨c'', hok', -, hsome⟩ := (hh.incoming e datagram (by rw [hincoming]; simp)).handleReceive
          (h.clients e) ((h.clients e).lastResponseTime + 1) ⟨0, 0⟩
        have htag := hpaired datagram (by rw [hincoming]; rfl) c'' (by rw [hok']; rfl)
          (hsome (by rw [Option.mem_def.mp hping]; rfl) (by simp))
        rw [Option.mem_def, htag] at hping
        exact (Option.some.inj hping).symm
      · have hrest := ih (hh.step deliver) (fun deliveries hd => ?_) (by simp [deliver, hstep])
          datagram hmem ping hping
        · rw [hrest, hstep]
        · refine (hs (deliver :: deliveries) fun event hevent => ?_).2
          rcases List.mem_cons.mp hevent with rfl | hevent
          · trivial
          · exact hd event hevent

theorem sound_of_own (hh : h.Tracked) (ho : h.Own) : h.Sound := by
  intro deliveries hdeliveries
  induction deliveries generalizing h with
  | nil => trivial
  | cons event events ih =>
      have hkeeps : h.KeepsPaired event := by
        have hevent := hdeliveries event List.mem_cons_self
        cases event with
        | deliver e now source => trivial
        | _ => cases hevent
      exact ⟨ho.paired hh event, ih (hh.step event) (ho.step hh hkeeps) fun event hevent =>
        hdeliveries event (List.mem_cons_of_mem _ hevent)⟩

/-- The replies that the clients take, in the course of the run and however the
datagrams on their way are then delivered, are those to their own latest pings,
exactly when every step of the run keeps them so. -/
theorem paired_iff (clients : Endpoint → Client) (events : List HeartbeatsEvent) :
    EachStep step KeepsPaired (start clients) events ↔
      ∀ before after deliveries, events = before ++ after →
        (∀ event ∈ deliveries, IsDeliver event) →
        EachStep step Paired (start clients) (before ++ deliveries) := by
  let Inv (h : Heartbeats) : Prop := h.Tracked ∧ h.Own
  have hstart : Inv (start clients) := ⟨tracked_start clients, nofun⟩
  have hkeep (h : Heartbeats) (event : HeartbeatsEvent) (hh : Inv h) (hq : h.KeepsPaired event) :
      Inv (h.step event) := ⟨hh.1.step event, hh.2.step hh.1 hq⟩
  have hsound : Always step Sound (start clients) events ↔
      EachStep step KeepsPaired (start clients) events :=
    always_iff_eachStep hstart (fun h hh => sound_of_own hh.1 hh.2) hkeep
      fun h event hh hq hs => not_own_step hh.2 hh.1 hq (own_of_sound (hh.1.step event) hs)
  constructor
  · intro hrun before after deliveries hevents hdeliveries
    have hinv := always_of_eachStep hstart hkeep hrun
    rw [hevents, eachStep_append] at hrun
    refine eachStep_append.mpr ⟨?_, ?_⟩
    · exact (always_of_eachStep hstart hkeep hrun.1).eachStep fun h event hh => hh.2.paired hh.1 event
    · obtain ⟨hh, ho⟩ := always_iff.mp hinv before after hevents
      exact sound_of_own hh ho deliveries hdeliveries
  · intro hpaired
    refine hsound.mp (always_iff.mpr fun before after hevents deliveries hdeliveries => ?_)
    exact (eachStep_append.mp (hpaired before after deliveries hevents hdeliveries)).2

instance (c c' : Client) : Decidable (TakesReply c c') := by
  unfold TakesReply
  infer_instance

instance (h : Heartbeats) : ∀ event, Decidable (h.Paired event)
  | .deliver e now source =>
    have (datagram : Bytes × Option Ping) : Decidable (∀ client ∈
        ((h.clients e).handleReceive now .success source datagram.1).toOption,
        TakesReply (h.clients e) client → datagram.2 = some ⟨e, h.pings e⟩) :=
      Option.decidableForallMem _
    Option.decidableForallMem _
  | .sendHeartBeat _ _ | .checkTimeout _ _ | .handlePing _ | .reqConnectData _
  | .disconnectData _ | .broadcast _ _ | .serverSendTimer => inferInstanceAs (Decidable True)

/-- Two clients have a ping out. The reply to the first one's goes to both, and ends
the wait of the second. -/
theorem not_paired_twoClients :
    ¬ ∀ (clients : Endpoint → Client) (events : List HeartbeatsEvent),
      EachStep step Paired (start clients) events := by
  intro h
  let first : Endpoint := ⟨1, 4000⟩
  let second : Endpoint := ⟨1, 4001⟩
  exact absurd (h (fun _ => .new ⟨0, 0, .finite 0, .finite 0, .finite 0, .finite 0⟩ ⟨1, 4242⟩ 0)
    [.reqConnectData first, .reqConnectData second, .deliver first 1 ⟨1, 4242⟩,
      .deliver second 1 ⟨1, 4242⟩, .sendHeartBeat first 2, .sendHeartBeat second 3,
      .handlePing first, .serverSendTimer, .deliver second 4 ⟨1, 4242⟩]) (by decide +kernel)

end Heartbeats

end BeeRType
