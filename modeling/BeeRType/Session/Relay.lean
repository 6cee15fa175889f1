-- SUMMARY: One game, its server and one of its clients: how what packets say gets from the game to the screen.
import BeeRType.Client.MainLoop
import BeeRType.Client.Rendering
import BeeRType.World.Packets

/-!
# Relay

A packet goes from the game through the send queue, over a channel that neither loses
nor reorders datagrams, into the client's mailbox, and from there to the scene. On
each part of the way it is known what the packets say. So of whatever they say, the
scene has seen the beginning, and the rest is in the mailbox or under way.
-/

open Cpp Std Transition Replay

namespace BeeRType

/-- A game, the server, and the client at an endpoint. -/
structure Session where
  history : History
  server : Server
  loop : MainLoop
  /-- How many of the datagrams sent to it the client has received. -/
  delivered : Nat

inductive SessionEvent where
  /-- A call on the game, which may broadcast packets. -/
  | call (c : Call)
  | sendPong
  | sendTimer
  | reqConnectData (e : Endpoint)
  | disconnectData (e : Endpoint)
  /-- The client receives the oldest datagram on its way. -/
  | deliver (now : ℚ) (source : Endpoint)
  /-- The next step of the client's main loop. -/
  | mainLoop (inputs : List InputEvent)

namespace Session

def nextDatagram (s : Session) (e : Endpoint) : Option Bytes := (s.server.sentTo e)[s.delivered]?

def call (s : Session) (c : Call) : Session :=
  let history := s.history.step c
  let messages := history.game.broadcasts.drop s.history.game.broadcasts.length
  { s with
    history
    server := messages.foldl (fun s m => s.broadcastPacket m.type m.payload.data) s.server }

def step (e : Endpoint) (s : Session) : SessionEvent → Session
  | .call c => s.call c
  | .sendPong => { s with server := s.server.sendPong }
  | .sendTimer => { s with server := s.server.handleSendTimer }
  | .reqConnectData e' => { s with server := (s.server.reqConnectData e').2 }
  | .disconnectData e' => { s with server := (s.server.disconnectData e').2 }
  | .deliver now source =>
    match s.nextDatagram e with
    | none => s
    | some message =>
      -- `handleReceive` waits for the mutex.
      if s.loop.client.mutexLocked then s
      else match s.loop.client.handleReceive now .success source message with
        | .ok client => { s with loop := { s.loop with client }, delivered := s.delivered + 1 }
        | .error _ => s
  | .mainLoop inputs => { s with loop := s.loop.advance inputs }

/-- The packet in the mailbox creates and destroys nothing. -/
def Idle (s : Session) : Prop := ∀ c : ObjectClass, s.loop.client.packetData.announces c = none

/-- The game goes on and its counters fit an `int`; the client stays registered and
its window open; and a packet that creates or destroys is handled before the next
datagram gets into the mailbox. -/
def KeepsUp (e : Endpoint) (s : Session) : SessionEvent → Prop
  | .call c => c.InGame ∧ (s.history.step c).game.CountersFit
  | .disconnectData e' => e' ≠ e
  | .deliver _ _ => s.loop.client.mutexLocked = false → s.Idle
  | .mainLoop inputs => .closed ∉ inputs
  | _ => True

/-- Nothing waits in the send queue, on the way or in the mailbox. -/
structure Settled (s : Session) (e : Endpoint) : Prop where
  queue : s.server.sendQueue = []
  delivered : s.delivered = (s.server.sentTo e).length
  idle : s.Idle

/-- The state before a game: a new `Game`, nothing to be seen, and no packet under way
that announces anything. -/
structure BeforeGame (s : Session) (e : Endpoint) : Prop where
  history : s.history = .new
  once : s.server.AtMostOnce e
  registered : s.server.Registered e
  queue : s.server.sendQueue = []
  delivered : s.delivered = (s.server.sentTo e).length
  idle : s.Idle
  empty : ∀ c, s.loop.scene.drawn c = ∅

end Session

/-! ## What a datagram says -/

/-- The datagram is a packet of the message. -/
def Message.SentAs (data : Bytes) (m : Message) : Prop :=
  m.Readable ∧ ∃ s : Server, (s.createPacket m.type m.payload.data).1 = data

/-- The packet in the mailbox is what a client makes of the message. -/
structure PacketData.Reads (p : PacketData) (m : Message) : Prop where
  action : p.action = m.type.code
  serverId : m.payload.f1 = toStringInt p.serverId.toInt
  newX : stof m.payload.f2 = .ok p.newX
  newY : stof m.payload.f3 = .ok p.newY
  newVx : stof m.payload.f4 = .ok p.newVx
  newVy : stof m.payload.f5 = .ok p.newVy

/-- The packets that a server sends for itself. -/
def PacketType.IsAnswer : PacketType → Prop
  | .heartbeat | .gameStarted | .gameNotStarted => True
  | _ => False

variable {m : Message} {client client' : Client} {data : Bytes} {now : ℚ} {source : Endpoint}

/-- A packet that gets to the conversions sets the action to its type. -/
theorem action_parseElements (client : Client) (b : UInt8) (elements : List Bytes) :
    (client.parseElements b elements).packetData.action = b.toNat := by
  refine Client.tryAssign_frame (f := fun c => c.packetData.action) rfl fun serverId => ?_
  refine Client.tryAssign_frame (f := fun c => c.packetData.action) rfl fun newX => ?_
  refine Client.tryAssign_frame (f := fun c => c.packetData.action) rfl fun newY => ?_
  refine Client.tryAssign_frame (f := fun c => c.packetData.action) rfl fun newVx => ?_
  refine Client.tryAssign_frame (f := fun c => c.packetData.action) rfl fun newVy => ?_
  refine Client.tryAssign_frame (f := fun c => c.packetData.action) rfl fun packetnb => ?_
  unfold Client.checkPacketnb
  split <;> rfl

theorem packetData_handleReceive {t : PacketType} {rest : Bytes}
    (h : client.handleReceive now .success source (t.byte :: 59 :: rest) = .ok client') :
    client'.packetData = client.packetData ∨
      t ≠ .heartbeat ∧ client'.packetData.action = t.code := by
  simp only [Client.handleReceive, Client.parseMessage, maxLength, List.take_succ_cons] at h
  split at h
  · cases h
    exact .inl rfl
  · split at h
    · cases h
      exact .inl rfl
    · rename_i hheartbeat
      cases h
      refine .inr ⟨fun ht => hheartbeat (by rw [ht]), ?_⟩
      rw [action_parseElements, t.toNat_byte]

/-- What a client has received of a message that the game has sent. -/
theorem exists_reads {m : Message} (hm : m.type ≠ .heartbeat) (hp : m.payload.CallSite) (s : Server)
    (c : Client) (source : Endpoint) (now : ℚ) : ∃ c',
      c.handleReceive now .success source (s.createPacket m.type m.payload.data).1 = .ok c' ∧
        c'.packetData.Reads m := by
  obtain ⟨id, x, y, vx, vy, hid, hx, hy, hvx, hvy⟩ := hp.parses
  obtain ⟨c', hrecv, hdata, -⟩ :=
    Client.handleReceive_createPacket hm hp.noDelim (hp.fits s m.type) hid hx hy hvx hvy c source now
  refine ⟨c', hrecv, ?_⟩
  rw [hdata]
  exact ⟨rfl, hid, hx, hy, hvx, hvy⟩

namespace Message.SentAs

/-- A packet of the server can be received. -/
theorem exists_handleReceive (hm : m.SentAs data) (client : Client) (now : ℚ)
    (source : Endpoint) : ∃ client', client.handleReceive now .success source data = .ok client' :=
  Built.handleReceive (hm.2.imp fun _ h => ⟨m, hm.1, h⟩) client now source

/-- The mailbox keeps its packet, gets a UI_UPDATE, or gets all that the message says. -/
theorem received (hm : m.SentAs data)
    (h : client.handleReceive now .success source data = .ok client') :
    m.type = .heartbeat ∧ client'.packetData = client.packetData ∨
      m.type = .uiUpdate ∧ (client'.packetData = client.packetData ∨
        client'.packetData.action = PacketType.uiUpdate.code) ∨
      client'.packetData.Reads m := by
  obtain ⟨hreadable, s, rfl⟩ := hm
  have hdata := h
  rw [Server.createPacket_data m.payload.data_ne_nil] at hdata
  by_cases hheartbeat : m.type = .heartbeat
  · -- A heartbeat does not get to the mailbox.
    rw [hheartbeat] at hdata
    exact .inl ⟨hheartbeat, (packetData_handleReceive hdata).resolve_right fun h => h.1 rfl⟩
  · rcases hreadable with hui | hp
    · -- A conversion of UI_UPDATE may throw, after its type has got to the mailbox.
      rw [hui] at hdata
      exact .inr (.inl ⟨hui, (packetData_handleReceive hdata).imp_right And.right⟩)
    · obtain ⟨client'', hreceive, hreads⟩ := exists_reads hheartbeat hp s client source now
      cases hreceive.symm.trans h
      exact .inr (.inr hreads)

end Message.SentAs

/-! ## The server -/

namespace Server

/-- The server puts packets on their way to a client, and others into its queue. -/
structure Passes (s s' : Server) (e : Endpoint) (sent queued : List Message) : Prop where
  once : s.AtMostOnce e → s'.AtMostOnce e
  registered : s.Registered e → s'.Registered e
  sentTo : ∃ datagrams, s'.sentTo e = s.sentTo e ++ datagrams ∧
    List.Forall₂ Message.SentAs datagrams sent
  queue : ∃ datagrams, s'.sendQueue = s.sendQueue ++ datagrams ∧
    List.Forall₂ Message.SentAs datagrams queued

variable {s s' : Server} {e e' : Endpoint} {messages sent queued : List Message}


theorem Registered.createClient (h : s.Registered e) (e' : Endpoint) :
    (s.createClient e').2.Registered e := by
  obtain ⟨k, c, hk, hc⟩ := h
  refine ⟨k, c, ?_, hc⟩
  cases hfind : s.findClient e' with
  | some client =>
      rw [createClient_of_registered hfind]
      exact hk
  | none =>
      rw [createClient_of_new hfind, ExtTreeMap.getElem?_insertIfNew, if_neg]
      · exact hk
      · rintro ⟨heq, hnew⟩
        rw [Std.compare_eq_iff_eq.mp heq, ExtTreeMap.mem_iff_isSome_getElem?, hk] at hnew
        exact hnew rfl

theorem Registered.disconnectData (h : s.Registered e) (hne : e' ≠ e) :
    (s.disconnectData e').2.Registered e := by
  obtain ⟨k, c, hk, hc⟩ := h
  refine ⟨k, c, ?_, hc⟩
  unfold Server.disconnectData
  split
  · rename_i client hfind
    dsimp only
    rw [ExtTreeMap.getElem?_erase, if_neg]
    · exact hk
    · intro heq
      have hclient := findClient_some hfind
      rw [Std.compare_eq_iff_eq.mp heq, hk] at hclient
      exact hne (by rw [← hclient.2, ← hc, Option.some.inj hclient.1])
  · exact hk


theorem Registered.of_clients (h : s.Registered e) (hclients : s'.clients = s.clients) :
    s'.Registered e := by
  obtain ⟨k, c, hk, hc⟩ := h
  exact ⟨k, c, by rw [hclients]; exact hk, hc⟩

/-- The packets of the messages go to the end of the send queue. -/
theorem passes_broadcastAll (hreadable : ∀ m ∈ messages, m.Readable) :
    s.Passes (messages.foldl (fun s m => s.broadcastPacket m.type m.payload.data) s) e [] messages := by
  have hqueue : ∃ datagrams sequenceNumber, List.Forall₂ Message.SentAs datagrams messages ∧
      messages.foldl (fun s m => s.broadcastPacket m.type m.payload.data) s =
        { s with sendQueue := s.sendQueue ++ datagrams, sequenceNumber } := by
    induction messages generalizing s with
    | nil => exact ⟨[], s.sequenceNumber, .nil, by rw [List.append_nil]; rfl⟩
    | cons m messages ih =>
        obtain ⟨datagrams, sequenceNumber, hsent, heq⟩ :=
          ih (s := s.broadcastPacket m.type m.payload.data)
            fun m' hm' => hreadable m' (List.mem_cons_of_mem _ hm')
        refine ⟨(s.createPacket m.type m.payload.data).1 :: datagrams, sequenceNumber,
          .cons ⟨hreadable m List.mem_cons_self, s, rfl⟩ hsent, ?_⟩
        rw [List.foldl_cons, heq]
        simp [broadcastPacket, broadcast, createPacket]
  obtain ⟨datagrams, sequenceNumber, hsent, heq⟩ := hqueue
  rw [heq]
  exact ⟨fun h => h.of_clients rfl, fun h => h, ⟨[], (List.append_nil _).symm, .nil⟩,
    datagrams, rfl, hsent⟩

theorem sentAs_nil (s : Server) (t : PacketType) :
    Message.SentAs (s.createPacket t []).1 ⟨t, .minusOnes⟩ :=
  ⟨.inr Payload.minusOnes_callSite, s, by rw [s.createPacket_nil]⟩

theorem passes_sendPong : s.Passes s.sendPong e [] [⟨.heartbeat, .minusOnes⟩] :=
  ⟨fun h => h.of_clients rfl, fun h => h, ⟨[], (List.append_nil _).symm, .nil⟩,
    [(s.createPacket .heartbeat []).1], rfl, .cons (sentAs_nil _ _) .nil⟩

theorem sent_reqConnectData : ∃ t : PacketType, t.IsAnswer ∧
    (s.reqConnectData e).2.sent = s.sent ++ [(e, (s.createPacket t []).1)] := by
  have hnumber : (s.createClient e).2.sequenceNumber = s.sequenceNumber :=
    createClient_frame (f := fun s => s.sequenceNumber) fun _ _ _ _ => rfl
  have hsent : (s.createClient e).2.sent = s.sent :=
    createClient_frame (f := fun s => s.sent) fun _ _ _ _ => rfl
  have hsend : ∀ t : PacketType, ((s.createClient e).2.sendPacket t [] e).sent =
      s.sent ++ [(e, (s.createPacket t []).1)] := by
    intro t
    change (s.createClient e).2.sent ++ [(e, ((s.createClient e).2.createPacket t []).1)] = _
    rw [hsent, createPacket_congr hnumber]
  unfold reqConnectData
  dsimp only
  split
  · exact ⟨.gameStarted, trivial, hsend _⟩
  · exact ⟨.gameNotStarted, trivial, hsend _⟩

theorem passes_reqConnectData (e' : Endpoint) : ∃ sent, (∀ m ∈ sent, m.type.IsAnswer) ∧
    s.Passes (s.reqConnectData e').2 e sent [] := by
  obtain ⟨t, ht, hsent⟩ := sent_reqConnectData (s := s) (e := e')
  have hqueue : (s.reqConnectData e').2.sendQueue = s.sendQueue ++ [] := by
    rw [reqConnectData_unicasts.queue, List.append_nil]
  have hregistered : s.Registered e → (s.reqConnectData e').2.Registered e := fun h =>
    (h.createClient e').of_clients reqConnectData_clients
  have hsentTo := sentTo_append (e := e) hsent
  by_cases he : e' = e
  · refine ⟨[⟨t, .minusOnes⟩], by simpa using ht, .reqConnectData, hregistered,
      ⟨[(s.createPacket t []).1], ?_, .cons (sentAs_nil _ _) .nil⟩, [], hqueue, .nil⟩
    rw [hsentTo]
    simp [he]
  · refine ⟨[], by simp, .reqConnectData, hregistered, ⟨[], ?_, .nil⟩, [], hqueue, .nil⟩
    rw [hsentTo]
    simp [he]

theorem passes_disconnectData (hne : e' ≠ e) : s.Passes (s.disconnectData e').2 e [] [] := by
  have hsentTo : (s.disconnectData e').2.sentTo e = s.sentTo e ++ [] := by
    rw [List.append_nil]
    by_cases hknown : s.Registered e'
    · obtain ⟨availableIds, k, hsilent⟩ := disconnectData_silent hknown
      rw [hsilent]
      rfl
    · exact (disconnectData_unicasts hknown).1.sentTo_other hne
  exact ⟨.disconnectData, fun h => h.disconnectData hne, ⟨[], hsentTo, .nil⟩, [],
    by rw [sendQueue_disconnectData, List.append_nil], .nil⟩

end Server

/-! ## The scene -/

namespace GameScene

variable {scene : GameScene} {p : PacketData} {inputs : List InputEvent}

/-- Unless the window is closed, input changes which players are alive and what is to
be sent, and nothing else. -/
theorem handleInput_frame_open {α : Type} {f : GameScene → α}
    (hf : ∀ (scene : GameScene) playerAliveStatus newAction,
      f { scene with playerAliveStatus, newAction } = f scene)
    (h : .closed ∉ inputs) : f (scene.handleInput p inputs).1 = f scene := by
  induction inputs generalizing scene with
  | nil => rfl
  | cons event inputs ih =>
      have htail : .closed ∉ inputs := fun hmem => h (List.mem_cons_of_mem _ hmem)
      have hevent : f (scene.handleEvent p event).1 = f scene := by
        cases event with
        | closed => exact absurd List.mem_cons_self h
        | keyPressed key => exact handleKeyPress_frame hf key
        | other => rfl
      rw [handleInput]
      split
      · rename_i scene' heq
        rw [heq] at hevent
        exact hevent
      · rename_i scene' heq
        rw [heq] at hevent
        rw [ih htail]
        exact hevent
end GameScene

namespace MainLoop

theorem scene_sendNewAction (m : MainLoop) :
    m.sendNewAction.scene = { m.scene with newAction := none } := by
  unfold sendNewAction
  dsimp only
  split <;> rfl

theorem packetData_sendNewAction (m : MainLoop) :
    m.sendNewAction.client.packetData = m.client.packetData := by
  unfold sendNewAction
  dsimp only
  split <;> rfl

end MainLoop

/-! ## Topics -/

/-- Something that packets are about: what a message says about it, what the packet in
the mailbox says, and what the scene shows once that much has been said. -/
structure Topic (β : Type) where
  tells : Message → List β
  mailbox : PacketData → List β
  Shows : GameScene → List β → Prop
  answers : ∀ {m : Message}, m.type.IsAnswer → tells m = []
  reset : mailbox .reset = []
  received : ∀ {m : Message} {data : Bytes} {client client' : Client} {now : ℚ} {source : Endpoint},
    m.SentAs data → mailbox client.packetData = [] →
      client.handleReceive now .success source data = .ok client' →
        mailbox client'.packetData = tells m
  consume : ∀ {scene : GameScene} {seen : List β} {p : PacketData}, Shows scene seen →
    Shows (scene.consume p) (seen ++ mailbox p)
  input : ∀ (scene : GameScene) playerAliveStatus newAction seen,
    Shows { scene with playerAliveStatus, newAction } seen = Shows scene seen

/-- What messages say, one after the other. -/
def Topic.told {β : Type} (topic : Topic β) (messages : List Message) : List β :=
  messages.flatMap topic.tells

namespace Topic

variable {β : Type} {topic : Topic β} {messages : List Message}

@[simp] theorem told_nil : topic.told [] = [] := rfl

@[simp] theorem told_cons : topic.told (m :: messages) = topic.tells m ++ topic.told messages :=
  List.flatMap_cons

@[simp] theorem told_append {messages' : List Message} :
    topic.told (messages ++ messages') = topic.told messages ++ topic.told messages' :=
  List.flatMap_append

theorem told_answers (h : ∀ m ∈ messages, m.type.IsAnswer) : topic.told messages = [] :=
  List.flatMap_eq_nil_iff.mpr fun m hm => topic.answers (h m hm)

/-- If a message says one thing at most, the first things said are those of the first
messages. -/
theorem exists_prefix (hone : ∀ m, (topic.tells m).length ≤ 1) {seen : List β}
    (h : seen <+: topic.told messages) : ∃ first, first <+: messages ∧ topic.told first = seen := by
  induction messages generalizing seen with
  | nil => exact ⟨[], List.prefix_rfl, (List.prefix_nil.mp h).symm⟩
  | cons m messages ih =>
      cases seen with
      | nil => exact ⟨[], List.nil_prefix, rfl⟩
      | cons said seen =>
          rw [told_cons] at h
          cases htells : topic.tells m with
          | nil =>
              rw [htells] at h
              obtain ⟨first, hfirst, htold⟩ := ih h
              exact ⟨m :: first, List.cons_prefix_cons.mpr ⟨rfl, hfirst⟩, by
                rw [told_cons, htells, htold, List.nil_append]⟩
          | cons said' rest =>
              have hrest : rest = [] := by
                have hlength := hone m
                rw [htells, List.length_cons] at hlength
                exact List.length_eq_zero_iff.mp (by omega)
              rw [htells, hrest] at h
              obtain ⟨rfl, hseen⟩ := List.cons_prefix_cons.mp h
              obtain ⟨first, hfirst, htold⟩ := ih hseen
              exact ⟨m :: first, List.cons_prefix_cons.mpr ⟨rfl, hfirst⟩, by
                rw [told_cons, htells, hrest, htold, List.singleton_append]⟩

end Topic

/-! ## The invariants -/

namespace Session

/-- What is known of a session that keeps up. -/
structure Serves (e : Endpoint) (s : Session) : Prop where
  streams : Game.Streams .new s.history.game
  inRange : s.history.game.InRange
  once : s.server.AtMostOnce e
  registered : s.server.Registered e
  delivered_le : s.delivered ≤ (s.server.sentTo e).length

/-- What the game has said on a topic is what the scene has seen, the mailbox says, and
packets under way say. -/
def Relays {β : Type} (topic : Topic β) (e : Endpoint) (s : Session) : Prop :=
  ∃ underWay waiting seen,
    List.Forall₂ Message.SentAs ((s.server.sentTo e).drop s.delivered) underWay ∧
    List.Forall₂ Message.SentAs s.server.sendQueue waiting ∧ topic.Shows s.loop.scene seen ∧
    topic.told s.history.game.broadcasts =
      seen ++ topic.mailbox s.loop.client.packetData ++ topic.told underWay ++ topic.told waiting

/-- A datagram that gets into the mailbox finds nothing there on the topic. -/
def Attends {β : Type} (topic : Topic β) (s : Session) : SessionEvent → Prop
  | .deliver _ _ => s.loop.client.mutexLocked = false →
      topic.mailbox s.loop.client.packetData = []
  | _ => True

variable {β : Type} {topic : Topic β} {s : Session} {e e' : Endpoint} {event : SessionEvent}
  {server : Server} {history : History} {sent queued : List Message}

/-! ## The server's steps -/

theorem Serves.passes (hs : s.Serves e) (h : s.server.Passes server e sent queued)
    (hstreams : Game.Streams .new history.game) (hinRange : history.game.InRange) :
    Serves e { s with history, server } := by
  obtain ⟨datagrams, hsentTo, -⟩ := h.sentTo
  refine ⟨hstreams, hinRange, h.once hs.once, h.registered hs.registered, ?_⟩
  dsimp only
  rw [hsentTo, List.length_append]
  exact hs.delivered_le.trans (Nat.le_add_right _ _)

/-- What is sent at once says nothing on the topic, and what is queued says what the game
has added. -/
theorem Relays.passes (hr : Relays topic e s) (hle : s.delivered ≤ (s.server.sentTo e).length)
    (h : s.server.Passes server e sent queued) (hsent : topic.told sent = [])
    (hgame : topic.told history.game.broadcasts =
      topic.told s.history.game.broadcasts ++ topic.told queued) :
    Relays topic e { s with history, server } := by
  obtain ⟨underWay, waiting, seen, hunderWay, hwaiting, hshows, heq⟩ := hr
  obtain ⟨datagrams, hsentTo, hfirst⟩ := h.sentTo
  obtain ⟨datagrams', hqueue, hlast⟩ := h.queue
  refine ⟨underWay ++ sent, waiting ++ queued, seen, ?_, ?_, hshows, ?_⟩
  · dsimp only
    rw [hsentTo, List.drop_append_of_le_length hle]
    exact List.rel_append hunderWay hfirst
  · dsimp only
    rw [hqueue]
    exact List.rel_append hwaiting hlast
  · dsimp only
    rw [hgame, heq, Topic.told_append, Topic.told_append, hsent, List.append_nil, List.append_assoc]

/-- What a call adds to the packets of the game is queued. -/
theorem Serves.exists_passes_call (hs : s.Serves e) {call : Call}
    (hkeeps : Game.KeepsInRange s.history.game (s.history.step call).game)
    (hfit : (s.history.step call).game.CountersFit) : ∃ server messages,
      s.call call = { s with history := s.history.step call, server } ∧
        s.server.Passes server e [] messages ∧
        (s.history.step call).game.broadcasts = s.history.game.broadcasts ++ messages := by
  obtain ⟨messages, hmessages⟩ := hkeeps.broadcasts
  have hreadable : ∀ m ∈ messages, m.Readable := fun m hm =>
    (hkeeps.inRange hs.inRange hfit).readable m (by
      rw [hmessages]
      exact List.mem_append_right _ hm)
  refine ⟨_, messages, ?_, Server.passes_broadcastAll hreadable, hmessages⟩
  unfold Session.call
  dsimp only
  rw [hmessages, List.drop_left]

theorem Serves.called (hs : s.Serves e) {call : Call}
    (hkeeps : Game.KeepsInRange s.history.game (s.history.step call).game)
    (hstreams : Game.Streams .new (s.history.step call).game)
    (hfit : (s.history.step call).game.CountersFit) : Serves e (s.call call) := by
  obtain ⟨server, messages, heq, hpasses, -⟩ := hs.exists_passes_call hkeeps hfit
  rw [heq]
  exact hs.passes hpasses hstreams (hkeeps.inRange hs.inRange hfit)

theorem Relays.called (hr : Relays topic e s) (hs : s.Serves e) {call : Call}
    (hkeeps : Game.KeepsInRange s.history.game (s.history.step call).game)
    (hfit : (s.history.step call).game.CountersFit) : Relays topic e (s.call call) := by
  obtain ⟨server, messages, heq, hpasses, hmessages⟩ := hs.exists_passes_call hkeeps hfit
  rw [heq]
  exact hr.passes hs.delivered_le hpasses rfl (by rw [hmessages, Topic.told_append])

/-- What holds across the calls of a running game. -/
theorem rule_step {R : Game → Game → Prop} (hR : Game.Rule R) (history : History) {call : Call}
    (hcall : call.InGame) : R history.game (history.step call).game := by
  obtain ⟨h, -⟩ | ⟨game, -, hok, h⟩ | ⟨exception, -, -, h⟩ := history.step_cases call <;> rw [h]
  · exact hR.refl _
  · exact hR.perform hcall hok
  · exact hR.refl _

theorem Serves.sendTimer (hs : s.Serves e) :
    Serves e { s with server := s.server.handleSendTimer } := by
  cases hqueue : s.server.sendQueue with
  | nil =>
      rw [Server.handleSendTimer_nil hqueue]
      exact hs
  | cons message rest =>
      refine ⟨hs.streams, hs.inRange, hs.once.handleSendTimer,
        hs.registered.of_clients (by rw [Server.handleSendTimer_cons hqueue]), ?_⟩
      dsimp only
      rw [Server.sentTo_handleSendTimer_of_registered hqueue hs.once hs.registered,
        List.length_append]
      exact hs.delivered_le.trans (Nat.le_add_right _ _)

/-- The first message moves from those that wait to those under way. -/
theorem Relays.sendTimer (hr : Relays topic e s) (hs : s.Serves e) :
    Relays topic e { s with server := s.server.handleSendTimer } := by
  cases hqueue : s.server.sendQueue with
  | nil =>
      rw [Server.handleSendTimer_nil hqueue]
      exact hr
  | cons message rest =>
      have hsentTo := Server.sentTo_handleSendTimer_of_registered hqueue hs.once hs.registered
      obtain ⟨underWay, waiting, seen, hunderWay, hwaiting, hshows, heq⟩ := hr
      rw [hqueue] at hwaiting
      obtain ⟨m, later, hm, hlater, rfl⟩ := List.forall₂_cons_left_iff.mp hwaiting
      refine ⟨underWay ++ [m], later, seen, ?_, ?_, hshows, ?_⟩
      · dsimp only
        rw [hsentTo, List.drop_append_of_le_length hs.delivered_le]
        exact List.rel_append hunderWay (.cons hm .nil)
      · dsimp only
        rw [Server.handleSendTimer_cons hqueue]
        exact hlater
      · dsimp only
        rw [heq]
        simp only [Topic.told_cons, Topic.told_append, Topic.told_nil, List.append_nil,
          List.append_assoc]

/-! ## The client's steps -/

theorem Relays.deliver (hr : Relays topic e s) (now : ℚ) (source : Endpoint)
    (h : s.Attends topic (.deliver now source)) : Relays topic e (s.step e (.deliver now source)) := by
  unfold Session.step
  cases hnext : s.nextDatagram e with
  | none => exact hr
  | some data =>
      dsimp only
      split
      · exact hr
      · rename_i hmutex
        obtain ⟨underWay, waiting, seen, hunderWay, hwaiting, hshows, heq⟩ := hr
        obtain ⟨hlt, hget⟩ := List.getElem?_eq_some_iff.mp hnext
        rw [List.drop_eq_getElem_cons hlt, hget] at hunderWay
        obtain ⟨m, later, hm, hlater, rfl⟩ := List.forall₂_cons_left_iff.mp hunderWay
        obtain ⟨client, hclient⟩ := hm.exists_handleReceive s.loop.client now source
        -- Nothing was in the mailbox, so that it now says what the datagram does.
        have hempty := h (Bool.eq_false_iff.mpr hmutex)
        rw [hclient]
        refine ⟨later, waiting, seen, hlater, hwaiting, hshows, ?_⟩
        dsimp only
        rw [heq, hempty, topic.received hm hempty hclient, Topic.told_cons]
        simp only [List.append_nil, List.append_assoc]

/-- A step of the client that leaves what is shown and the mailbox alone. -/
theorem Relays.of_loop {loop : MainLoop} (hr : Relays topic e s)
    (hshows : ∀ seen, topic.Shows s.loop.scene seen → topic.Shows loop.scene seen)
    (hpacket : loop.client.packetData = s.loop.client.packetData) :
    Relays topic e { s with loop } := by
  obtain ⟨underWay, waiting, seen, hunderWay, hwaiting, hseen, heq⟩ := hr
  refine ⟨underWay, waiting, seen, hunderWay, hwaiting, hshows seen hseen, ?_⟩
  dsimp only
  rw [heq, hpacket]

theorem Relays.mainLoop (hr : Relays topic e s) {inputs : List InputEvent}
    (hinputs : .closed ∉ inputs) : Relays topic e { s with loop := s.loop.advance inputs } := by
  unfold MainLoop.advance
  split
  · split
    · exact hr.of_loop (fun _ h => h) rfl
    · -- What the mailbox says is seen, and the mailbox is emptied.
      obtain ⟨underWay, waiting, seen, hunderWay, hwaiting, hshows, heq⟩ := hr
      refine ⟨underWay, waiting, _, hunderWay, hwaiting, topic.consume hshows, ?_⟩
      rw [heq]
      change _ = _ ++ topic.mailbox .reset ++ _ ++ _
      rw [topic.reset, List.append_nil]
  · have hinput : ∀ seen, topic.Shows s.loop.scene seen →
        topic.Shows (s.loop.scene.handleInput s.loop.client.packetData inputs).1 seen := by
      intro seen h
      rwa [GameScene.handleInput_frame_open (f := fun scene => topic.Shows scene seen)
        (fun scene alive action => topic.input scene alive action seen) hinputs]
    have hsent : ∀ (loop : MainLoop) seen, topic.Shows loop.scene seen →
        topic.Shows loop.sendNewAction.scene seen := by
      intro loop seen h
      rw [loop.scene_sendNewAction]
      rwa [topic.input loop.scene loop.scene.playerAliveStatus none seen]
    dsimp only
    split <;> exact hr.of_loop (fun seen h => hsent _ seen (hinput seen h))
      (MainLoop.packetData_sendNewAction _)
  · exact hr.of_loop (fun _ h => h) rfl
  · exact hr

/-! ## The steps of a session -/

theorem Serves.step (hs : s.Serves e) (h : s.KeepsUp e event) : Serves e (s.step e event) := by
  cases event with
  | call c =>
      have hstreams := rule_step Game.streams_rule s.history h.1
      exact hs.called (rule_step Game.keepsInRange_rule s.history h.1) (hs.streams.trans hstreams) h.2
  | sendPong => exact hs.passes Server.passes_sendPong hs.streams hs.inRange
  | sendTimer => exact hs.sendTimer
  | reqConnectData e' =>
      obtain ⟨sent, -, hpasses⟩ := s.server.passes_reqConnectData (e := e) e'
      exact hs.passes hpasses hs.streams hs.inRange
  | disconnectData e' => exact hs.passes (Server.passes_disconnectData h) hs.streams hs.inRange
  | deliver now source =>
      unfold Session.step
      cases hnext : s.nextDatagram e with
      | none => exact hs
      | some data =>
          dsimp only
          split
          · exact hs
          · split
            · exact ⟨hs.streams, hs.inRange, hs.once, hs.registered,
                (List.getElem?_eq_some_iff.mp hnext).1⟩
            · exact hs
  | mainLoop inputs => exact ⟨hs.streams, hs.inRange, hs.once, hs.registered, hs.delivered_le⟩

/-- What the packets say on a topic arrives in the order in which the game has said it. -/
theorem Relays.step (hr : Relays topic e s) (hs : s.Serves e) (h : s.KeepsUp e event)
    (hattends : s.Attends topic event) : Relays topic e (s.step e event) := by
  cases event with
  | call c => exact hr.called hs (rule_step Game.keepsInRange_rule s.history h.1) h.2
  | sendPong =>
      have hquiet : topic.told [⟨.heartbeat, .minusOnes⟩] = [] :=
        Topic.told_answers fun m hm => by
          rw [List.mem_singleton.mp hm]
          trivial
      refine hr.passes hs.delivered_le Server.passes_sendPong rfl ?_
      rw [hquiet, List.append_nil]
  | sendTimer => exact hr.sendTimer hs
  | reqConnectData e' =>
      obtain ⟨sent, hanswers, hpasses⟩ := s.server.passes_reqConnectData (e := e) e'
      exact hr.passes hs.delivered_le hpasses (Topic.told_answers hanswers) (List.append_nil _).symm
  | disconnectData e' =>
      exact hr.passes hs.delivered_le (Server.passes_disconnectData h) rfl (List.append_nil _).symm
  | deliver now source => exact hr.deliver now source hattends
  | mainLoop inputs => exact hr.mainLoop h

/-- Only the calls change the game. -/
theorem game_run {R : Game → Game → Prop} (hR : Game.Rule R) {es : List SessionEvent}
    (hrun : EachStep (step e) (KeepsUp e) s es) :
    R s.history.game (run (step e) s es).history.game := by
  induction es generalizing s with
  | nil => exact hR.refl _
  | cons event es ih =>
      refine hR.trans ?_ (ih hrun.2)
      cases event with
      | call c => exact rule_step hR s.history hrun.1.1
      | deliver now source =>
          unfold Session.step
          dsimp only
          split
          · exact hR.refl _
          · split
            · exact hR.refl _
            · split <;> exact hR.refl _
      | _ => exact hR.refl _

/-! ## A session from its start -/

theorem BeforeGame.serves (hs : s.BeforeGame e) : s.Serves e where
  streams := by
    rw [hs.history]
    exact Game.streams_rule.refl _
  inRange := by
    rw [hs.history]
    exact Game.inRange_new
  once := hs.once
  registered := hs.registered
  delivered_le := hs.delivered.le

theorem BeforeGame.relays (hs : s.BeforeGame e) (hshows : topic.Shows s.loop.scene [])
    (hmailbox : topic.mailbox s.loop.client.packetData = []) : Relays topic e s := by
  refine ⟨[], [], [], ?_, ?_, hshows, ?_⟩
  · rw [hs.delivered, List.drop_length]
    exact .nil
  · rw [hs.queue]
    exact .nil
  · rw [hs.history, hmailbox]
    rfl

/-- The start of a game as a call. -/
theorem BeforeGame.initializes (hs : s.BeforeGame e) {numPlayers : Int} (hn : numPlayers ≤ 2 ^ 31) :
    ∃ g, Game.new.initializePlayers numPlayers = .ok g ∧
      s.history.step (.initializePlayers numPlayers) = ⟨g, none⟩ ∧
      Game.KeepsInRange s.history.game g ∧ g.CountersFit := by
  obtain ⟨g, hg⟩ := Game.exists_initializePlayers (g := .new) rfl numPlayers
  have hok : Game.new.perform (.initializePlayers numPlayers) = .ok g := hg
  refine ⟨g, hg, ?_, ?_, ?_⟩
  · rw [hs.history]
    simp only [History.step, History.new, hok]
    rfl
  · rw [hs.history]
    refine Game.keepsInRange_perform (.inr (.inl ⟨_, rfl⟩)) (fun n heq => ?_) hok
    cases heq
    exact hn
  · rw [Game.initializePlayers_frame hg]
    have hzero : (0 : Int) ≤ 2 ^ 31 := by norm_num
    intro c
    cases c <;> exact hzero

theorem BeforeGame.serves_initializePlayers (hs : s.BeforeGame e) {numPlayers : Int}
    (hn : numPlayers ≤ 2 ^ 31) : Serves e (s.step e (.call (.initializePlayers numPlayers))) := by
  obtain ⟨g, hg, hstep, hkeeps, hfit⟩ := hs.initializes hn
  refine hs.serves.called ?_ ?_ ?_ <;> rw [hstep]
  · exact hkeeps
  · exact Game.initializePlayers_streams hg
  · exact hfit

theorem BeforeGame.relays_initializePlayers (hs : s.BeforeGame e) {numPlayers : Int}
    (hn : numPlayers ≤ 2 ^ 31) (hr : Relays topic e s) :
    Relays topic e (s.step e (.call (.initializePlayers numPlayers))) := by
  obtain ⟨g, hg, hstep, hkeeps, hfit⟩ := hs.initializes hn
  refine hr.called hs.serves ?_ ?_ <;> rw [hstep]
  · exact hkeeps
  · exact hfit

theorem Relays.settled (hr : Relays topic e s) (hqueue : s.server.sendQueue = [])
    (hdelivered : s.delivered = (s.server.sentTo e).length)
    (hmailbox : topic.mailbox s.loop.client.packetData = []) :
    topic.Shows s.loop.scene (topic.told s.history.game.broadcasts) := by
  obtain ⟨underWay, waiting, seen, hunderWay, hwaiting, hshows, heq⟩ := hr
  rw [hdelivered, List.drop_length] at hunderWay
  rw [hqueue] at hwaiting
  cases List.forall₂_nil_left_iff.mp hunderWay
  cases List.forall₂_nil_left_iff.mp hwaiting
  rw [heq, hmailbox]
  simpa using hshows

theorem Relays.exists_seen (hr : Relays topic e s) : ∃ seen,
    topic.Shows s.loop.scene seen ∧ seen <+: topic.told s.history.game.broadcasts := by
  obtain ⟨underWay, waiting, seen, -, -, hshows, heq⟩ := hr
  refine ⟨seen, hshows, ?_⟩
  rw [heq, List.append_assoc, List.append_assoc]
  exact List.prefix_append _ _

/-- In a run that keeps up, and in which no datagram overwrites something on the topic,
all that the game has said is on its way to the scene. -/
theorem relays_run {K : Session → SessionEvent → Prop}
    (hK : ∀ s event, K s event → s.KeepsUp e event ∧ s.Attends topic event) (hs : s.BeforeGame e)
    (hshows : topic.Shows s.loop.scene [])
    (hmailbox : topic.mailbox s.loop.client.packetData = []) {numPlayers : Int}
    (hn : numPlayers ≤ 2 ^ 31) {es : List SessionEvent}
    (hrun : EachStep (step e) K (s.step e (.call (.initializePlayers numPlayers))) es) :
    let s' := run (step e) (s.step e (.call (.initializePlayers numPlayers))) es
    Serves e s' ∧ Relays topic e s' :=
  (always_of_eachStep (I := fun s => Serves e s ∧ Relays topic e s)
    ⟨hs.serves_initializePlayers hn,
      hs.relays_initializePlayers hn (hs.relays hshows hmailbox)⟩
    (fun s event h hk => ⟨h.1.step (hK s event hk).1,
      h.2.step h.1 (hK s event hk).1 (hK s event hk).2⟩) hrun).final

end Session

end BeeRType
