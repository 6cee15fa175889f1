-- SUMMARY: One client at the far end of the server's packets: the numbers it sees and the losses it reports.
import BeeRType.Base.Numbered
import BeeRType.Client.Compared
import BeeRType.Server.Dispatch

/-!
# Link

The server and one of its clients, over a channel that neither loses nor
reorders. `createPacket` and `Broadcast` are two steps, since a game thread and
the worker may each be between the two; the packets in between are in hand. The
other commands of the server run in the worker only and are one step each.
-/

open Cpp Transition Numbering

namespace BeeRType

structure Link where
  server : Server
  /-- The packets that are created and not yet broadcast, oldest first. -/
  inHand : List Bytes
  client : Client
  /-- How many of the datagrams sent to it the client has received. -/
  delivered : Nat

inductive LinkEvent where
  | createPacket (type : PacketType) (payload : {p : Payload // p.CallSite})
  /-- `Broadcast` of one of the packets in hand. -/
  | broadcast (i : Nat)
  | sendPong
  | reqConnectData (e : Endpoint)
  | disconnectData (e : Endpoint)
  | serverSendTimer
  /-- The client receives the oldest datagram on its way. -/
  | deliver (now : ℚ) (source : Endpoint)
  | clientSendTimer
  | pingTimer (now : ℚ)

namespace Link

/-- The datagram that the client `e` receives next. -/
def nextDatagram (l : Link) (e : Endpoint) : Option Bytes := (l.server.sentTo e)[l.delivered]?

/-- One step of the link to the client at `e`. -/
def step (e : Endpoint) (l : Link) : LinkEvent → Link
  | .createPacket type payload =>
    let (message, server) := l.server.createPacket type payload.val.data
    { l with server, inHand := l.inHand ++ [message] }
  | .broadcast i =>
    match l.inHand[i]? with
    | none => l
    | some message =>
      { l with server := l.server.broadcast message, inHand := l.inHand.eraseIdx i }
  | .sendPong => { l with server := l.server.sendPong }
  | .reqConnectData e' => { l with server := (l.server.reqConnectData e').2 }
  | .disconnectData e' => { l with server := (l.server.disconnectData e').2 }
  | .serverSendTimer => { l with server := l.server.handleSendTimer }
  | .deliver now source =>
    match l.nextDatagram e with
    | none => l
    | some message =>
      match l.client.handleReceive now .success source message with
      | .ok client => { l with client, delivered := l.delivered + 1 }
      -- The exception ends the client, which receives nothing any more.
      | .error _ => l
  | .clientSendTimer => { l with client := l.client.handleSendTimer }
  | .pingTimer now => { l with client := l.client.handlePingTimer now }

/-- No packet has been created, and the client at `e` is registered. -/
structure BeforeFirstPacket (l : Link) (e : Endpoint) : Prop where
  number : l.server.sequenceNumber = 0
  queue : l.server.sendQueue = []
  sent : l.server.sent = []
  table : l.server.TableInv
  registered : l.server.Registered e
  inHand : l.inHand = []
  delivered : l.delivered = 0
  lastPacketnb : l.client.lastPacketnb = 0
  packetsLost : l.client.lagMeter.packetsLost = 0

/-- The comparison with `last_packetnb_` finds the next number. -/
def InSequence (e : Endpoint) (l : Link) : LinkEvent → Prop
  | .deliver _ _ =>
    ∀ message ∈ l.nextDatagram e, ∀ number ∈ Client.comparedNumber (message.take maxLength),
      number - l.client.lastPacketnb = 1
  | _ => True

/-- Every number given out has been sent to `e`. -/
structure UpToDate (l : Link) (e : Endpoint) : Prop where
  queue : l.server.sendQueue = []
  inHand : l.inHand = []
  number : Int32.ofNat (l.server.sentTo e).length = l.server.sequenceNumber

/-- The step does not put the client at `e` out of sequence: while it is
registered, no number goes to a heartbeat or to another endpoint alone, and
packets are broadcast in the order they were created; and it is sent a packet of
its own only when it is up to date. -/
def KeepsSequence (e : Endpoint) (l : Link) : LinkEvent → Prop
  | .createPacket type _ => l.server.Registered e → type ≠ .heartbeat
  | .broadcast i => l.server.Registered e → i = 0 ∨ l.inHand.length ≤ i
  | .sendPong => ¬ l.server.Registered e
  | .reqConnectData e' => if e' = e then l.UpToDate e else ¬ l.server.Registered e
  | .disconnectData e' =>
    l.server.Registered e' ∨ if e' = e then l.UpToDate e else ¬ l.server.Registered e
  | _ => True

instance (l : Link) (e : Endpoint) : Decidable (l.UpToDate e) :=
  decidable_of_iff
    (l.server.sendQueue = [] ∧ l.inHand = [] ∧
      Int32.ofNat (l.server.sentTo e).length = l.server.sequenceNumber)
    ⟨fun ⟨hqueue, hhand, hnumber⟩ => ⟨hqueue, hhand, hnumber⟩,
      fun h => ⟨h.queue, h.inHand, h.number⟩⟩

instance (e : Endpoint) (l : Link) : ∀ event, Decidable (KeepsSequence e l event)
  | .createPacket type _ =>
    inferInstanceAs (Decidable (l.server.Registered e → type ≠ .heartbeat))
  | .broadcast i =>
    inferInstanceAs (Decidable (l.server.Registered e → i = 0 ∨ l.inHand.length ≤ i))
  | .sendPong => inferInstanceAs (Decidable (¬ l.server.Registered e))
  | .reqConnectData e' =>
    inferInstanceAs (Decidable (if e' = e then l.UpToDate e else ¬ l.server.Registered e))
  | .disconnectData e' =>
    inferInstanceAs (Decidable (l.server.Registered e' ∨
      if e' = e then l.UpToDate e else ¬ l.server.Registered e))
  | .serverSendTimer | .deliver _ _ | .clientSendTimer | .pingTimer _ =>
    inferInstanceAs (Decidable True)

-- Given by hand: the instance found by search would try all numbers of the type `Int32`.
instance (e : Endpoint) (l : Link) : ∀ event, Decidable (InSequence e l event)
  | .deliver _ _ =>
    have (message : Bytes) : Decidable (∀ number ∈ Client.comparedNumber (message.take maxLength),
        number - l.client.lastPacketnb = 1) := Option.decidableForallMem _
    Option.decidableForallMem (l.nextDatagram e)
  | .createPacket _ _ | .broadcast _ | .sendPong | .reqConnectData _ | .disconnectData _
  | .serverSendTimer | .clientSendTimer | .pingTimer _ => inferInstanceAs (Decidable True)

/-! ## The invariant -/

/-- The datagram is a packet of a call site, and the client compares its
number. -/
def Carries (message : Bytes) (number : Int32) : Prop :=
  ∃ (s : Server) (t : PacketType) (p : Payload), t ≠ .heartbeat ∧ p.CallSite ∧
    (s.createPacket t p.data).1 = message ∧ s.sequenceNumber + 1 = number

/-- What has been sent to the client is numbered up to `last`; as long as it is
registered, what it will be sent is numbered on from there. -/
structure Sequenced (e : Endpoint) (l : Link) (last : Int32) : Prop where
  once : l.server.AtMostOnce e
  sent : Numbered Carries (· + 1) 0 (l.server.sentTo e) last
  waiting : l.server.Registered e →
    Numbered Carries (· + 1) last (l.server.sendQueue ++ l.inHand) l.server.sequenceNumber
  lastPacketnb : l.client.lastPacketnb = Int32.ofNat l.delivered
  packetsLost : l.client.lagMeter.packetsLost = 0

variable {l : Link} {e e' : Endpoint} {last : Int32} {server : Server} {client : Client}
  {message : Bytes} {number : Int32}

theorem carries_createPacket {s : Server} {t : PacketType} (ht : t ≠ .heartbeat) {p : Payload}
    (hp : p.CallSite) : Carries (s.createPacket t p.data).1 (s.sequenceNumber + 1) :=
  ⟨s, t, p, ht, hp, rfl, rfl⟩

theorem carries_createPacket_nil {s : Server} {t : PacketType} (ht : t ≠ .heartbeat) :
    Carries (s.createPacket t []).1 (s.sequenceNumber + 1) := by
  rw [Server.createPacket_nil]
  exact carries_createPacket ht Payload.minusOnes_callSite

theorem Carries.comparedNumber (h : Carries message number) :
    Client.comparedNumber (message.take maxLength) = some number := by
  obtain ⟨s, t, p, ht, hp, rfl, rfl⟩ := h
  rw [List.take_of_length_le (hp.fits s t)]
  exact Client.comparedNumber_createPacket ht hp

theorem Carries.handleReceive (h : Carries message number) (c : Client) (now : ℚ)
    (source : Endpoint) : ∃ c', c.handleReceive now .success source message = .ok c' := by
  obtain ⟨s, t, p, ht, hp, rfl, -⟩ := h
  obtain ⟨c', hc', -⟩ := Client.handleReceive_callSite (s := s) ht hp c source now
  exact ⟨c', hc'⟩

theorem iterate_succ_zero (k : Nat) : (fun n : Int32 => n + 1)^[k] 0 = Int32.ofNat k := by
  induction k with
  | zero => rfl
  | succ k ih => rw [Function.iterate_succ_apply', ih, Int32.ofNat_add]; rfl

theorem succ_sub_self (n : Int32) : n + 1 - n = 1 := by
  rw [Int32.add_comm, Int32.add_sub_cancel]

theorem BeforeFirstPacket.sequenced (h : l.BeforeFirstPacket e) : Sequenced e l 0 where
  once := h.table.atMostOnce
  sent := by
    have hnil : l.server.sentTo e = [] := by simp [Server.sentTo, h.sent]
    rw [hnil]
    exact .nil 0
  waiting _ := by
    rw [h.queue, h.inHand, h.number]
    exact .nil 0
  lastPacketnb := by rw [h.lastPacketnb, h.delivered]; rfl
  packetsLost := h.packetsLost

theorem Sequenced.last_eq (hl : Sequenced e l last) (h : l.UpToDate e) :
    last = l.server.sequenceNumber := by
  rw [hl.sent.stop_eq, iterate_succ_zero, h.number]

/-! ## What a step keeps -/

/-- The datagram that comes next carries the next number. -/
theorem Sequenced.next (hl : Sequenced e l last) (h : l.nextDatagram e = some message) :
    Carries message (l.client.lastPacketnb + 1) := by
  have hnext := hl.sent.get h
  rw [iterate_succ_zero, Int32.ofNat_add] at hnext
  rw [hl.lastPacketnb]
  exact hnext

theorem Sequenced.inSequence (hl : Sequenced e l last) (event : LinkEvent) :
    InSequence e l event := by
  cases event with
  | deliver now source =>
      intro message hnext number hnumber
      rw [Option.mem_def, (hl.next hnext).comparedNumber] at hnumber
      obtain rfl := Option.some.inj hnumber
      exact succ_sub_self _
  | _ => trivial

/-- A server step that sends the client nothing. -/
theorem Sequenced.silent (hl : Sequenced e l last) {inHand : List Bytes}
    (honce : server.AtMostOnce e) (hsent : server.sentTo e = l.server.sentTo e)
    (hwaiting : server.Registered e →
      Numbered Carries (· + 1) last (server.sendQueue ++ inHand) server.sequenceNumber) :
    Sequenced e { l with server, inHand } last :=
  ⟨honce, by rw [hsent]; exact hl.sent, hwaiting, hl.lastPacketnb, hl.packetsLost⟩

/-- A server step that sends the client the next number. -/
theorem Sequenced.sends (hl : Sequenced e l last) (honce : server.AtMostOnce e)
    (hsent : server.sentTo e = l.server.sentTo e ++ [message])
    (hmessage : Carries message (last + 1))
    (hwaiting : server.Registered e →
      Numbered Carries (· + 1) (last + 1) (server.sendQueue ++ l.inHand) server.sequenceNumber) :
    Sequenced e { l with server } (last + 1) :=
  ⟨honce, by rw [hsent]; exact hl.sent.concat hmessage, hwaiting, hl.lastPacketnb, hl.packetsLost⟩

theorem Sequenced.unicast_self (hl : Sequenced e l last) (hcurrent : l.UpToDate e)
    (honce : server.AtMostOnce e) (h : Server.Unicasts l.server server e) :
    Sequenced e { l with server } (last + 1) := by
  obtain ⟨t, ht, hsent⟩ := h.sentTo_self
  have hlast := hl.last_eq hcurrent
  refine hl.sends honce hsent (hlast ▸ carries_createPacket_nil ht) fun _ => ?_
  rw [h.queue, h.number, hcurrent.queue, hcurrent.inHand, hlast]
  exact .nil _

theorem Sequenced.unicast_other (hl : Sequenced e l last) (hne : e' ≠ e)
    (honce : server.AtMostOnce e) (h : Server.Unicasts l.server server e')
    (hgone : ¬ server.Registered e) : Sequenced e { l with server } last :=
  hl.silent honce (h.sentTo_other hne) fun hreg => absurd hreg hgone

theorem Sequenced.createPacket (hl : Sequenced e l last) {t : PacketType}
    (payload : {p : Payload // p.CallSite}) (ht : l.server.Registered e → t ≠ .heartbeat) :
    Sequenced e (l.step e (.createPacket t payload)) last := by
  refine hl.silent hl.once rfl fun hreg => ?_
  rw [← List.append_assoc]
  exact (hl.waiting hreg).concat (carries_createPacket (ht hreg) payload.property)

theorem Sequenced.broadcast (hl : Sequenced e l last) {i : Nat}
    (hi : l.server.Registered e → i = 0 ∨ l.inHand.length ≤ i) :
    Sequenced e (l.step e (.broadcast i)) last := by
  simp only [step]
  cases hmessage : l.inHand[i]? with
  | none => exact hl
  | some message =>
      refine hl.silent hl.once rfl fun hreg => ?_
      rcases hi hreg with rfl | hle
      · cases hhand : l.inHand with
        | nil => simp [hhand] at hmessage
        | cons first rest =>
            obtain rfl : first = message := by simpa [hhand] using hmessage
            simpa [Server.broadcast, hhand] using hl.waiting hreg
      · rw [List.getElem?_eq_none hle] at hmessage
        cases hmessage

theorem Sequenced.reqConnectData (hl : Sequenced e l last)
    (h : if e' = e then l.UpToDate e else ¬ l.server.Registered e) :
    ∃ last', Sequenced e (l.step e (.reqConnectData e')) last' := by
  have honce : (l.server.reqConnectData e').2.AtMostOnce e := hl.once.reqConnectData
  have hunicast := Server.reqConnectData_unicasts (s := l.server) (e := e')
  split at h
  · rename_i heq
    subst heq
    exact ⟨last + 1, hl.unicast_self h honce hunicast⟩
  · rename_i hne
    refine ⟨last, hl.unicast_other hne honce hunicast ?_⟩
    rintro ⟨k, c, hk, hc⟩
    rw [Server.reqConnectData_clients] at hk
    rcases Server.getElem?_createClient hk with hold | ⟨-, -, hnew⟩
    · exact h ⟨k, c, hold, hc⟩
    · exact hne (hnew.symm.trans hc)

theorem Sequenced.disconnectData (hl : Sequenced e l last)
    (h : l.server.Registered e' ∨
      if e' = e then l.UpToDate e else ¬ l.server.Registered e) :
    ∃ last', Sequenced e (l.step e (.disconnectData e')) last' := by
  by_cases hreg : l.server.Registered e'
  · obtain ⟨availableIds, k, hsilent⟩ := Server.disconnectData_silent hreg
    refine ⟨last, hl.silent hl.once.disconnectData ?_ ?_⟩
    · rw [hsilent]
      rfl
    · rw [hsilent]
      rintro ⟨k, c, hk, hc⟩
      exact hl.waiting ⟨k, c, Server.getElem?_of_erase hk, hc⟩
  · obtain ⟨hunicast, hclients⟩ := Server.disconnectData_unicasts hreg
    have honce : (l.server.disconnectData e').2.AtMostOnce e := hl.once.disconnectData
    have hcase := h.resolve_left hreg
    split at hcase
    · rename_i heq
      subst heq
      exact ⟨last + 1, hl.unicast_self hcase honce hunicast⟩
    · rename_i hne
      refine ⟨last, hl.unicast_other hne honce hunicast ?_⟩
      rintro ⟨k, c, hk, hc⟩
      rw [hclients] at hk
      exact hcase ⟨k, c, hk, hc⟩

theorem Sequenced.serverSendTimer (hl : Sequenced e l last) :
    ∃ last', Sequenced e (l.step e .serverSendTimer) last' := by
  simp only [step]
  cases hqueue : l.server.sendQueue with
  | nil =>
      rw [Server.handleSendTimer_nil hqueue]
      exact ⟨last, hl⟩
  | cons message rest =>
      have heq := Server.handleSendTimer_cons hqueue
      have honce : l.server.handleSendTimer.AtMostOnce e := hl.once.handleSendTimer
      by_cases hreg : l.server.Registered e
      · have hwaiting := hl.waiting hreg
        rw [hqueue, List.cons_append, numbered_cons] at hwaiting
        refine ⟨last + 1, hl.sends honce
          (Server.sentTo_handleSendTimer_of_registered hqueue hl.once hreg) hwaiting.1 fun _ => ?_⟩
        rw [heq]
        exact hwaiting.2
      · refine ⟨last, hl.silent honce
          (Server.sentTo_handleSendTimer_of_not_registered hqueue hreg) fun hreg' => ?_⟩
        rw [heq] at hreg'
        exact absurd hreg' hreg

theorem Sequenced.deliver (hl : Sequenced e l last) (now : ℚ) (source : Endpoint) :
    Sequenced e (l.step e (.deliver now source)) last := by
  simp only [step]
  cases hnext : l.nextDatagram e with
  | none => exact hl
  | some message =>
      have hcarries := hl.next hnext
      obtain ⟨c', hc'⟩ := hcarries.handleReceive l.client now source
      obtain ⟨hlast, hlost⟩ := Client.compared_handleReceive hc'
      rw [hcarries.comparedNumber] at hlast hlost
      simp only [hc']
      refine ⟨hl.once, hl.sent, hl.waiting, ?_, ?_⟩
      · rw [hlast, Option.getD_some, hl.lastPacketnb, Int32.ofNat_add]
        rfl
      · rw [hlost, hl.packetsLost]
        intro n hn
        obtain rfl := Option.some.inj hn
        exact succ_sub_self _

theorem Sequenced.of_client (hl : Sequenced e l last)
    (hlast : client.lastPacketnb = l.client.lastPacketnb)
    (hlost : client.lagMeter.packetsLost = 0) : Sequenced e { l with client } last :=
  ⟨hl.once, hl.sent, hl.waiting, by rw [hlast, hl.lastPacketnb], hlost⟩

theorem Sequenced.step (hl : Sequenced e l last) {event : LinkEvent}
    (h : KeepsSequence e l event) : ∃ last', Sequenced e (l.step e event) last' := by
  cases event with
  | createPacket t payload => exact ⟨last, hl.createPacket payload h⟩
  | broadcast i => exact ⟨last, hl.broadcast h⟩
  | sendPong => exact ⟨last, hl.silent hl.once rfl fun hreg => absurd hreg h⟩
  | reqConnectData e' => exact hl.reqConnectData h
  | disconnectData e' => exact hl.disconnectData h
  | serverSendTimer => exact hl.serverSendTimer
  | deliver now source => exact ⟨last, hl.deliver now source⟩
  | clientSendTimer =>
      refine ⟨last, hl.of_client ?_ ?_⟩
      · exact Client.handleSendTimer_frame (f := fun c => c.lastPacketnb) fun _ _ _ _ => rfl
      · rw [Client.handleSendTimer_frame (f := fun c => c.lagMeter) fun _ _ _ _ => rfl]
        exact hl.packetsLost
  | pingTimer now =>
      exact ⟨last, hl.of_client Client.lastPacketnb_handlePingTimer
        (Client.packetsLost_handlePingTimer hl.packetsLost)⟩

/-! ## Runs -/

/-- A client that is registered before the first packet is created and that no
step puts out of sequence sees consecutive numbers and reports no loss. -/
theorem noFalseLoss {es : List LinkEvent} (hl : l.BeforeFirstPacket e)
    (hrun : EachStep (step e) (KeepsSequence e) l es) :
    EachStep (step e) (InSequence e) l es ∧
      Always (step e) (fun l => l.client.lagMeter.packetsLost = 0) l es := by
  have halways : Always (step e) (fun l => ∃ last, Sequenced e l last) l es :=
    always_of_eachStep ⟨0, hl.sequenced⟩ (fun l event ⟨last, h⟩ hkeeps => h.step hkeeps) hrun
  exact ⟨halways.eachStep fun l event ⟨last, h⟩ => h.inSequence event,
    halways.mono fun l ⟨last, h⟩ => h.packetsLost⟩

/-- The link to a client that has just been registered with a new server. -/
def joined (e : Endpoint) : Link where
  server := (Server.new.createClient e).2
  inHand := []
  client := Client.new ⟨0, 0, .finite 0, .finite 0, .finite 0, .finite 0⟩ ⟨0, 4242⟩ 0
  delivered := 0

theorem beforeFirstPacket_joined (e : Endpoint) : (joined e).BeforeFirstPacket e where
  number := Server.createClient_frame (f := fun s => s.sequenceNumber) fun _ _ _ _ => rfl
  queue := Server.createClient_frame (f := fun s => s.sendQueue) fun _ _ _ _ => rfl
  sent := Server.createClient_frame (f := fun s => s.sent) fun _ _ _ _ => rfl
  table := Server.tableInv_new.createClient fun _ => by decide
  registered := Server.registered_createClient (by decide)
  inHand := rfl
  delivered := rfl
  lastPacketnb := rfl
  packetsLost := rfl

/-- The answer to REQCONNECT, the packet of an entity, and the client leaving. -/
theorem noFalseLoss_alone :
    let e : Endpoint := ⟨1, 1⟩
    let es : List LinkEvent :=
      [.reqConnectData e, .deliver 0 ⟨0, 4242⟩,
        .createPacket .createPlayer ⟨Payload.minusOnes, Payload.minusOnes_callSite⟩, .broadcast 0,
        .serverSendTimer, .pingTimer 0, .deliver 0 ⟨0, 4242⟩, .disconnectData e, .sendPong]
    EachStep (step e) (InSequence e) (joined e) es ∧
      Always (step e) (fun l => l.client.lagMeter.packetsLost = 0) (joined e) es :=
  noFalseLoss (beforeFirstPacket_joined _) (by decide +kernel)

/-- The answer to REQCONNECT is number 1, a heartbeat takes number 2, and the
client, which does not look at the number of a heartbeat, misses it when number 3
comes. -/
theorem noFalseLoss_heartbeat :
    let e : Endpoint := ⟨1, 1⟩
    let es : List LinkEvent :=
      [.reqConnectData e, .deliver 0 ⟨0, 4242⟩, .sendPong, .serverSendTimer, .deliver 0 ⟨0, 4242⟩,
        .createPacket .gameStart ⟨Payload.minusOnes, Payload.minusOnes_callSite⟩, .broadcast 0,
        .serverSendTimer, .deliver 0 ⟨0, 4242⟩]
    (joined e).BeforeFirstPacket e ∧ ¬ EachStep (step e) (InSequence e) (joined e) es ∧
      (run (step e) (joined e) es).client.lagMeter.packetsLost = 1 :=
  ⟨beforeFirstPacket_joined _, by decide +kernel, by decide +kernel⟩

end Link

end BeeRType
