-- SUMMARY: The whole client program: the main thread, the receive thread with its timers, and where its packets go.
import BeeRType.Base.Transition
import BeeRType.Client.Codec
import BeeRType.Client.GameScene
import BeeRType.Client.LobbyScene
import BeeRType.Client.Rejected

/-!
# The client program

The main thread goes through `main_loop`, the receive thread through
`io_context::run`. A receive stores the sender's endpoint when it completes, and its
handler then waits for the mutex. An exception that leaves the receive thread ends the
program, and SIGINT ends it by way of `Client::stop`.
-/

open Cpp Transition

namespace BeeRType

/-- What the main thread does next. -/
inductive MainPhase where
  /-- `main_loop` is about to be called. -/
  | connect
  /-- The conditions at the head of an iteration. -/
  | test
  | lobby
  | handle
  | input
  | unlock
  | exit
  | returned (code : Int)
  /-- The signal handler waits for a receive thread that waits for the mutex. -/
  | stuck
  deriving DecidableEq, Repr

/-- The one receive that is under way. -/
inductive Receiving where
  | armed
  /-- Its handler has not started. -/
  | completed (error : ReceiveError) (source : Endpoint) (data : Bytes)
  /-- Its handler is at `mutex_.lock()`. -/
  | locking (error : ReceiveError) (source : Endpoint) (data : Bytes)
  deriving DecidableEq

structure ClientProgram where
  client : Client
  lobby : LobbyScene
  scene : GameScene
  isGameStarted : Bool
  windowOpen : Bool
  phase : MainPhase
  receiving : Receiving
  ioStopped : Bool
  /-- The exception that has ended the program, if one has. -/
  terminated : Option StdException

inductive ClientEvent where
  /-- The next step of the main thread; the window has these events in store. -/
  | mainThread (lobbyInputs : List LobbyInput) (inputs : List InputEvent)
  /-- The receive completes. -/
  | arrive (error : ReceiveError) (source : Endpoint) (data : Bytes)
  /-- The next step of the handler of the receive. -/
  | handleReceive (now : ℚ)
  | sendTimer
  | pingTimer (now : ℚ)
  /-- A send completes. -/
  | handleSend (error : Bool)
  /-- SIGINT. -/
  | interrupt

namespace ClientProgram

/-- The constructor has run. -/
def start (client : Client) : ClientProgram where
  client := client
  lobby := .new
  scene := .new
  isGameStarted := false
  windowOpen := true
  phase := .connect
  receiving := .armed
  ioStopped := false
  terminated := none

/-! ## The main thread -/

def push (p : ClientProgram) (type : PacketType) : ClientProgram :=
  { p with client.sendQueue := p.client.sendQueue ++ [Client.createPacket type] }

/-- Pushes what a scene has to send. -/
def pushAction (p : ClientProgram) (newAction : Option PacketType) : ClientProgram :=
  match newAction with
  | some action => p.push action
  | none => p

def sendExitPacket (p : ClientProgram) : ClientProgram :=
  { p with client := p.client.send (Client.createPacket .disconnected) }

/-- The part of an iteration that is run before the game starts. -/
def runLobby (p : ClientProgram) (inputs : List LobbyInput) : ClientProgram :=
  let (lobby, closed) := p.lobby.update inputs
  let (newAction, lobby) := lobby.sendOverPackets
  let p := p.pushAction newAction
  let (isGameStarted, lobby) := lobby.checkGameStart p.client.packetData.action
  { p with
    lobby
    isGameStarted
    windowOpen := !closed
    phase := if closed then .exit else if isGameStarted then .handle else .unlock }

/-- The next step of the main thread. -/
def advance (p : ClientProgram) (lobbyInputs : List LobbyInput) (inputs : List InputEvent) :
    ClientProgram :=
  match p.phase with
  | .connect => { p.push .reqConnect with phase := .test }
  | .test =>
    if !p.windowOpen then { p with phase := .exit }
    else if p.client.packetData.action = 30 then { p with phase := .returned 1 }
    else { p with phase := if p.isGameStarted then .handle else .lobby }
  | .lobby => if p.windowOpen then p.runLobby lobbyInputs else { p with phase := .exit }
  | .handle =>
    if p.windowOpen then
      let (scene, packetData) := p.scene.handleServerAction p.client.packetData
      { p with scene, client.packetData := packetData, phase := .input }
    else { p with phase := .exit }
  | .input =>
    let (scene, closed) := p.scene.handleInput p.client.packetData inputs
    let (newAction, scene) := scene.sendOverPackets
    let p := { p with scene }.pushAction newAction
    if closed ∨ !p.windowOpen then { p with windowOpen := false, phase := .exit }
    else { p with phase := .unlock }
  | .unlock => { p with client.mutexLocked := false, phase := .test }
  | .exit => { p.sendExitPacket with phase := .returned 0 }
  -- `~Client` calls `stop`.
  | .returned _ => { p with windowOpen := false, ioStopped := true }
  | .stuck => p

/-- `signalHandler`: `stop` joins the receive thread before the exit packet is sent. -/
def interrupt (p : ClientProgram) : ClientProgram :=
  match p.phase, p.receiving with
  | .returned _, _ => p
  | .stuck, _ => p
  | _, .locking _ _ _ =>
    let p := { p with windowOpen := false, ioStopped := true }
    if p.client.mutexLocked then { p with phase := .stuck } else p.sendExitPacket
  | _, _ => { p with windowOpen := false, ioStopped := true }.sendExitPacket

/-! ## The receive thread -/

/-- asio stores the sender of a datagram where `async_receive_from` has been told to. -/
def arrive (p : ClientProgram) (error : ReceiveError) (source : Endpoint) (data : Bytes) :
    ClientProgram :=
  match p.receiving with
  | .armed =>
    match error with
    | .success | .messageSize =>
      { p with client.serverEndpoint := source, receiving := .completed error source data }
    | .operationAborted | .other => { p with receiving := .completed error source data }
  | _ => p

def handleReceive (p : ClientProgram) (now : ℚ) : ClientProgram :=
  match p.receiving with
  | .armed => p
  | .completed error source data =>
    match error with
    | .success | .messageSize => { p with receiving := .locking error source data }
    | .operationAborted | .other => { p with receiving := .armed }
  | .locking error source data =>
    -- `mutex_.lock()` waits while the mutex is taken.
    if p.client.mutexLocked then p
    else
      match p.client.handleReceive now error source data with
      | .ok client => { p with client, receiving := .armed }
      | .error e => { p with terminated := some e }

/-- The receive thread is free for another handler. -/
def handlersRun (p : ClientProgram) : Bool :=
  match p.receiving with
  | .locking _ _ _ => false
  | _ => !p.ioStopped

/-- A handler that works on the client only. -/
def handler (p : ClientProgram) (f : Client → Client) : ClientProgram :=
  if p.handlersRun then { p with client := f p.client } else p

def step (p : ClientProgram) (e : ClientEvent) : ClientProgram :=
  match p.terminated with
  | some _ => p
  | none =>
    match e with
    | .mainThread lobbyInputs inputs => p.advance lobbyInputs inputs
    | .arrive error source data => if p.ioStopped then p else p.arrive error source data
    | .handleReceive now => if p.ioStopped then p else p.handleReceive now
    | .sendTimer => p.handler Client.handleSendTimer
    | .pingTimer now => p.handler fun c => c.handlePingTimer now
    | .handleSend error => p.handler fun c => c.handleSend error
    | .interrupt => p.interrupt

/-! ## Where packets go -/

/-- The destination is the server's endpoint, and all packets have been sent there. -/
def Addressed (server : Endpoint) (p : ClientProgram) : Prop :=
  p.client.serverEndpoint = server ∧ ∀ datagram ∈ p.client.sent, datagram.1 = server

/-- The sender of the datagram that a receive has brought, if it has brought one. -/
def datagramSource (error : ReceiveError) (source : Endpoint) : Option Endpoint :=
  match error with
  | .success | .messageSize => some source
  | .operationAborted | .other => none

/-- The sender of the datagram that waits to be handled, if one does. -/
def pendingSource (p : ClientProgram) : Option Endpoint :=
  match p.receiving with
  | .armed => none
  | .completed error source _ => datagramSource error source
  | .locking error source _ => datagramSource error source

/-- The sender of the datagram that the event is about, if it is about one. -/
def sourceOf (p : ClientProgram) : ClientEvent → Option Endpoint
  | .arrive error source _ => datagramSource error source
  | .handleReceive _ => p.pendingSource
  | _ => none

/-- If the event is about a datagram from elsewhere, the mailbox and the destination
stay as they are. -/
def IgnoresForeign (server : Endpoint) (p : ClientProgram) (e : ClientEvent) : Prop :=
  (∃ source ∈ p.sourceOf e, source ≠ server) →
    (p.step e).client.packetData = p.client.packetData ∧
      (p.step e).client.serverEndpoint = p.client.serverEndpoint

/-- If the event is the arrival of a datagram, the datagram comes from the server. -/
def FromServer (server : Endpoint) (p : ClientProgram) (e : ClientEvent) : Prop :=
  match e with
  | .arrive error source _ =>
    p.terminated = none → p.ioStopped = false → p.receiving = .armed →
      ∀ sender ∈ datagramSource error source, sender = server
  | _ => True

/-- What a step does to the destination and to the packets sent, unless a datagram
arrives. -/
def Sends (c c' : Client) : Prop :=
  c'.serverEndpoint = c.serverEndpoint ∧
    ∀ datagram ∈ c'.sent, datagram ∈ c.sent ∨ datagram.1 = c.serverEndpoint

variable {p : ClientProgram} {server : Endpoint} {c c' : Client} {e : ClientEvent}
  {es : List ClientEvent}

theorem Sends.refl (c : Client) : Sends c c := ⟨rfl, fun _ h => .inl h⟩

theorem Sends.of_eq (hserver : c'.serverEndpoint = c.serverEndpoint) (hsent : c'.sent = c.sent) :
    Sends c c' := ⟨hserver, fun _ h => .inl (hsent ▸ h)⟩

theorem sends_send (c : Client) (message : Bytes) : Sends c (c.send message) := by
  refine ⟨rfl, fun datagram h => ?_⟩
  rcases List.mem_append.mp h with hold | hnew
  · exact .inl hold
  · rw [List.mem_singleton.mp hnew]
    exact .inr rfl

theorem sends_handleSendTimer (c : Client) : Sends c c.handleSendTimer := by
  unfold Client.handleSendTimer
  split
  · exact .refl c
  · exact sends_send _ _

theorem sends_handlePingTimer (c : Client) (now : ℚ) : Sends c (c.handlePingTimer now) := by
  refine .of_eq ?_ ?_ <;>
    simp only [Client.handlePingTimer, Client.resetPacketLoss, Client.checkTimeout,
      Client.sendHeartBeat] <;>
    split_ifs <;> rfl

theorem sends_handleSend (c : Client) (error : Bool) : Sends c (c.handleSend error) := by
  unfold Client.handleSend
  split
  · exact .of_eq rfl rfl
  · exact .refl c

theorem sends_parseMessage {now : ℚ} (h : c.parseMessage now = .ok c') : Sends c c' := by
  unfold Client.parseMessage at h
  split at h
  · cases h
    exact .refl c
  · cases h
  · dsimp only at h
    split at h
    · cases h
      exact .refl c
    · split at h
      · cases h
        exact .of_eq rfl rfl
      · cases h
        have hframe := Client.parseElements_frame (f := fun c => (c.serverEndpoint, c.sent))
          (fun _ _ _ _ => rfl) c
        exact .of_eq (congrArg Prod.fst (hframe _ _)) (congrArg Prod.snd (hframe _ _))

/-- Handling a datagram sends nothing, and keeps the destination if that is its
sender. -/
theorem sends_handleReceive {now : ℚ} {error : ReceiveError} {source : Endpoint} {data : Bytes}
    (h : c.handleReceive now error source data = .ok c')
    (hsource : ∀ sender ∈ datagramSource error source, sender = c.serverEndpoint) : Sends c c' := by
  cases error with
  | success =>
      obtain ⟨hserver, hsent⟩ := sends_parseMessage h
      obtain rfl := hsource source rfl
      exact ⟨hserver, hsent⟩
  | messageSize =>
      obtain ⟨hserver, hsent⟩ := sends_parseMessage h
      obtain rfl := hsource source rfl
      exact ⟨hserver, hsent⟩
  | operationAborted =>
      cases h
      exact .refl c
  | other =>
      cases h
      exact .refl c

theorem sends_pushAction {newAction : Option PacketType} :
    Sends p.client (p.pushAction newAction).client := by
  cases newAction <;> exact .of_eq rfl rfl

theorem sends_advance {lobbyInputs : List LobbyInput} {inputs : List InputEvent} :
    Sends p.client (p.advance lobbyInputs inputs).client := by
  unfold advance
  split
  · exact .of_eq rfl rfl
  · split_ifs <;> exact .refl _
  · split
    · exact sends_pushAction
    · exact .refl _
  · split
    · exact .of_eq rfl rfl
    · exact .refl _
  · dsimp only
    split_ifs <;> exact sends_pushAction (p := { p with scene := _ })
  · exact .of_eq rfl rfl
  · exact sends_send _ _
  · exact .refl _
  · exact .refl _

theorem sends_interrupt : Sends p.client p.interrupt.client := by
  unfold interrupt
  split
  · exact .refl _
  · exact .refl _
  · dsimp only
    split
    · exact .refl _
    · exact sends_send _ _
  · exact sends_send _ _

theorem sends_handler {f : Client → Client} (hf : ∀ c, Sends c (f c)) :
    Sends p.client (p.handler f).client := by
  unfold handler
  split
  · exact hf p.client
  · exact .refl _

/-- The receive and the exception are left alone. -/
def LeavesReceive (p p' : ClientProgram) : Prop :=
  p'.receiving = p.receiving ∧ p'.terminated = p.terminated

theorem leavesReceive_pushAction {newAction : Option PacketType} :
    LeavesReceive p (p.pushAction newAction) := by
  cases newAction <;> exact ⟨rfl, rfl⟩

theorem leavesReceive_advance {lobbyInputs : List LobbyInput} {inputs : List InputEvent} :
    LeavesReceive p (p.advance lobbyInputs inputs) := by
  unfold advance
  split
  · exact ⟨rfl, rfl⟩
  · split_ifs <;> exact ⟨rfl, rfl⟩
  · split
    · exact leavesReceive_pushAction
    · exact ⟨rfl, rfl⟩
  · split <;> exact ⟨rfl, rfl⟩
  · dsimp only
    split_ifs <;> exact leavesReceive_pushAction (p := { p with scene := _ })
  · exact ⟨rfl, rfl⟩
  · exact ⟨rfl, rfl⟩
  · exact ⟨rfl, rfl⟩
  · exact ⟨rfl, rfl⟩

theorem leavesReceive_interrupt : LeavesReceive p p.interrupt := by
  unfold interrupt
  split
  · exact ⟨rfl, rfl⟩
  · exact ⟨rfl, rfl⟩
  · dsimp only
    split <;> exact ⟨rfl, rfl⟩
  · exact ⟨rfl, rfl⟩

theorem leavesReceive_handler {f : Client → Client} : LeavesReceive p (p.handler f) := by
  unfold handler
  split <;> exact ⟨rfl, rfl⟩

/-! ## Runs -/

/-- The destination is right, and no datagram from elsewhere waits to be handled. -/
structure OnlyServer (server : Endpoint) (p : ClientProgram) : Prop where
  addressed : p.Addressed server
  pending : ∀ sender ∈ p.pendingSource, sender = server

theorem onlyServer_start {packetData : PacketData} {now : ℚ} :
    OnlyServer server (start (.new packetData server now)) := ⟨⟨rfl, nofun⟩, nofun⟩

theorem Addressed.sends {p' : ClientProgram} (hp : p.Addressed server)
    (h : Sends p.client p'.client) : p'.Addressed server := by
  refine ⟨h.1.trans hp.1, fun datagram hmem => ?_⟩
  rcases h.2 datagram hmem with hold | hnew
  · exact hp.2 datagram hold
  · exact hnew.trans hp.1

theorem OnlyServer.of_sends {p' : ClientProgram} (hp : OnlyServer server p)
    (h : Sends p.client p'.client) (hleaves : LeavesReceive p p') : OnlyServer server p' := by
  refine ⟨hp.addressed.sends h, ?_⟩
  unfold pendingSource
  rw [hleaves.1]
  exact hp.pending

theorem OnlyServer.arrive {error : ReceiveError} {source : Endpoint} {data : Bytes}
    (hp : OnlyServer server p)
    (h : p.receiving = .armed → ∀ sender ∈ datagramSource error source, sender = server) :
    OnlyServer server (p.arrive error source data) := by
  unfold ClientProgram.arrive
  split
  · rename_i harmed
    have hsender := h harmed
    cases error with
    | success => exact ⟨⟨hsender source rfl, hp.addressed.2⟩, hsender⟩
    | messageSize => exact ⟨⟨hsender source rfl, hp.addressed.2⟩, hsender⟩
    | operationAborted => exact ⟨hp.addressed, hsender⟩
    | other => exact ⟨hp.addressed, hsender⟩
  · exact hp

theorem OnlyServer.handleReceive {now : ℚ} (hp : OnlyServer server p) :
    OnlyServer server (p.handleReceive now) := by
  have hpending := hp.pending
  unfold ClientProgram.handleReceive
  split
  · exact hp
  · rename_i error source data hcompleted
    simp only [pendingSource, hcompleted] at hpending
    cases error with
    | success => exact ⟨hp.addressed, hpending⟩
    | messageSize => exact ⟨hp.addressed, hpending⟩
    | operationAborted => exact ⟨hp.addressed, nofun⟩
    | other => exact ⟨hp.addressed, nofun⟩
  · rename_i error source data hlocking
    simp only [pendingSource, hlocking] at hpending
    split
    · exact hp
    · split
      · rename_i client hclient
        have hsource : ∀ sender ∈ datagramSource error source, sender = p.client.serverEndpoint :=
          fun sender h => (hpending sender h).trans hp.addressed.1.symm
        exact ⟨hp.addressed.sends (sends_handleReceive hclient hsource), nofun⟩
      · exact ⟨hp.addressed, hp.pending⟩

theorem OnlyServer.step (hp : OnlyServer server p) (h : FromServer server p e) :
    OnlyServer server (p.step e) := by
  unfold ClientProgram.step
  split
  · exact hp
  · rename_i hrunning
    cases e with
    | mainThread lobbyInputs inputs => exact hp.of_sends sends_advance leavesReceive_advance
    | arrive error source data =>
        dsimp only
        split
        · exact hp
        · rename_i hstopped
          exact hp.arrive (h hrunning (eq_false_of_ne_true hstopped))
    | handleReceive now =>
        dsimp only
        split
        · exact hp
        · exact hp.handleReceive
    | sendTimer => exact hp.of_sends (sends_handler sends_handleSendTimer) leavesReceive_handler
    | pingTimer now =>
        exact hp.of_sends (sends_handler fun c => sends_handlePingTimer c now) leavesReceive_handler
    | handleSend error =>
        exact hp.of_sends (sends_handler fun c => sends_handleSend c error) leavesReceive_handler
    | interrupt => exact hp.of_sends sends_interrupt leavesReceive_interrupt

/-- The arrival of a datagram from elsewhere changes the destination. -/
theorem not_addressed_of_foreign (h : ¬ FromServer server p e) : ¬ (p.step e).Addressed server := by
  cases e with
  | arrive error source data =>
      simp only [FromServer, Classical.not_imp, not_forall] at h
      obtain ⟨hrunning, hstopped, harmed, sender, hsender, hne⟩ := h
      have hserver : (p.step (.arrive error source data)).client.serverEndpoint = sender := by
        simp only [ClientProgram.step, hrunning, hstopped, ClientProgram.arrive, harmed]
        cases error with
        | success => exact Option.some.inj hsender
        | messageSize => exact Option.some.inj hsender
        | operationAborted => cases hsender
        | other => cases hsender
      exact fun haddressed => hne (hserver.symm.trans haddressed.1)
  | _ => exact absurd trivial h

/-- An event about a datagram from elsewhere is an arrival that finds no receive. -/
theorem OnlyServer.ignoresForeign (hp : OnlyServer server p) (h : FromServer server p e) :
    IgnoresForeign server p e := by
  rintro ⟨sender, hsender, hne⟩
  cases e with
  | arrive error source data =>
      have hstep : p.step (.arrive error source data) = p := by
        unfold ClientProgram.step
        split
        · rfl
        · rename_i hrunning
          dsimp only
          split
          · rfl
          · rename_i hstopped
            unfold ClientProgram.arrive
            split
            · rename_i harmed
              exact absurd (h hrunning (eq_false_of_ne_true hstopped) harmed sender hsender) hne
            · rfl
      rw [hstep]
      exact ⟨rfl, rfl⟩
  | handleReceive now => exact absurd (hp.pending sender hsender) hne
  | _ => cases hsender

/-- All packets go to the endpoint that the constructor has resolved, and datagrams from
elsewhere change nothing, exactly if no datagram from elsewhere ever arrives. -/
theorem talksToServer_iff (packetData : PacketData) (server : Endpoint) (now : ℚ)
    (es : List ClientEvent) :
    Always step (Addressed server) (start (.new packetData server now)) es ∧
        EachStep step (IgnoresForeign server) (start (.new packetData server now)) es ↔
      EachStep step (FromServer server) (start (.new packetData server now)) es := by
  have haddressed : Always step (Addressed server) (start (.new packetData server now)) es ↔
      EachStep step (FromServer server) (start (.new packetData server now)) es :=
    always_iff_eachStep onlyServer_start (fun _ hp => hp.addressed) (fun _ _ hp h => hp.step h)
      fun _ _ _ h => not_addressed_of_foreign h
  refine ⟨fun h => haddressed.mp h.1, fun h => ⟨haddressed.mpr h, ?_⟩⟩
  have halways : Always step (OnlyServer server) (start (.new packetData server now)) es :=
    always_of_eachStep onlyServer_start (fun _ _ hp h => hp.step h) h
  have hiff : EachStep step (FromServer server) (start (.new packetData server now)) es ↔
      EachStep step (fun p e => FromServer server p e ∧ IgnoresForeign server p e)
        (start (.new packetData server now)) es :=
    halways.eachStep_congr fun _ _ hp => ⟨fun h => ⟨h, hp.ignoresForeign h⟩, And.left⟩
  exact (hiff.mp h).mono fun _ _ h => h.2

/-- A client of the server at `1:4242`. -/
def someClient : Client := .new ⟨0, 0, .finite 0, .finite 0, .finite 0, .finite 0⟩ ⟨1, 4242⟩ 0

/-- One foreign datagram before the send timer. -/
def strangerFirst : List ClientEvent :=
  [.mainThread [] [], .arrive .success ⟨9, 9⟩ [0, 59], .sendTimer]

/-- REQCONNECT goes to the sender of the datagram. -/
theorem not_talksToServer_stranger :
    ¬ Always step (Addressed ⟨1, 4242⟩) (start someClient) strangerFirst ∧
      (run step (start someClient) strangerFirst).client.sent = [(⟨9, 9⟩, [1])] := by
  have hsent : (run step (start someClient) strangerFirst).client.sent = [(⟨9, 9⟩, [1])] := by
    decide +kernel
  refine ⟨fun h => ?_, hsent⟩
  have hdatagram := h.final.2 (⟨9, 9⟩, [1]) (by rw [hsent]; exact List.mem_singleton_self _)
  exact absurd hdatagram (by decide)

/-! ## Exceptions on the receive thread -/

/-- The handler does not get to read a datagram of one byte. -/
def ReadsNoSingleByte (p : ClientProgram) : Prop :=
  p.client.mutexLocked = false → ∀ error source data, p.receiving = .locking error source data →
    datagramSource error source ≠ none → data.length ≠ 1

def NotOneByte (p : ClientProgram) (e : ClientEvent) : Prop :=
  match e with
  | .handleReceive _ => p.terminated = none → p.ioStopped = false → p.ReadsNoSingleByte
  | _ => True

theorem handleReceive_returns_iff {now : ℚ} {error : ReceiveError} {source : Endpoint}
    {data : Bytes} : (∃ c', c.handleReceive now error source data = .ok c') ↔
      (datagramSource error source ≠ none → data.length ≠ 1) := by
  have hlength : (data.take maxLength).length = 1 ↔ data.length = 1 := by
    rw [List.length_take, maxLength]
    omega
  have hparses (c : Client) (hdata : c.receivedData = data.take maxLength) :
      (∃ c', c.parseMessage now = .ok c') ↔ data.length ≠ 1 := by
    rw [← hdata] at hlength
    refine ⟨?_, fun h => Client.exists_parseMessage (mt hlength.mp h)⟩
    rintro ⟨c', hok⟩ hone
    rw [Client.parseMessage_oneByte (hlength.mpr hone)] at hok
    cases hok
  cases error with
  | success => simpa [datagramSource, Client.handleReceive] using hparses _ rfl
  | messageSize => simpa [datagramSource, Client.handleReceive] using hparses _ rfl
  | operationAborted => simp [datagramSource, Client.handleReceive]
  | other => simp [datagramSource, Client.handleReceive]

theorem terminated_handleReceive_iff {now : ℚ} (hrunning : p.terminated = none) :
    (p.handleReceive now).terminated = none ↔ p.ReadsNoSingleByte := by
  unfold handleReceive ReadsNoSingleByte
  split
  · rename_i harmed
    simp [hrunning, harmed]
  · rename_i error source data hcompleted
    cases error <;> simp [hrunning, hcompleted]
  · rename_i error source data hlocking
    cases hmutex : p.client.mutexLocked with
    | true => simp [hrunning]
    | false =>
        have hone : (∃ c', p.client.handleReceive now error source data = .ok c') ↔
            ∀ error source data, p.receiving = .locking error source data →
              datagramSource error source ≠ none → data.length ≠ 1 := by
          rw [handleReceive_returns_iff]
          refine ⟨?_, fun h => h error source data hlocking⟩
          rintro h _ _ _ heq
          obtain ⟨rfl, rfl, rfl⟩ := Receiving.locking.inj (hlocking.symm.trans heq)
          exact h
        simp only [Bool.false_eq_true, if_false, true_implies, ← hone]
        cases p.client.handleReceive now error source data with
        | ok client => simp [hrunning]
        | error e => simp

theorem terminated_arrive {error : ReceiveError} {source : Endpoint} {data : Bytes} :
    (p.arrive error source data).terminated = p.terminated := by
  unfold arrive
  split
  · cases error <;> rfl
  · rfl

theorem terminated_step_iff (hrunning : p.terminated = none) :
    (p.step e).terminated = none ↔ NotOneByte p e := by
  simp only [ClientProgram.step, hrunning]
  cases e with
  | handleReceive now =>
      simp only [NotOneByte, hrunning, true_implies]
      cases hstopped : p.ioStopped with
      | true => simp [hrunning]
      | false => simpa using terminated_handleReceive_iff hrunning
  | mainThread lobbyInputs inputs => simp [NotOneByte, leavesReceive_advance.2, hrunning]
  | arrive error source data =>
      dsimp only
      split <;> simp [NotOneByte, terminated_arrive, hrunning]
  | sendTimer => simp [NotOneByte, leavesReceive_handler.2, hrunning]
  | pingTimer now => simp [NotOneByte, leavesReceive_handler.2, hrunning]
  | handleSend error => simp [NotOneByte, leavesReceive_handler.2, hrunning]
  | interrupt => simp [NotOneByte, leavesReceive_interrupt.2, hrunning]

/-- The receive thread dies of an exception exactly in the runs in which it comes to
read a datagram of one byte. -/
theorem neverTerminated_iff :
    Always step (fun p => p.terminated = none) (start c) es ↔ EachStep step NotOneByte (start c) es :=
  always_iff_eachStep (I := fun p => p.terminated = none) rfl (fun _ hp => hp)
    (fun _ _ hp h => (terminated_step_iff hp).mpr h) fun _ _ hp h => mt (terminated_step_iff hp).mp h

end ClientProgram

end BeeRType
