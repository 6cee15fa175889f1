-- SUMMARY: The whole server program: the packet handlers, the game threads they start, and the steps the program takes.
import BeeRType.Game.Loop
import BeeRType.Server.Server

/-!
# The server program

A `World` is the server, its one `Game`, and the game threads started so far.
Datagrams arrive on the network thread, the worker of `PacketHandler` handles one
packet at a time, the send timer ticks, and each game thread goes through
`Game::run`. An exception that leaves a thread ends the program.

One call of a function is one step, whether or not it takes a lock: data races between
calls that take none are not modelled.
-/

open Cpp

namespace BeeRType

structure World where
  server : Server
  game : Game
  /-- In the order in which they were started. -/
  threads : List Thread
  /-- The exception that has ended the program, if one has. -/
  terminated : Option StdException

namespace World

def new : World where
  server := .new
  game := .new
  threads := []
  terminated := none

/-- Hands what a game function has broadcast to the server. -/
def setGame (w : World) (game : Game) : World :=
  let messages := game.broadcasts.drop w.game.broadcasts.length
  { w with
    game := game
    server := messages.foldl (fun s m => s.broadcastPacket m.type m.payload.data) w.server }

/-- The outcome of a game function called by a thread that catches nothing. -/
def callGame (w : World) (result : Except StdException Game) : World :=
  match result with
  | .ok game => w.setGame game
  | .error e => { w with terminated := some e }

/-! ## Handlers -/

def reqConnect (w : World) : World :=
  let endpoint := w.server.remoteEndpoint
  { w with server := (w.server.reqConnectData endpoint).2 }

def handleDisconnected (w : World) : World :=
  let endpoint := w.server.remoteEndpoint
  { w with server := (w.server.disconnectData endpoint).2 }

/-- `int numPlayers = clients.size()`. -/
def numPlayers (w : World) : Int := (Int32.ofNat w.server.clients.size).toInt

/-- GAME_START while no game runs: the thread is started and detached. -/
def startGame (w : World) : World :=
  let server := { w.server with gameRunning := true }
  { w with
    server := server.broadcastPacket .gameStart []
    threads := w.threads ++ [⟨w.numPlayers, .initializePlayers⟩] }

def handleGameStart (w : World) : World :=
  if w.server.gameRunning then w else w.startGame

/-- GAME_END while a game runs. -/
def endGame (w : World) : World :=
  { w with server := { w.server with gameRunning := false }, game := w.game.stop }

def handleGameEnd (w : World) : World :=
  if !w.server.gameRunning then w else w.endGame

/-- A client id as the `int playerId` of a game function. -/
def playerIdOf (id : UInt32) : Int := id.toInt32.toInt

def handlePlayerShoot (w : World) : World :=
  match w.server.findClient w.server.remoteEndpoint with
  | some client => w.callGame (w.game.spawnBullet (playerIdOf client.1))
  | none => w

def handlePlayerAction (w : World) (action : Int) : World :=
  if !w.server.gameRunning then w
  else
    match w.server.findClient w.server.remoteEndpoint with
    | some client => { w with game := w.game.addPlayerAction (playerIdOf client.1) action }
    | none => w

def handlePlayerLeft (w : World) : World := w.handlePlayerAction 1
def handlePlayerRight (w : World) : World := w.handlePlayerAction 2
def handlePlayerUp (w : World) : World := w.handlePlayerAction 3
def handlePlayerDown (w : World) : World := w.handlePlayerAction 4

def handlePing (w : World) : World := { w with server := w.server.sendPong }

/-- The handler that `initializeHandlers` has stored for a packet type. -/
def handlePacket (w : World) (packet : Packet) : World :=
  match packet.kind with
  | some .none => w
  | some .reqConnect => w.reqConnect
  | some .disconnected => w.handleDisconnected
  | some .gameStart => w.handleGameStart
  | some .playerUp => w.handlePlayerUp
  | some .playerDown => w.handlePlayerDown
  | some .playerLeft => w.handlePlayerLeft
  | some .playerRight => w.handlePlayerRight
  | some .playerShoot => w.handlePlayerShoot
  | some .gameEnd => w.handleGameEnd
  | some .heartbeat => w.handlePing
  | _ => w

def setPacketQueue (w : World) (packetQueue : List Packet) : World :=
  { w with server := { w.server with packetQueue := packetQueue } }

/-- One round of `processPackets`; the worker waits on an empty queue. -/
def processPacket (w : World) : World :=
  match w.server.packetQueue with
  | [] => w
  | packet :: rest => (w.setPacketQueue rest).handlePacket packet

/-! ## Steps -/

/-- A step of the `i`th game thread. -/
def runThread (w : World) (i : Nat) (tick : Tick) : World :=
  match w.threads[i]? with
  | none => w
  | some t =>
    match w.game.threadStep t tick with
    | .ok (game, pc) => { w.setGame game with threads := w.threads.set i { t with pc := pc } }
    | .error e => { w with terminated := some e }

inductive Event where
  | receive (error : ReceiveError) (source : Endpoint) (data : Bytes)
  | process
  | sendTimer
  | thread (i : Nat) (now : Int) (draws : Nat → Draw)

def step (w : World) (e : Event) : World :=
  if w.terminated.isSome then w
  else match e with
    | .receive error source data => { w with server := w.server.handleReceive error source data }
    | .process => w.processPacket
    | .sendTimer => { w with server := w.server.handleSendTimer }
    | .thread i now draws => w.runThread i ⟨now, draws, w.server.clients.size⟩

/-! ## What a handler can do -/

/-- What handling a packet can come to. -/
inductive Handled (w : World) (packet : Packet) (w' : World) : Prop where
  | ignored (heq : w' = w)
  | connected (hkind : packet.kind = some .reqConnect)
      (heq : w' = { w with server := (w.server.reqConnectData w.server.remoteEndpoint).2 })
  | disconnected (hkind : packet.kind = some .disconnected)
      (heq : w' = { w with server := (w.server.disconnectData w.server.remoteEndpoint).2 })
  | started (hkind : packet.kind = some .gameStart) (hrunning : w.server.gameRunning = false)
      (heq : w' = w.startGame)
  | ended (hkind : packet.kind = some .gameEnd) (hrunning : w.server.gameRunning = true)
      (heq : w' = w.endGame)
  | moved (playerId action : Int) (hrunning : w.server.gameRunning = true)
      (heq : w' = { w with game := w.game.addPlayerAction playerId action })
  | shot (playerId : Int) (hkind : packet.kind = some .playerShoot)
      (heq : w' = w.callGame (w.game.spawnBullet playerId))
  | pinged (heq : w' = { w with server := w.server.sendPong })

variable {w : World} {game : Game}

theorem handlePlayerAction_handled {packet : Packet} {action : Int} :
    Handled w packet (w.handlePlayerAction action) := by
  unfold handlePlayerAction
  split
  · exact .ignored rfl
  · rename_i hrunning
    split
    · exact .moved _ action (by simpa using hrunning) rfl
    · exact .ignored rfl

theorem handlePacket_handled (w : World) (packet : Packet) :
    Handled w packet (w.handlePacket packet) := by
  unfold handlePacket
  split
  · exact .ignored rfl
  · rename_i hkind
    exact .connected hkind rfl
  · rename_i hkind
    exact .disconnected hkind rfl
  · rename_i hkind
    unfold handleGameStart
    split
    · exact .ignored rfl
    · rename_i hrunning
      exact .started hkind (by simpa using hrunning) rfl
  · exact handlePlayerAction_handled
  · exact handlePlayerAction_handled
  · exact handlePlayerAction_handled
  · exact handlePlayerAction_handled
  · rename_i hkind
    unfold handlePlayerShoot
    split
    · exact .shot _ hkind rfl
    · exact .ignored rfl
  · rename_i hkind
    unfold handleGameEnd
    split
    · exact .ignored rfl
    · rename_i hrunning
      exact .ended hkind (by simpa using hrunning) rfl
  · exact .pinged rfl
  · exact .ignored rfl

theorem handlePacket_gameStart {packet : Packet} (hkind : packet.kind = some .gameStart)
    (hrunning : w.server.gameRunning = false) : w.handlePacket packet = w.startGame := by
  simp [handlePacket, hkind, handleGameStart, hrunning]

theorem handlePacket_gameEnd {packet : Packet} (hkind : packet.kind = some .gameEnd)
    (hrunning : w.server.gameRunning = true) : w.handlePacket packet = w.endGame := by
  simp [handlePacket, hkind, handleGameEnd, hrunning]

/-! ## What the steps leave alone -/

section Frame

variable {α : Type} {f : Server → α} (hf : ∀ s t d, f (s.broadcastPacket t d) = f s)

include hf

/-- A game function reaches the server through broadcasts only. -/
theorem setGame_frame : f (w.setGame game).server = f w.server := by
  unfold setGame
  generalize game.broadcasts.drop w.game.broadcasts.length = messages
  dsimp only
  induction messages generalizing w with
  | nil => rfl
  | cons m messages ih =>
      rw [List.foldl_cons]
      exact (ih (w := { w with server := w.server.broadcastPacket m.type m.payload.data })).trans
        (hf _ _ _)

theorem callGame_frame {result : Except StdException Game} :
    f (w.callGame result).server = f w.server := by
  cases result with
  | ok game => exact setGame_frame hf
  | error e => rfl

theorem runThread_frame {i : Nat} {tick : Tick} : f (w.runThread i tick).server = f w.server := by
  unfold runThread
  split
  · rfl
  · split
    · exact setGame_frame hf
    · rfl

end Frame

@[simp] theorem setGame_game : (w.setGame game).game = game := rfl
@[simp] theorem setGame_threads : (w.setGame game).threads = w.threads := rfl
@[simp] theorem setGame_terminated : (w.setGame game).terminated = w.terminated := rfl

theorem step_of_terminated {e : Event} (h : w.terminated.isSome) : w.step e = w := by
  unfold step
  exact if_pos h

theorem step_of_running {e : Event} (h : w.terminated = none) : w.step e = match e with
    | .receive error source data => { w with server := w.server.handleReceive error source data }
    | .process => w.processPacket
    | .sendTimer => { w with server := w.server.handleSendTimer }
    | .thread i now draws => w.runThread i ⟨now, draws, w.server.clients.size⟩ := by
  unfold step
  exact if_neg (by simp [h])

theorem step_process {packet : Packet} {rest : List Packet} (h : w.terminated = none)
    (hqueue : w.server.packetQueue = packet :: rest) :
    w.step .process = (w.setPacketQueue rest).handlePacket packet := by
  rw [step_of_running h]
  simp only [processPacket, hqueue]

theorem step_thread {i : Nat} {now : Int} {draws : Nat → Draw} {t : Thread} {game : Game}
    {pc : ThreadPc} (h : w.terminated = none) (ht : w.threads[i]? = some t)
    (hstep : w.game.threadStep t ⟨now, draws, w.server.clients.size⟩ = .ok (game, pc)) :
    w.step (.thread i now draws) =
      { w.setGame game with threads := w.threads.set i { t with pc := pc } } := by
  rw [step_of_running h]
  simp only [runThread, ht, hstep]

/-- What a step of the program can come to. -/
inductive Stepped (w : World) (e : Event) (w' : World) : Prop where
  | idle (heq : w' = w)
  | received (error : ReceiveError) (source : Endpoint) (data : Bytes)
      (heq : w' = { w with server := w.server.handleReceive error source data })
  | handled (packet : Packet) (rest : List Packet) (he : e = .process)
      (hrunning : w.terminated = none) (hqueue : w.server.packetQueue = packet :: rest)
      (heq : w' = (w.setPacketQueue rest).handlePacket packet)
  | sent (heq : w' = { w with server := w.server.handleSendTimer })
  | ran (i : Nat) (now : Int) (draws : Nat → Draw) (t : Thread) (game : Game) (pc : ThreadPc)
      (he : e = .thread i now draws) (hrunning : w.terminated = none) (ht : w.threads[i]? = some t)
      (hstep : w.game.threadStep t ⟨now, draws, w.server.clients.size⟩ = .ok (game, pc))
      (heq : w' = { w.setGame game with threads := w.threads.set i { t with pc := pc } })
  | crashed (i : Nat) (now : Int) (draws : Nat → Draw) (t : Thread) (exception : StdException)
      (he : e = .thread i now draws) (hrunning : w.terminated = none) (ht : w.threads[i]? = some t)
      (hstep : w.game.threadStep t ⟨now, draws, w.server.clients.size⟩ = .error exception)
      (heq : w' = { w with terminated := some exception })

theorem step_stepped (w : World) (e : Event) : Stepped w e (w.step e) := by
  cases hterminated : w.terminated with
  | some exception => exact .idle (step_of_terminated (by simp [hterminated]))
  | none =>
      cases e with
      | receive error source data => exact .received error source data (step_of_running hterminated)
      | process =>
          cases hqueue : w.server.packetQueue with
          | nil =>
              refine .idle ?_
              rw [step_of_running hterminated]
              simp only [processPacket, hqueue]
          | cons packet rest =>
              exact .handled packet rest rfl hterminated hqueue (step_process hterminated hqueue)
      | sendTimer => exact .sent (step_of_running hterminated)
      | thread i now draws =>
          cases ht : w.threads[i]? with
          | none =>
              refine .idle ?_
              rw [step_of_running hterminated]
              simp only [runThread, ht]
          | some t =>
              cases hstep : w.game.threadStep t ⟨now, draws, w.server.clients.size⟩ with
              | ok r =>
                  exact .ran i now draws t r.1 r.2 rfl hterminated ht hstep
                    (step_thread hterminated ht hstep)
              | error exception =>
                  refine .crashed i now draws t exception rfl hterminated ht hstep ?_
                  rw [step_of_running hterminated]
                  simp only [runThread, ht, hstep]

end World

end BeeRType
