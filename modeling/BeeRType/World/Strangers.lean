-- SUMMARY: Whether datagrams from endpoints that never connect make a difference to the game and to the clients.
import BeeRType.Server.Dispatch
import BeeRType.World.Attribution

/-!
# Strangers

A stranger is an endpoint that never sends REQCONNECT. Two runs of the server program
are compared, one of which is sent additional datagrams by strangers. The handlers that
look the sender up ignore them; GAME_START, GAME_END and HEARTBEAT are handled without.
-/

open Cpp Std Transition

namespace BeeRType

/-! ## Packets up to their numbers -/

/-- A packet without the number at its end: the type and the fields. -/
def unnumbered (message : Bytes) : Bytes := (message.reverse.dropWhile (· != 59)).reverse

theorem unnumbered_append {text : Bytes} {z : Int} :
    unnumbered (text ++ str ";" ++ toStringInt z) = text ++ str ";" := by
  have hnumber : ∀ b ∈ (toStringInt z).reverse, (b != 59) = true := by
    rintro b hb
    rw [bne_iff_ne]
    rintro rfl
    exact not_mem_toStringInt z (List.mem_reverse.mp hb)
  rw [unnumbered, List.reverse_append, List.dropWhile_append_of_pos hnumber, List.reverse_append]
  exact congrArg List.reverse (List.dropWhile_cons_of_neg (by decide)) |>.trans (by simp; rfl)

namespace Server

variable {stranger : Endpoint → Prop} {s s' : Server} {e : Endpoint} {type : PacketType}
  {data : Bytes}

/-- Packets that differ in their numbers only. -/
theorem unnumbered_createPacket :
    unnumbered (s'.createPacket type data).1 = unnumbered (s.createPacket type data).1 := by
  simp only [createPacket, unnumbered_append]

/-- The servers are the same to everybody but the strangers: they have the same clients, and
have sent them and hold for them the same packets up to the numbers. -/
structure SameFor (stranger : Endpoint → Prop) (s s' : Server) : Prop where
  clients : s'.clients = s.clients
  nbClients : s'.nbClients = s.nbClients
  availableIds : s'.availableIds = s.availableIds
  gameRunning : s'.gameRunning = s.gameRunning
  sendQueue : s'.sendQueue.map unnumbered = s.sendQueue.map unnumbered
  sentTo : ∀ e, ¬ stranger e → (s'.sentTo e).map unnumbered = (s.sentTo e).map unnumbered

namespace SameFor

theorem broadcastPacket (h : SameFor stranger s s') :
    SameFor stranger (s.broadcastPacket type data) (s'.broadcastPacket type data) :=
  { h with
    sendQueue := by
      simp only [Server.broadcastPacket, broadcast, List.map_append, List.map_singleton]
      exact congrArg₂ (· ++ [·]) h.sendQueue unnumbered_createPacket }

/-- An answer of both servers to the same endpoint. -/
theorem sendPacket (h : SameFor stranger s s') :
    SameFor stranger (s.sendPacket type data e) (s'.sendPacket type data e) :=
  { h with
    sentTo := by
      intro e' he'
      have hsend : ∀ s : Server, (s.sendPacket type data e).sent =
          s.sent ++ [(e, (s.createPacket type data).1)] := fun _ => rfl
      rw [sentTo_append (hsend s'), sentTo_append (hsend s), List.map_append, List.map_append,
        h.sentTo e' he']
      have hpacket : unnumbered (s'.createPacket type data).1 =
          unnumbered (s.createPacket type data).1 := unnumbered_createPacket
      by_cases heq : e = e'
      · simp [heq, hpacket]
      · simp [heq] }

/-- An answer of one of the servers to a stranger. -/
theorem sendPacket_stranger (h : SameFor stranger s s') (he : stranger e) :
    SameFor stranger s (s'.sendPacket type data e) :=
  { h with
    sentTo := by
      intro e' he'
      have hsend : (s'.sendPacket type data e).sent =
          s'.sent ++ [(e, (s'.createPacket type data).1)] := rfl
      have hne : e ≠ e' := fun heq => he' (heq ▸ he)
      rw [sentTo_append hsend, ← h.sentTo e' he']
      simp [hne] }

theorem findClient (h : SameFor stranger s s') : s'.findClient e = s.findClient e := by
  rw [Server.findClient, Server.findClient, h.clients]

theorem createClient (h : SameFor stranger s s') :
    SameFor stranger (s.createClient e).2 (s'.createClient e).2 := by
  have htake : s'.takeId.1 = s.takeId.1 ∧ s'.takeId.2.availableIds = s.takeId.2.availableIds ∧
      s'.takeId.2.nbClients = s.takeId.2.nbClients := by
    unfold takeId
    rw [h.availableIds, h.nbClients]
    split
    · exact ⟨rfl, rfl, rfl⟩
    · exact ⟨rfl, rfl, rfl⟩
  cases hfind : s.findClient e with
  | some client =>
      rw [createClient_of_registered hfind, createClient_of_registered (h.findClient.trans hfind)]
      exact h
  | none =>
      rw [createClient_of_new hfind, createClient_of_new (h.findClient.trans hfind)]
      obtain ⟨hid, havailable, hnb⟩ := htake
      exact { h with
        clients := by rw [hid, h.clients]
        nbClients := hnb
        availableIds := havailable }

theorem reqConnectData (h : SameFor stranger s s') :
    SameFor stranger (s.reqConnectData e).2 (s'.reqConnectData e).2 := by
  unfold Server.reqConnectData
  have hcreate := h.createClient (e := e)
  dsimp only
  rw [hcreate.gameRunning]
  split <;> exact hcreate.sendPacket

theorem disconnectData (h : SameFor stranger s s') :
    SameFor stranger (s.disconnectData e).2 (s'.disconnectData e).2 := by
  unfold Server.disconnectData
  rw [h.findClient]
  split
  · exact { h with
      clients := by rw [h.clients]
      availableIds := by rw [h.availableIds] }
  · exact h.sendPacket

theorem handleSendTimer (h : SameFor stranger s s') :
    SameFor stranger s.handleSendTimer s'.handleSendTimer := by
  have hqueue := h.sendQueue
  cases hs : s.sendQueue with
  | nil =>
      rw [hs, List.map_nil, List.map_eq_nil_iff] at hqueue
      rw [handleSendTimer_nil hs, handleSendTimer_nil hqueue]
      exact h
  | cons message rest =>
      rw [hs, List.map_cons] at hqueue
      obtain ⟨message', rest', hs', hmessage, hrest⟩ := List.map_eq_cons_iff.mp hqueue
      rw [handleSendTimer_cons hs, handleSendTimer_cons hs']
      refine { h with sendQueue := hrest, sentTo := fun e he => ?_ }
      have hsent : ∀ (s : Server) (rest : List Bytes) (message : Bytes),
          ({ s with
            sendQueue := rest
            sent := s.sent ++ s.clients.toList.map fun client => (client.2.endpoint, message)
            } : Server).sentTo e = s.sentTo e ++ ((s.clients.toList.filter
              fun client => client.2.endpoint = e).map fun _ => message) := by
        intro s rest message
        rw [sentTo_append rfl]
        simp [List.filter_map, Function.comp_def]
      rw [hsent, hsent, List.map_append, List.map_append, h.sentTo e he, h.clients, List.map_map,
        List.map_map]
      exact congrArg _ (List.map_congr_left fun _ _ => hmessage)

end SameFor

end Server

/-! ## The program -/

namespace World

variable {stranger : Endpoint → Prop} {w w' : World} {packet : Packet} {game : Game}

/-- The programs are the same to everybody but the strangers, and their games go alike. -/
structure SameFor (stranger : Endpoint → Prop) (w w' : World) : Prop where
  server : w.server.SameFor stranger w'.server
  game : w'.game = w.game
  threads : w'.threads = w.threads
  terminated : w'.terminated = w.terminated

namespace SameFor

theorem setGame (h : SameFor stranger w w') :
    SameFor stranger (w.setGame game) (w'.setGame game) := by
  refine { h with game := rfl, server := ?_ }
  unfold World.setGame
  dsimp only
  rw [h.game]
  exact List.foldl_rel h.server fun m _ s s' h => h.broadcastPacket

theorem callGame {result : Except StdException Game} (h : SameFor stranger w w') :
    SameFor stranger (w.callGame result) (w'.callGame result) := by
  cases result with
  | ok game => exact h.setGame
  | error e => exact { h with terminated := rfl }

theorem startGame (h : SameFor stranger w w') :
    SameFor stranger w.startGame w'.startGame := by
  have hrunning : Server.SameFor stranger { w.server with gameRunning := true }
      { w'.server with gameRunning := true } := { h.server with gameRunning := rfl }
  refine { h with server := hrunning.broadcastPacket, threads := ?_ }
  simp only [World.startGame, numPlayers, h.threads, h.server.clients]

theorem endGame (h : SameFor stranger w w') : SameFor stranger w.endGame w'.endGame :=
  { h with
    server := { h.server with gameRunning := rfl }
    game := by rw [World.endGame, World.endGame, h.game] }

theorem handlePlayerAction {action : Int} (h : SameFor stranger w w')
    (hendpoint : w'.server.remoteEndpoint = w.server.remoteEndpoint) :
    SameFor stranger (w.handlePlayerAction action) (w'.handlePlayerAction action) := by
  unfold World.handlePlayerAction
  rw [h.server.gameRunning, hendpoint, h.server.findClient]
  split
  · exact h
  · split
    · exact { h with game := by rw [h.game] }
    · exact h

theorem handlePlayerShoot (h : SameFor stranger w w')
    (hendpoint : w'.server.remoteEndpoint = w.server.remoteEndpoint) :
    SameFor stranger w.handlePlayerShoot w'.handlePlayerShoot := by
  unfold World.handlePlayerShoot
  rw [hendpoint, h.server.findClient, h.game]
  split
  · exact h.callGame
  · exact h

/-- A packet that both programs handle, for the same sender. -/
theorem handlePacket (h : SameFor stranger w w')
    (hendpoint : w'.server.remoteEndpoint = w.server.remoteEndpoint) :
    SameFor stranger (w.handlePacket packet) (w'.handlePacket packet) := by
  unfold World.handlePacket
  split
  · exact h
  · refine { h with server := ?_ }
    simp only [reqConnect, hendpoint]
    exact h.server.reqConnectData
  · refine { h with server := ?_ }
    simp only [handleDisconnected, hendpoint]
    exact h.server.disconnectData
  · unfold handleGameStart
    rw [h.server.gameRunning]
    split
    · exact h
    · exact h.startGame
  · exact h.handlePlayerAction hendpoint
  · exact h.handlePlayerAction hendpoint
  · exact h.handlePlayerAction hendpoint
  · exact h.handlePlayerAction hendpoint
  · exact h.handlePlayerShoot hendpoint
  · unfold handleGameEnd
    rw [h.server.gameRunning]
    split
    · exact h
    · exact h.endGame
  · exact { h with server := h.server.broadcastPacket }
  · exact h

theorem runThread {i : Nat} {tick : Tick} (h : SameFor stranger w w') :
    SameFor stranger (w.runThread i tick) (w'.runThread i tick) := by
  unfold World.runThread
  rw [h.threads]
  split
  · exact h
  · rename_i t ht
    rw [h.game]
    split
    · exact { h.setGame with threads := rfl }
    · exact { h with game := rfl, threads := rfl, terminated := rfl }

end SameFor

/-! ## Datagrams -/

/-- What the first byte of a datagram asks for. -/
def kindOf (data : Bytes) : Option PacketType :=
  (Server.deserializePacket (data.take maxLength)).kind

/-- A datagram arrives and is processed. One that is cut off is its beginning. -/
def datagram (w : World) (source : Endpoint) (data : Bytes) : World :=
  (w.step (.receive .success source data)).step .process

/-- The program before it handles the only packet in the queue. -/
def facing (w : World) (source : Endpoint) : World :=
  { w with server := { w.server with remoteEndpoint := source, packetQueue := [] } }

variable {source : Endpoint} {data : Bytes} {e : Endpoint}

theorem datagram_of_terminated (h : w.terminated.isSome) : w.datagram source data = w := by
  rw [datagram, step_of_terminated h, step_of_terminated h]

theorem datagram_of_running (source : Endpoint) (data : Bytes) (h : w.terminated = none)
    (hqueue : w.server.packetQueue = []) :
    w.datagram source data =
      (w.facing source).handlePacket (Server.deserializePacket (data.take maxLength)) := by
  rw [datagram, step_of_running h]
  refine step_process h ?_
  simp [Server.handleReceive, hqueue]

/-- Handling a packet registers its sender, or nobody. -/
theorem registered_handlePacket (h : (w.handlePacket packet).server.Registered e) :
    w.server.Registered e ∨ packet.kind = some .reqConnect ∧ e = w.server.remoteEndpoint := by
  obtain ⟨k, c, hk, hc⟩ := h
  have hold : ∀ {w' : World}, w'.server.clients = w.server.clients →
      w'.server.clients[k]? = some c → w.server.Registered e := fun heq hk =>
    ⟨k, c, by rw [← heq, hk], hc⟩
  cases handlePacket_handled w packet with
  | ignored heq => exact .inl (hold rfl (by rwa [heq] at hk))
  | connected hkind heq =>
      rw [heq] at hk
      simp only [Server.reqConnectData_clients] at hk
      rcases Server.getElem?_createClient hk with hk | ⟨-, -, hendpoint⟩
      · exact .inl ⟨k, c, hk, hc⟩
      · exact .inr ⟨hkind, hc.symm.trans hendpoint⟩
  | disconnected _ heq =>
      rw [heq] at hk
      refine .inl ⟨k, c, ?_, hc⟩
      by_cases hregistered : w.server.Registered w.server.remoteEndpoint
      · obtain ⟨availableIds, k', heq'⟩ := Server.disconnectData_silent hregistered
        simp only [heq'] at hk
        exact Server.getElem?_of_erase hk
      · simp only [(Server.disconnectData_unicasts hregistered).2] at hk
        exact hk
  | started _ _ heq => exact .inl (hold rfl (by rwa [heq] at hk))
  | ended _ _ heq => exact .inl (hold rfl (by rwa [heq] at hk))
  | moved _ _ _ heq => exact .inl (hold rfl (by rwa [heq] at hk))
  | shot _ _ heq =>
      exact .inl (hold (callGame_frame (f := Server.clients) fun _ _ _ => rfl) (by rwa [heq] at hk))
  | pinged heq => exact .inl (hold rfl (by rwa [heq] at hk))

theorem SameFor.facing (h : SameFor stranger w w') :
    SameFor stranger (w.facing source) (w'.facing source) :=
  { h with server := { h.server with } }

/-- A datagram of a stranger that nobody notices. -/
theorem SameFor.stray (h : SameFor stranger w w') (hstranger : stranger source)
    (hnew : ¬ w'.server.Registered source) (hconnect : packet.kind ≠ some .reqConnect)
    (hstart : packet.kind = some .gameStart → w'.server.gameRunning = true)
    (hend : packet.kind = some .gameEnd → w'.server.gameRunning = false)
    (hping : packet.kind ≠ some .heartbeat) :
    SameFor stranger w ((w'.facing source).handlePacket packet) := by
  have hfacing : SameFor stranger w (w'.facing source) :=
    { h with server := { h.server with } }
  have hfind : (w'.facing source).server.findClient source = none :=
    Server.findClient_none.mpr hnew
  have haction : ∀ action, (w'.facing source).handlePlayerAction action = w'.facing source := by
    intro action
    unfold World.handlePlayerAction
    split
    · rfl
    · rw [show (w'.facing source).server.remoteEndpoint = source from rfl, hfind]
  unfold World.handlePacket
  split <;> rename_i hkind
  · exact hfacing
  · exact absurd hkind hconnect
  · refine { hfacing with server := ?_ }
    rw [World.handleDisconnected, show (w'.facing source).server.remoteEndpoint = source from rfl,
      Server.disconnectData_of_unknown hfind]
    exact hfacing.server.sendPacket_stranger hstranger
  · rw [handleGameStart, if_pos (show (w'.facing source).server.gameRunning = true from hstart hkind)]
    exact hfacing
  · rw [World.handlePlayerUp, haction]
    exact hfacing
  · rw [World.handlePlayerDown, haction]
    exact hfacing
  · rw [World.handlePlayerLeft, haction]
    exact hfacing
  · rw [World.handlePlayerRight, haction]
    exact hfacing
  · rw [World.handlePlayerShoot, show (w'.facing source).server.remoteEndpoint = source from rfl,
      hfind]
    exact hfacing
  · rw [handleGameEnd, show (w'.facing source).server.gameRunning = false from hend hkind]
    exact hfacing
  · exact absurd hkind hping
  · exact hfacing

end World

/-! ## Two runs -/

/-- A run of the program, and the run with the additional datagrams. -/
structure TwoRuns where
  alone : World
  visited : World

namespace TwoRuns

/-- Every datagram is processed before the next one arrives. A stray datagram is sent to the second
program only. -/
inductive Event where
  | datagram (source : Endpoint) (data : Bytes)
  | stray (source : Endpoint) (data : Bytes)
  | sendTimer
  | thread (i : Nat) (now : Int) (draws : Nat → Draw)

def start : TwoRuns := ⟨.new, .new⟩

def step (s : TwoRuns) (e : Event) : TwoRuns :=
  match e with
  | .datagram source data => ⟨s.alone.datagram source data, s.visited.datagram source data⟩
  | .stray source data => { s with visited := s.visited.datagram source data }
  | .sendTimer => ⟨s.alone.step .sendTimer, s.visited.step .sendTimer⟩
  | .thread i now draws => ⟨s.alone.step (.thread i now draws), s.visited.step (.thread i now draws)⟩

/-- Strangers never send REQCONNECT, and stray datagrams come from strangers. -/
def Admitted (stranger : Endpoint → Prop) (e : Event) : Prop :=
  match e with
  | .datagram source data => World.kindOf data = some .reqConnect → ¬ stranger source
  | .stray source data => stranger source ∧ World.kindOf data ≠ some .reqConnect
  | _ => True

/-- What the strangers must not influence: the game, and what has been sent to the others or waits
to be sent, up to the numbers of the packets. -/
structure Same (stranger : Endpoint → Prop) (s : TwoRuns) : Prop where
  gameRunning : s.visited.server.gameRunning = s.alone.server.gameRunning
  clients : s.visited.server.clients = s.alone.server.clients
  players : s.visited.game.players = s.alone.game.players
  enemies : s.visited.game.enemies = s.alone.game.enemies
  bosses : s.visited.game.bosses = s.alone.game.bosses
  bullets : s.visited.game.bullets = s.alone.game.bullets
  playerActions : s.visited.game.playerActions = s.alone.game.playerActions
  deadPlayers : s.visited.game.deadPlayers = s.alone.game.deadPlayers
  deadEnemies : s.visited.game.deadEnemies = s.alone.game.deadEnemies
  deadBullets : s.visited.game.deadBullets = s.alone.game.deadBullets
  deadBosses : s.visited.game.deadBosses = s.alone.game.deadBosses
  threads : s.visited.threads.length = s.alone.threads.length
  sent : ∀ e, ¬ stranger e →
    (s.visited.server.sentTo e).map unnumbered = (s.alone.server.sentTo e).map unnumbered
  waiting : s.visited.server.sendQueue.map unnumbered = s.alone.server.sendQueue.map unnumbered

/-- A stray datagram does not start a game, does not end one, and is no heartbeat. -/
def Harmless (s : TwoRuns) (e : Event) : Prop :=
  match e with
  | .stray _ data => s.alone.terminated = none →
      (World.kindOf data = some .gameStart → s.alone.server.gameRunning = true) ∧
      (World.kindOf data = some .gameEnd → s.alone.server.gameRunning = false) ∧
      World.kindOf data ≠ some .heartbeat
  | _ => True

instance {stranger : Endpoint → Prop} [DecidablePred stranger] : ∀ e, Decidable (Admitted stranger e)
  | .datagram .. => inferInstanceAs (Decidable (_ → _))
  | .stray .. => inferInstanceAs (Decidable (_ ∧ _))
  | .sendTimer => inferInstanceAs (Decidable True)
  | .thread .. => inferInstanceAs (Decidable True)

instance : ∀ s e, Decidable (Harmless s e)
  | s, .stray .. => inferInstanceAs (Decidable (s.alone.terminated = none → _))
  | _, .datagram .. => inferInstanceAs (Decidable True)
  | _, .sendTimer => inferInstanceAs (Decidable True)
  | _, .thread .. => inferInstanceAs (Decidable True)

/-- The two programs are the same to all but the strangers, who are not registered. -/
structure Inv (stranger : Endpoint → Prop) (s : TwoRuns) : Prop where
  programs : s.alone.SameFor stranger s.visited
  aloneIdle : s.alone.server.packetQueue = []
  visitedIdle : s.visited.server.packetQueue = []
  unregistered : ∀ e, stranger e → ¬ s.alone.server.Registered e

variable {stranger : Endpoint → Prop} {s : TwoRuns} {e : Event}

theorem inv_start : Inv stranger start where
  programs := ⟨⟨rfl, rfl, rfl, rfl, rfl, fun _ _ => rfl⟩, rfl, rfl, rfl⟩
  aloneIdle := rfl
  visitedIdle := rfl
  unregistered := by
    rintro e - ⟨k, c, hk, -⟩
    cases ExtTreeMap.getElem?_empty.symm.trans hk

theorem Inv.same (hs : Inv stranger s) : Same stranger s where
  gameRunning := hs.programs.server.gameRunning
  clients := hs.programs.server.clients
  players := by rw [hs.programs.game]
  enemies := by rw [hs.programs.game]
  bosses := by rw [hs.programs.game]
  bullets := by rw [hs.programs.game]
  playerActions := by rw [hs.programs.game]
  deadPlayers := by rw [hs.programs.game]
  deadEnemies := by rw [hs.programs.game]
  deadBullets := by rw [hs.programs.game]
  deadBosses := by rw [hs.programs.game]
  threads := by rw [hs.programs.threads]
  sent := hs.programs.server.sentTo
  waiting := hs.programs.server.sendQueue

theorem queue_handlePacket {w : World} {packet : Packet} :
    (w.handlePacket packet).server.packetQueue = w.server.packetQueue :=
  congrArg Prod.snd World.handlePacket_inbox

theorem Inv.stray {source : Endpoint} {data : Bytes} (hs : Inv stranger s)
    (hadmitted : Admitted stranger (.stray source data)) (hharmless : Harmless s (.stray source data))
    (hrunning : s.alone.terminated = none) : Inv stranger (s.step (.stray source data)) := by
  obtain ⟨hstart, hend, hping⟩ := hharmless hrunning
  have hnew : ¬ s.visited.server.Registered source := by
    rintro ⟨k, c, hk, hc⟩
    rw [hs.programs.server.clients] at hk
    exact hs.unregistered source hadmitted.1 ⟨k, c, hk, hc⟩
  have hstep := World.datagram_of_running source data
    (hs.programs.terminated.trans hrunning) hs.visitedIdle
  refine ⟨?_, hs.aloneIdle, ?_, hs.unregistered⟩
  · simp only [step, hstep]
    rw [← hs.programs.server.gameRunning] at hstart hend
    exact hs.programs.stray hadmitted.1 hnew hadmitted.2 hstart hend hping
  · simp only [step, hstep]
    exact queue_handlePacket

theorem Inv.datagram {source : Endpoint} {data : Bytes} (hs : Inv stranger s)
    (hadmitted : Admitted stranger (.datagram source data)) (hrunning : s.alone.terminated = none) :
    Inv stranger (s.step (.datagram source data)) := by
  have hstep := World.datagram_of_running source data hrunning hs.aloneIdle
  have hstep' := World.datagram_of_running source data
    (hs.programs.terminated.trans hrunning) hs.visitedIdle
  refine ⟨?_, ?_, ?_, fun e he hregistered => ?_⟩
  · simp only [step, hstep, hstep']
    exact hs.programs.facing.handlePacket rfl
  · simp only [step, hstep]
    exact queue_handlePacket
  · simp only [step, hstep']
    exact queue_handlePacket
  · simp only [step, hstep] at hregistered
    rcases World.registered_handlePacket hregistered with hold | ⟨hkind, rfl⟩
    · exact hs.unregistered e he hold
    · exact hadmitted hkind he

/-- A step of both programs that receives nothing and registers nobody. -/
theorem Inv.of_frame {w w' : World} (hs : Inv stranger s) (h : w.SameFor stranger w')
    (hqueue : w.server.packetQueue = s.alone.server.packetQueue)
    (hqueue' : w'.server.packetQueue = s.visited.server.packetQueue)
    (hclients : w.server.clients = s.alone.server.clients) : Inv stranger ⟨w, w'⟩ where
  programs := h
  aloneIdle := hqueue.trans hs.aloneIdle
  visitedIdle := hqueue'.trans hs.visitedIdle
  unregistered := by
    rintro e he ⟨k, c, hk, hc⟩
    exact hs.unregistered e he ⟨k, c, by rw [← hclients, hk], hc⟩

theorem Inv.step (hs : Inv stranger s) (hadmitted : Admitted stranger e) (h : Harmless s e) :
    Inv stranger (s.step e) := by
  cases hterminated : s.alone.terminated with
  | some exception =>
      have halone : s.alone.terminated.isSome := by simp [hterminated]
      have hvisited : s.visited.terminated.isSome := by simp [hs.programs.terminated, hterminated]
      have heq : s.step e = s := by
        cases e <;> simp only [TwoRuns.step, World.datagram_of_terminated halone,
          World.datagram_of_terminated hvisited, World.step_of_terminated halone,
          World.step_of_terminated hvisited]
      rw [heq]
      exact hs
  | none =>
      have hvisited : s.visited.terminated = none := hs.programs.terminated.trans hterminated
      cases e with
      | datagram source data => exact hs.datagram hadmitted hterminated
      | stray source data => exact hs.stray hadmitted h hterminated
      | sendTimer =>
          simp only [TwoRuns.step, World.step_of_running hterminated,
            World.step_of_running hvisited]
          refine hs.of_frame { hs.programs with server := hs.programs.server.handleSendTimer } ?_ ?_ ?_
          · exact Server.handleSendTimer_frame (f := Server.packetQueue) (fun _ _ _ => rfl)
              fun _ _ => rfl
          · exact Server.handleSendTimer_frame (f := Server.packetQueue) (fun _ _ _ => rfl)
              fun _ _ => rfl
          · exact Server.handleSendTimer_frame (f := Server.clients) (fun _ _ _ => rfl)
              fun _ _ => rfl
      | thread i now draws =>
          simp only [TwoRuns.step, World.step_of_running hterminated,
            World.step_of_running hvisited, hs.programs.server.clients]
          refine hs.of_frame hs.programs.runThread ?_ ?_ ?_
          · exact World.runThread_frame (f := Server.packetQueue) fun _ _ _ => rfl
          · exact World.runThread_frame (f := Server.packetQueue) fun _ _ _ => rfl
          · exact World.runThread_frame (f := Server.clients) fun _ _ _ => rfl

/-- A stray datagram that is handled without a lookup makes a difference at once. -/
theorem not_same_of_not_harmless (hs : Inv stranger s) (h : ¬ Harmless s e) :
    ¬ Same stranger (s.step e) := by
  cases e with
  | stray source data =>
      obtain ⟨hterminated, h⟩ := Classical.not_imp.mp h
      have hvisited : s.visited.terminated = none := hs.programs.terminated.trans hterminated
      have hstep := World.datagram_of_running source data hvisited
        hs.visitedIdle
      have hrunning := hs.programs.server.gameRunning
      intro hsame
      refine h ⟨fun hkind => ?_, fun hkind => ?_, fun hkind => ?_⟩
      · by_contra hidle
        have hstart := World.handlePacket_gameStart (w := s.visited.facing source) hkind
          (hrunning.trans (Bool.eq_false_iff.mpr hidle))
        have := hsame.gameRunning
        simp only [TwoRuns.step, hstep, hstart] at this
        exact hidle this.symm
      · by_contra hgame
        have hend := World.handlePacket_gameEnd (w := s.visited.facing source) hkind
          (hrunning.trans (Bool.of_not_eq_false hgame))
        have := hsame.gameRunning
        simp only [TwoRuns.step, hstep, hend] at this
        exact hgame this.symm
      · have hping : s.visited.datagram source data = (s.visited.facing source).handlePing := by
          rw [hstep]
          unfold World.kindOf at hkind
          simp only [World.handlePacket, hkind]
        have hmore : (s.visited.facing source).handlePing.server.sendQueue.length =
            s.visited.server.sendQueue.length + 1 := List.length_append
        have hqueue := congrArg List.length hs.programs.server.sendQueue
        have := congrArg List.length hsame.waiting
        simp only [TwoRuns.step, hping, List.length_map] at this hqueue
        omega
  | _ => exact absurd trivial h

/-- Strangers make no difference to the game and to the other endpoints exactly when they send no
GAME_START while no game runs, no GAME_END while one runs, and no HEARTBEAT. -/
theorem same_iff (stranger : Endpoint → Prop) (es : List Event)
    (hes : ∀ e ∈ es, Admitted stranger e) :
    Always step (Same stranger) start es ↔ EachStep step Harmless start es :=
  always_iff_eachStep_of_eachStep inv_start (eachStep_of_forall hes) (fun _ hs => hs.same)
    (fun _ _ hs => hs.step) fun _ _ hs _ => not_same_of_not_harmless hs

/-- A client connects and starts a game; a stranger disconnects, shoots and moves. -/
theorem same_iff_visited :
    Always step (Same (· = ⟨9, 9⟩)) start
      [.stray ⟨9, 9⟩ [2], .datagram ⟨1, 1⟩ [1], .stray ⟨9, 9⟩ [6], .datagram ⟨1, 1⟩ [3],
        .stray ⟨9, 9⟩ [17], .stray ⟨9, 9⟩ [3], .sendTimer] :=
  (same_iff (· = ⟨9, 9⟩) _ (by decide)).mpr (by decide +kernel)

/-- A stranger starts a game for nobody. -/
theorem not_same_strayStart :
    Admitted (· = ⟨9, 9⟩) (.stray ⟨9, 9⟩ [3]) ∧
      ¬ Always step (Same (· = ⟨9, 9⟩)) start [.stray ⟨9, 9⟩ [3]] := by
  refine ⟨by decide, fun h => ?_⟩
  exact absurd h.final.gameRunning (by decide +kernel)

end TwoRuns

end BeeRType
