-- SUMMARY: The order in which a client says things to the server, over every run of the client.
import BeeRType.Client.Program
import BeeRType.Server.Server

/-!
# The conversation of a client

A client asks to be registered, may ask for the start of the game, and then plays. What it
says passes through the send queue, but for DISCONNECTED, which the end of the main loop and
the signal handler send at once.
-/

open Cpp Std Transition

namespace BeeRType

/-! ## The language -/

/-- How far a client has come in what it says. -/
inductive Stage where
  | silent
  | registered
  | playing
  | ended
  deriving DecidableEq, Repr

/-- What may be said next. -/
def Stage.next : Stage → PacketType → Option Stage
  | stage, .heartbeat => some stage
  | .silent, .reqConnect => some .registered
  | .registered, .gameStart => some .playing
  | .registered, .playerUp | .registered, .playerDown | .registered, .playerLeft
  | .registered, .playerRight | .registered, .playerShoot => some .playing
  | .playing, .playerUp | .playing, .playerDown | .playing, .playerLeft
  | .playing, .playerRight | .playing, .playerShoot => some .playing
  | .registered, .gameEnd | .playing, .gameEnd => some .ended
  | _, _ => none

/-- Where a client has come to that has said these things, unless the order is wrong. -/
def Stage.after (words : List PacketType) : Option Stage := words.foldlM Stage.next .silent

/-- The packets that the server makes of the datagrams that a client has sent. -/
def Client.heard (c : Client) : List PacketType :=
  c.sent.filterMap fun datagram => (Server.deserializePacket (datagram.2.take maxLength)).kind

/-- The server reads a packet of a client as the type that it was created for. -/
theorem kind_createPacket (t : PacketType) :
    (Server.deserializePacket ((Client.createPacket t).take maxLength)).kind = some t := by
  cases t <;> decide

/-- The actions of a player in the game. -/
def PacketType.IsAction : PacketType → Prop
  | .playerUp | .playerDown | .playerLeft | .playerRight | .playerShoot => True
  | _ => False

namespace PacketType.IsAction

variable {t : PacketType} {stage : Stage}

theorem ne_disconnected (h : t.IsAction) : t ≠ .disconnected := by
  rintro rfl
  exact h

theorem next (h : t.IsAction) (hstage : stage = .registered ∨ stage = .playing) :
    stage.next t = some .playing := by
  obtain rfl | rfl := hstage <;> cases t <;> first | rfl | exact h.elim

end PacketType.IsAction

/-! ## The scenes -/

namespace LobbyScene

/-- A click on the start button is all that the lobby has to say. -/
def OnlyStarts (lobby : LobbyScene) : Prop :=
  lobby.newAction = none ∨ lobby.newAction = some .gameStart ∧ lobby.startButtonClicked = true

variable {lobby : LobbyScene}

theorem OnlyStarts.handleInput (h : lobby.OnlyStarts) (inputs : List LobbyInput) :
    (lobby.handleInput inputs).1.OnlyStarts := by
  induction inputs generalizing lobby with
  | nil => exact h
  | cons input inputs ih =>
      cases input with
      | closed => exact h
      | mouseButtonPressed under =>
          rw [LobbyScene.handleInput]
          refine ih ?_
          unfold handleMousePressed
          split
          · exact .inr ⟨rfl, rfl⟩
          · exact h
      | other => exact ih h

theorem OnlyStarts.update (h : lobby.newAction = none) (inputs : List LobbyInput) :
    (lobby.update inputs).1.OnlyStarts := by
  have hcleanup : lobby.cleanup.OnlyStarts := .inl h
  unfold LobbyScene.update
  split
  · exact hcleanup.handleInput inputs
  · exact OnlyStarts.handleInput (.inl h) inputs

end LobbyScene

namespace GameScene

variable {scene : GameScene} {p : PacketData}

theorem newAction_applyAction : (scene.applyAction p).newAction = scene.newAction := by
  unfold applyAction
  split <;> first | rfl | (unfold updateSpritePosition; split <;> rfl)

/-- What a frame has to say: an action of the player, or GAME_END as it closes the window. -/
def OnlyActs (scene : GameScene) (closed : Bool) : Prop :=
  ∀ t, scene.newAction = some t → t.IsAction ∨ t = .gameEnd ∧ closed = true

theorem OnlyActs.handleEvent {event : InputEvent} (h : scene.OnlyActs false) :
    (scene.handleEvent p event).1.OnlyActs (scene.handleEvent p event).2 := by
  cases event with
  | closed =>
      intro t ht
      unfold GameScene.handleEvent at ht
      dsimp only at ht
      split at ht
      · cases ht
        exact .inr ⟨rfl, rfl⟩
      · exact (h t ht).imp_right fun h => ⟨h.1, rfl⟩
  | keyPressed key =>
      unfold GameScene.handleEvent handleKeyPress
      dsimp only
      split
      · exact h
      · cases key <;> intro t ht <;> first
          | exact h t ht
          | (cases ht; exact .inl trivial)
          | (cases ht; exact .inr ⟨rfl, rfl⟩)
  | other => exact h

theorem OnlyActs.handleInput (h : scene.OnlyActs false) (inputs : List InputEvent) :
    (scene.handleInput p inputs).1.OnlyActs (scene.handleInput p inputs).2 := by
  induction inputs generalizing scene with
  | nil => exact h
  | cons event inputs ih =>
      have hevent : (scene.handleEvent p event).1.OnlyActs (scene.handleEvent p event).2 :=
        h.handleEvent
      rw [GameScene.handleInput]
      split <;> rename_i scene' heq <;> rw [heq] at hevent
      · exact hevent
      · exact ih hevent

end GameScene

/-! ## The program -/

namespace ClientProgram

/-- All that has been said is REQCONNECT. -/
def InLobby (p : ClientProgram) (stage : Stage) : Prop :=
  p.isGameStarted = false ∧ p.lobby.newAction = none ∧ stage = .registered

def InGame (p : ClientProgram) (stage : Stage) : Prop :=
  p.isGameStarted = true ∧ (stage = .registered ∨ stage = .playing)

/-- Where the program is once its client has come to a stage. -/
def Fits (p : ClientProgram) (stage : Stage) : Prop :=
  match p.phase with
  | .connect => p.isGameStarted = false ∧ p.lobby.newAction = none ∧ stage = .silent
  | .lobby => p.InLobby stage
  | .handle | .input => p.InGame stage
  | .test | .unlock => p.InLobby stage ∨ p.InGame stage
  | .exit => p.windowOpen = false
  | .returned _ | .stuck => True

/-- What a client has sent and queued is in order, and its program is where that ends. -/
structure Speaks (p : ClientProgram) (said queued : List PacketType) (stage : Stage) : Prop where
  sent : p.client.sent.map Prod.snd = said.map Client.createPacket
  queue : p.client.sendQueue = queued.map Client.createPacket
  waits : .disconnected ∉ queued
  order : Stage.after (said.filter (· ≠ .disconnected) ++ queued) = some stage
  fits : p.Fits stage
  acted : p.scene.newAction = none
  left : PacketType.disconnected ∈ said → p.windowOpen = false

variable {p p' : ClientProgram} {said queued : List PacketType} {stage stage' : Stage}
  {t : PacketType} {e : ClientEvent}

theorem after_concat {words : List PacketType} (h : Stage.after words = some stage) :
    Stage.after (words ++ [t]) = stage.next t := by
  rw [Stage.after, List.foldlM_append, ← Stage.after, h]
  cases hnext : stage.next t <;> simp [hnext]

namespace Speaks

/-- A step that neither sends nor queues anything. -/
theorem keep (hp : p.Speaks said queued stage) (hsent : p'.client.sent = p.client.sent)
    (hqueue : p'.client.sendQueue = p.client.sendQueue) (hfits : p'.Fits stage)
    (hacted : p'.scene.newAction = none)
    (hwindow : p.windowOpen = false → p'.windowOpen = false) :
    p'.Speaks said queued stage where
  sent := by rw [hsent, hp.sent]
  queue := by rw [hqueue, hp.queue]
  waits := hp.waits
  order := hp.order
  fits := hfits
  acted := hacted
  left := fun h => hwindow (hp.left h)

theorem push (hp : p.Speaks said queued stage) (hsent : p'.client.sent = p.client.sent)
    (hqueue : p'.client.sendQueue = p.client.sendQueue ++ [Client.createPacket t])
    (ht : t ≠ .disconnected) (hnext : stage.next t = some stage') (hfits : p'.Fits stage')
    (hacted : p'.scene.newAction = none)
    (hwindow : p.windowOpen = false → p'.windowOpen = false) :
    p'.Speaks said (queued ++ [t]) stage' where
  sent := by rw [hsent, hp.sent]
  queue := by rw [hqueue, hp.queue, List.map_append, List.map_singleton]
  waits := by
    rw [List.mem_append, List.mem_singleton, not_or]
    exact ⟨hp.waits, ht.symm⟩
  order := by rw [← List.append_assoc, after_concat hp.order, hnext]
  fits := hfits
  acted := hacted
  left := fun h => hwindow (hp.left h)

theorem exit (hp : p.Speaks said queued stage)
    (hsent : (p'.client.sent).map Prod.snd =
      p.client.sent.map Prod.snd ++ [Client.createPacket .disconnected])
    (hqueue : p'.client.sendQueue = p.client.sendQueue) (hfits : p'.Fits stage)
    (hacted : p'.scene.newAction = none) (hwindow : p'.windowOpen = false) :
    p'.Speaks (said ++ [.disconnected]) queued stage where
  sent := by rw [hsent, hp.sent, List.map_append, List.map_singleton]
  queue := by rw [hqueue, hp.queue]
  waits := hp.waits
  -- DISCONNECTED is sent at once, ahead of what is still queued.
  order := by
    rw [List.filter_append, List.filter_singleton]
    simpa using hp.order
  fits := hfits
  acted := hacted
  left := fun _ => hwindow

end Speaks

/-- What a client has said is in order. -/
def InOrder (p : ClientProgram) : Prop := ∃ said queued stage, p.Speaks said queued stage

/-! ## The main thread -/

theorem Speaks.connect (hp : p.Speaks said queued stage) (hphase : p.phase = .connect) :
    InOrder { p.push .reqConnect with phase := .test } := by
  have hfits := hp.fits
  rw [Fits, hphase] at hfits
  obtain ⟨hgame, hlobby, rfl⟩ := hfits
  have hfits' : Fits { p.push .reqConnect with phase := .test } .registered :=
    .inl ⟨hgame, hlobby, rfl⟩
  exact ⟨_, _, _, hp.push rfl rfl (by decide) rfl hfits' hp.acted fun h => h⟩

/-- A round in the lobby says nothing, or asks for the start of the game and enters it. -/
theorem runLobby_cases (hnone : p.lobby.newAction = none) (inputs : List LobbyInput) :
    ∃ lobby started closed, (started = false → lobby.newAction = none) ∧
      (p.runLobby inputs = { p with
          lobby := lobby
          isGameStarted := started
          windowOpen := !closed
          phase := if closed then .exit else if started then .handle else .unlock } ∨
        started = true ∧ p.runLobby inputs = { p.push .gameStart with
          lobby := lobby
          isGameStarted := started
          windowOpen := !closed
          phase := if closed then .exit else if started then .handle else .unlock }) := by
  have hstarts := LobbyScene.OnlyStarts.update hnone inputs
  unfold ClientProgram.runLobby
  rcases hupdate : p.lobby.update inputs with ⟨lobby, closed⟩
  replace hstarts : lobby.OnlyStarts := by rwa [hupdate] at hstarts
  obtain hquiet | ⟨hclick, hclicked⟩ := hstarts
  · simp only [LobbyScene.sendOverPackets, hquiet, pushAction]
    refine ⟨_, _, closed, ?_, .inl rfl⟩
    unfold LobbyScene.checkGameStart
    split
    · exact fun h => by cases h
    · exact fun _ => rfl
  · simp only [LobbyScene.sendOverPackets, hclick, pushAction, LobbyScene.checkGameStart, hclicked,
      true_or, if_true]
    exact ⟨_, true, closed, nofun, .inr ⟨rfl, rfl⟩⟩

theorem Speaks.runLobby (hp : p.Speaks said queued stage) (hlobby : p.InLobby stage)
    (hopen : p.windowOpen = true) (inputs : List LobbyInput) : (p.runLobby inputs).InOrder := by
  obtain ⟨hgame, hnone, rfl⟩ := hlobby
  have hwindow {w : Bool} : p.windowOpen = false → w = false := fun h => by
    rw [hopen] at h
    cases h
  obtain ⟨lobby, started, closed, hquiet, hrun⟩ := runLobby_cases hnone inputs
  obtain heq | ⟨rfl, heq⟩ := hrun <;> rw [heq]
  -- The game may start without a click here: another client has asked for it.
  · refine ⟨_, _, _, hp.keep rfl rfl ?_ hp.acted hwindow⟩
    cases closed with
    | true => exact rfl
    | false =>
        cases started with
        | true => exact ⟨rfl, .inl rfl⟩
        | false => exact .inl ⟨rfl, hquiet rfl, rfl⟩
  · refine ⟨_, _, _, hp.push rfl rfl (by decide) rfl ?_ hp.acted hwindow⟩
    cases closed with
    | true => exact rfl
    | false => exact ⟨rfl, .inr rfl⟩

/-- The end of a round in the game: an action of the player, or GAME_END as the window is
closed, or nothing. -/
theorem Speaks.input (hp : p.Speaks said queued stage) (hphase : p.phase = .input)
    (lobbyInputs : List LobbyInput) (inputs : List InputEvent) :
    (p.advance lobbyInputs inputs).InOrder := by
  have hfits := hp.fits
  rw [Fits, hphase] at hfits
  obtain ⟨hgame, hstage⟩ := hfits
  have hquiet : p.scene.OnlyActs false := fun t ht => by
    rw [hp.acted] at ht
    cases ht
  have hacts := hquiet.handleInput inputs (p := p.client.packetData)
  rcases hinput : p.scene.handleInput p.client.packetData inputs with ⟨scene, closed⟩
  replace hacts : scene.OnlyActs closed := by rwa [hinput] at hacts
  simp only [advance, hphase, hinput, GameScene.sendOverPackets]
  -- GAME_END leaves no round after this one, so the window is asked about first.
  split
  · cases haction : scene.newAction with
    | none => exact ⟨_, _, _, hp.keep rfl rfl rfl rfl fun _ => rfl⟩
    | some t =>
        have hsaid : ∃ stage', stage.next t = some stage' ∧ t ≠ .disconnected := by
          obtain hact | ⟨rfl, -⟩ := hacts t haction
          · exact ⟨_, hact.next hstage, hact.ne_disconnected⟩
          · obtain rfl | rfl := hstage <;> exact ⟨_, rfl, by decide⟩
        obtain ⟨stage', hnext, ht⟩ := hsaid
        exact ⟨_, _, _, hp.push rfl rfl ht hnext rfl rfl fun _ => rfl⟩
  · rename_i hopen
    rw [not_or] at hopen
    cases haction : scene.newAction with
    | none => exact ⟨_, _, _, hp.keep rfl rfl (.inr ⟨hgame, hstage⟩) rfl fun h => h⟩
    | some t =>
        obtain hact | ⟨-, hclosed⟩ := hacts t haction
        · exact ⟨_, _, _, hp.push rfl rfl hact.ne_disconnected (hact.next hstage)
            (.inr ⟨hgame, .inr rfl⟩) rfl fun h => h⟩
        · exact absurd hclosed hopen.1

theorem map_sent_sendExitPacket (p : ClientProgram) :
    p.sendExitPacket.client.sent.map Prod.snd =
      p.client.sent.map Prod.snd ++ [Client.createPacket .disconnected] := by
  rw [sendExitPacket, Client.send, List.map_append, List.map_singleton]

theorem Speaks.test (hp : p.Speaks said queued stage) (hphase : p.phase = .test)
    (lobbyInputs : List LobbyInput) (inputs : List InputEvent) :
    (p.advance lobbyInputs inputs).InOrder := by
  have hfits := hp.fits
  rw [Fits, hphase] at hfits
  simp only [advance, hphase]
  split_ifs with hopen haction hgame
  · exact ⟨_, _, _, hp.keep rfl rfl (by simpa [Fits] using hopen) hp.acted fun h => h⟩
  · exact ⟨_, _, _, hp.keep rfl rfl trivial hp.acted fun h => h⟩
  · refine ⟨_, _, _, hp.keep rfl rfl ?_ hp.acted fun h => h⟩
    exact hfits.resolve_left fun hlobby => absurd (hlobby.1.symm.trans hgame) nofun
  · refine ⟨_, _, _, hp.keep rfl rfl ?_ hp.acted fun h => h⟩
    exact hfits.resolve_right fun hplay => hgame hplay.1

theorem InOrder.advance (hp : p.InOrder) (lobbyInputs : List LobbyInput)
    (inputs : List InputEvent) : (p.advance lobbyInputs inputs).InOrder := by
  obtain ⟨said, queued, stage, hp⟩ := hp
  have hfits := hp.fits
  cases hphase : p.phase with
  | connect => simpa only [ClientProgram.advance, hphase] using hp.connect hphase
  | test => exact hp.test hphase lobbyInputs inputs
  | lobby =>
      rw [Fits, hphase] at hfits
      simp only [ClientProgram.advance, hphase]
      split
      · rename_i hopen
        exact hp.runLobby hfits hopen lobbyInputs
      · rename_i hclosed
        exact ⟨_, _, _, hp.keep rfl rfl (eq_false_of_ne_true hclosed) hp.acted fun h => h⟩
  | handle =>
      rw [Fits, hphase] at hfits
      simp only [ClientProgram.advance, hphase]
      split
      · refine ⟨_, _, _, hp.keep rfl rfl hfits ?_ fun h => h⟩
        exact GameScene.newAction_applyAction.trans hp.acted
      · rename_i hclosed
        exact ⟨_, _, _, hp.keep rfl rfl (eq_false_of_ne_true hclosed) hp.acted fun h => h⟩
  | input => exact hp.input hphase lobbyInputs inputs
  | unlock =>
      rw [Fits, hphase] at hfits
      simp only [ClientProgram.advance, hphase]
      exact ⟨_, _, _, hp.keep rfl rfl hfits hp.acted fun h => h⟩
  | exit =>
      rw [Fits, hphase] at hfits
      simp only [ClientProgram.advance, hphase]
      have hsent := p.map_sent_sendExitPacket
      exact ⟨_, _, _, hp.exit hsent rfl trivial hp.acted hfits⟩
  | returned code =>
      simp only [ClientProgram.advance, hphase]
      exact ⟨_, _, _, hp.keep rfl rfl (by simp [Fits]) hp.acted fun _ => rfl⟩
  | stuck =>
      simp only [ClientProgram.advance, hphase]
      exact ⟨_, _, _, hp⟩

/-! ## The signal handler -/

/-- Closing the window fits every stage. -/
theorem Fits.close (h : p.Fits stage) (hphase : p'.phase = p.phase) (hlobby : p'.lobby = p.lobby)
    (hgame : p'.isGameStarted = p.isGameStarted) (hwindow : p'.windowOpen = false) :
    p'.Fits stage := by
  unfold Fits InLobby InGame at *
  rw [hphase, hlobby, hgame]
  cases hp : p.phase <;> simp_all

theorem InOrder.interrupt (hp : p.InOrder) : p.interrupt.InOrder := by
  obtain ⟨said, queued, stage, hp⟩ := hp
  have hfits : Fits { p with windowOpen := false, ioStopped := true }.sendExitPacket stage :=
    hp.fits.close rfl rfl rfl rfl
  have hexit : { p with windowOpen := false, ioStopped := true }.sendExitPacket.InOrder :=
    ⟨_, _, _, hp.exit (map_sent_sendExitPacket _) rfl hfits hp.acted rfl⟩
  unfold ClientProgram.interrupt
  split
  · exact ⟨_, _, _, hp⟩
  · exact ⟨_, _, _, hp⟩
  · dsimp only
    split
    · exact ⟨_, _, _, hp.keep rfl rfl trivial hp.acted fun _ => rfl⟩
    · exact hexit
  · exact hexit

/-! ## The receive thread -/

theorem Speaks.sendTimer (hp : p.Speaks said queued stage) :
    InOrder { p with client := p.client.handleSendTimer } := by
  have hqueue := hp.queue
  unfold Client.handleSendTimer
  cases queued with
  | nil =>
      rw [List.map_nil] at hqueue
      simp only [hqueue]
      exact ⟨_, _, _, hp.keep rfl rfl hp.fits hp.acted fun h => h⟩
  | cons t queued =>
      rw [List.map_cons] at hqueue
      simp only [hqueue]
      have ht : t ≠ .disconnected := fun h => hp.waits (h ▸ List.mem_cons_self)
      exact ⟨said ++ [t], queued, stage,
        { sent := by simp [Client.send, hp.sent]
          queue := rfl
          waits := fun h => hp.waits (List.mem_cons_of_mem t h)
          order := by simpa [List.filter_append, ht] using hp.order
          fits := hp.fits
          acted := hp.acted
          left := fun h => hp.left (by simpa [ht.symm] using h) }⟩

/-- The heartbeat timer queues a heartbeat or nothing, and sends nothing. -/
theorem handlePingTimer_cases (c : Client) (now : ℚ) :
    (c.handlePingTimer now).sent = c.sent ∧
      ((c.handlePingTimer now).sendQueue = c.sendQueue ∨
        (c.handlePingTimer now).sendQueue = c.sendQueue ++ [Client.createPacket .heartbeat]) := by
  unfold Client.handlePingTimer Client.resetPacketLoss Client.checkTimeout Client.sendHeartBeat
  dsimp only
  split_ifs <;> exact ⟨rfl, by first | exact .inl rfl | exact .inr rfl⟩

theorem Speaks.pingTimer (hp : p.Speaks said queued stage) (now : ℚ) :
    InOrder { p with client := p.client.handlePingTimer now } := by
  obtain ⟨hsent, hqueue | hqueue⟩ := handlePingTimer_cases p.client now
  · exact ⟨_, _, _, hp.keep hsent hqueue hp.fits hp.acted fun h => h⟩
  · have hnext : stage.next .heartbeat = some stage := by cases stage <;> rfl
    exact ⟨_, _, _, hp.push hsent hqueue (by decide) hnext hp.fits hp.acted fun h => h⟩

theorem quiet_handleSend (c : Client) (error : Bool) :
    (c.handleSend error).sent = c.sent ∧ (c.handleSend error).sendQueue = c.sendQueue := by
  unfold Client.handleSend
  split <;> exact ⟨rfl, rfl⟩

theorem quiet_parseMessage {c c' : Client} {now : ℚ} (h : c.parseMessage now = .ok c') :
    c'.sent = c.sent ∧ c'.sendQueue = c.sendQueue := by
  unfold Client.parseMessage at h
  split at h
  · cases h
    exact ⟨rfl, rfl⟩
  · cases h
  · dsimp only at h
    split_ifs at h <;> cases h
    · exact ⟨rfl, rfl⟩
    · exact ⟨rfl, rfl⟩
    · have hframe := Client.parseElements_frame (f := fun c => (c.sent, c.sendQueue))
        (fun _ _ _ _ => rfl) c
      exact Prod.ext_iff.mp (hframe _ _)

theorem InOrder.arrive (hp : p.InOrder) (error : ReceiveError) (source : Endpoint)
    (data : Bytes) : (p.arrive error source data).InOrder := by
  obtain ⟨said, queued, stage, hp⟩ := hp
  unfold ClientProgram.arrive
  split
  · cases error <;> exact ⟨_, _, _, hp.keep rfl rfl hp.fits hp.acted fun h => h⟩
  · exact ⟨_, _, _, hp⟩

theorem InOrder.handleReceive (hp : p.InOrder) (now : ℚ) : (p.handleReceive now).InOrder := by
  obtain ⟨said, queued, stage, hp⟩ := hp
  unfold ClientProgram.handleReceive
  split
  · exact ⟨_, _, _, hp⟩
  · rename_i error _ _ _
    cases error <;> exact ⟨_, _, _, hp.keep rfl rfl hp.fits hp.acted fun h => h⟩
  · rename_i error source data _
    split
    · exact ⟨_, _, _, hp⟩
    · split
      · rename_i client hclient
        have hquiet : client.sent = p.client.sent ∧ client.sendQueue = p.client.sendQueue := by
          cases error with
          | success | messageSize =>
              have hquiet := quiet_parseMessage hclient
              exact hquiet
          | operationAborted | other =>
              cases hclient
              exact ⟨rfl, rfl⟩
        exact ⟨_, _, _, hp.keep hquiet.1 hquiet.2 hp.fits hp.acted fun h => h⟩
      · exact ⟨_, _, _, hp.keep rfl rfl hp.fits hp.acted fun h => h⟩

theorem InOrder.handler {f : Client → Client} (hp : p.InOrder)
    (hf : ∀ {said queued stage}, p.Speaks said queued stage →
      InOrder { p with client := f p.client }) : (p.handler f).InOrder := by
  unfold ClientProgram.handler
  split
  · obtain ⟨_, _, _, hspeaks⟩ := hp
    exact hf hspeaks
  · exact hp

/-! ## Runs -/

theorem InOrder.step (hp : p.InOrder) : (p.step e).InOrder := by
  unfold ClientProgram.step
  split
  · exact hp
  · cases e with
    | mainThread lobbyInputs inputs => exact hp.advance lobbyInputs inputs
    | arrive error source data =>
        dsimp only
        split
        · exact hp
        · exact hp.arrive error source data
    | handleReceive now =>
        dsimp only
        split
        · exact hp
        · exact hp.handleReceive now
    | sendTimer => exact hp.handler fun h => h.sendTimer
    | pingTimer now => exact hp.handler fun h => h.pingTimer now
    | handleSend error =>
        refine hp.handler fun h => ?_
        have hquiet := quiet_handleSend p.client error
        exact ⟨_, _, _, h.keep hquiet.1 hquiet.2 h.fits h.acted fun h => h⟩
    | interrupt => exact hp.interrupt

theorem inOrder_start {packetData : PacketData} {server : Endpoint} {now : ℚ} :
    InOrder (start (.new packetData server now)) :=
  ⟨[], [], .silent, rfl, rfl, nofun, rfl, ⟨rfl, rfl, rfl⟩, rfl, nofun⟩

theorem Speaks.heard (hp : p.Speaks said queued stage) : p.client.heard = said := by
  let kind (data : Bytes) := (Server.deserializePacket (data.take maxLength)).kind
  calc p.client.heard
      = (p.client.sent.map Prod.snd).filterMap kind := by rw [List.filterMap_map]; rfl
    _ = said.filterMap (kind ∘ Client.createPacket) := by rw [hp.sent, List.filterMap_map]
    _ = said.filterMap some := List.filterMap_congr fun t _ => kind_createPacket t
    _ = said := List.filterMap_some

/-- A beginning of what is in order is in order. -/
theorem after_prefix {words rest : List PacketType} (h : Stage.after (words ++ rest) = some stage) :
    ∃ earlier, Stage.after words = some earlier := by
  rw [Stage.after, List.foldlM_append] at h
  cases hwords : Stage.after words with
  | none =>
      rw [← Stage.after, hwords] at h
      cases h
  | some earlier => exact ⟨earlier, rfl⟩

/-- The server makes a packet of each datagram of a client. DISCONNECTED aside, it hears the
client asking to be registered before anything but heartbeats, asking for the start of the
game at most once and before any action, and nothing but heartbeats after GAME_END. Once it
hears DISCONNECTED, the client's window is closed. -/
theorem conversation (packetData : PacketData) (server : Endpoint) (now : ℚ)
    (es : List ClientEvent) :
    let p := run step (start (.new packetData server now)) es
    p.client.heard.length = p.client.sent.length ∧
      (∃ stage, Stage.after (p.client.heard.filter (· ≠ .disconnected)) = some stage) ∧
      (.disconnected ∈ p.client.heard → p.windowOpen = false) := by
  have halways : Always step InOrder (start (.new packetData server now)) es :=
    always_of_step inOrder_start fun _ _ hp => hp.step
  obtain ⟨said, queued, stage, hp⟩ := halways.final
  refine ⟨?_, ?_, ?_⟩
  · rw [hp.heard, ← List.length_map Prod.snd, hp.sent, List.length_map]
  · rw [hp.heard]
    exact after_prefix hp.order
  · rw [hp.heard]
    exact hp.left

end ClientProgram

end BeeRType
