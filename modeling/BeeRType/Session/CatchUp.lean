-- SUMMARY: How a client that is behind the game catches up with it, and in how many rounds.
import BeeRType.Session.Places

/-!
# Catching up

While the game makes no calls, every round of a tick of the send timer, a datagram that
arrives and an iteration of the main loop takes one packet off its way. So after as many
rounds as there are packets under way the screen shows the game as it is.
-/

open Cpp Std Transition

namespace BeeRType

namespace MainLoop

variable {m : MainLoop}

theorem advance_handle (hphase : m.phase = .handle) (haction : m.client.packetData.action ≠ 30) :
    (m.advance []).phase = .input ∧
      (m.advance []).client = { m.client with packetData := .reset } := by
  unfold advance
  rw [hphase]
  dsimp only
  rw [if_neg haction]
  exact ⟨rfl, rfl⟩

theorem advance_input (hphase : m.phase = .input) : (m.advance []).phase = .unlock ∧
    (m.advance []).client.packetData = m.client.packetData := by
  obtain ⟨client, scene, phase, parsed, consumed, arrivals⟩ := m
  cases hphase
  exact ⟨rfl, packetData_sendNewAction _⟩

theorem advance_unlock (hphase : m.phase = .unlock) : (m.advance []).phase = .handle ∧
    (m.advance []).client = { m.client with mutexLocked := false } := by
  unfold advance
  rw [hphase]
  exact ⟨rfl, rfl⟩

/-- The mailbox has been handled, and the next datagram can come in. -/
structure Rested (m : MainLoop) : Prop where
  phase : m.phase = .handle
  mutex : m.client.mutexLocked = false
  mailbox : m.client.packetData = .reset

theorem Rested.action (hm : m.Rested) : m.client.packetData.action ≠ 30 := by
  rw [hm.mailbox]
  decide

theorem rested_iteration (hphase : m.phase = .handle) (haction : m.client.packetData.action ≠ 30) :
    (((m.advance []).advance []).advance []).Rested := by
  obtain ⟨hinput, hclient⟩ := advance_handle hphase haction
  obtain ⟨hunlock, hmailbox⟩ := advance_input hinput
  obtain ⟨hhandle, hfree⟩ := advance_unlock hunlock
  refine ⟨hhandle, by rw [hfree], ?_⟩
  rw [hfree]
  exact hmailbox.trans (by rw [hclient])

/-- Wherever the loop is, five steps are enough. -/
theorem exists_rested (hphase : ∀ code, m.phase ≠ .returned code)
    (haction : m.client.packetData.action ≠ 30) :
    ∃ k ≤ 5, ((fun m : MainLoop => m.advance [])^[k] m).Rested := by
  cases hp : m.phase with
  | handle => exact ⟨3, by decide, rested_iteration hp haction⟩
  | unlock =>
      obtain ⟨hhandle, hclient⟩ := advance_unlock hp
      exact ⟨4, by decide, rested_iteration hhandle (by rw [hclient]; exact haction)⟩
  | input =>
      obtain ⟨hunlock, hmailbox⟩ := advance_input hp
      obtain ⟨hhandle, hclient⟩ := advance_unlock hunlock
      refine ⟨5, by decide, rested_iteration hhandle ?_⟩
      rw [hclient]
      exact hmailbox ▸ haction
  | returned code => exact absurd hp (hphase code)

end MainLoop

namespace Session

/-- The datagrams on their way to the client, and those that wait behind them. -/
def way (e : Endpoint) (s : Session) : List Bytes :=
  (s.server.sentTo e).drop s.delivered ++ s.server.sendQueue

/-- A packet that lets the client go on. -/
def Welcome (data : Bytes) : Prop := ∃ m : Message, m.SentAs data ∧ m.type ≠ .gameStarted

variable {s s' : Session} {e : Endpoint} {data : Bytes} {k : Nat}

/-! ## The loop alone -/

theorem run_mainLoop : run (step e) s (List.replicate k (.mainLoop [])) =
    { s with loop := (fun m : MainLoop => m.advance [])^[k] s.loop } := by
  induction k generalizing s with
  | zero => rfl
  | succ k ih =>
      rw [List.replicate_succ, run_cons, ih, Function.iterate_succ_apply]
      rfl

theorem keepsPlaces_mainLoop :
    EachStep (step e) (KeepsPlaces e) s (List.replicate k (.mainLoop [])) := by
  refine eachStep_iff.mpr fun pre event post heq => ?_
  have hmem : event ∈ List.replicate k (.mainLoop []) := by simp [heq]
  rw [(List.mem_replicate.mp hmem).2]
  exact List.not_mem_nil

/-! ## A round -/

/-- A tick of the send timer leaves the same datagrams on their way, and the first of them
is one that can arrive. -/
theorem Serves.way_sendTimer (hs : s.Serves e) :
    (s.step e .sendTimer).way e = s.way e ∧
      (s.step e .sendTimer).nextDatagram e = (s.way e).head? := by
  have hnext : (s.step e .sendTimer).nextDatagram e =
      (((s.step e .sendTimer).server.sentTo e).drop s.delivered).head? := by
    rw [List.head?_drop]
    rfl
  rw [hnext]
  unfold way
  change (s.server.handleSendTimer.sentTo e).drop s.delivered ++
    s.server.handleSendTimer.sendQueue = _ ∧ ((s.server.handleSendTimer.sentTo e).drop s.delivered).head? = _
  cases hqueue : s.server.sendQueue with
  | nil =>
      rw [Server.handleSendTimer_nil hqueue, hqueue, List.append_nil]
      exact ⟨rfl, rfl⟩
  | cons message rest =>
      rw [Server.sentTo_handleSendTimer_of_registered hqueue hs.once hs.registered,
        List.drop_append_of_le_length hs.delivered_le, Server.handleSendTimer_cons hqueue]
      refine ⟨by simp, ?_⟩
      cases (s.server.sentTo e).drop s.delivered <;> rfl

theorem step_deliver_none (hnext : s.nextDatagram e = none) (now : ℚ) (source : Endpoint) :
    s.step e (.deliver now source) = s := by
  unfold Session.step
  rw [hnext]

/-- What is left behind the datagram that arrives. -/
theorem way_tail (hnext : s.nextDatagram e = some data) :
    (s.server.sentTo e).drop (s.delivered + 1) ++ s.server.sendQueue = (s.way e).tail := by
  have hne : (s.server.sentTo e).drop s.delivered ≠ [] := by
    intro hnil
    have hhead : ((s.server.sentTo e).drop s.delivered).head? = some data := by
      rw [List.head?_drop]
      exact hnext
    rw [hnil] at hhead
    cases hhead
  rw [way, List.tail_append_of_ne_nil hne, List.tail_drop]

/-- The first datagram on its way arrives, and does not make the client give up. -/
theorem step_deliver (hr : s.loop.Rested) (hnext : s.nextDatagram e = some data)
    (hdata : Welcome data) (now : ℚ) (source : Endpoint) :
    ∃ client : Client, client.packetData.action ≠ 30 ∧ s.step e (.deliver now source) =
      { s with loop := { s.loop with client }, delivered := s.delivered + 1 } := by
  obtain ⟨m, hm, ht⟩ := hdata
  obtain ⟨client, hclient⟩ := hm.exists_handleReceive s.loop.client now source
  refine ⟨client, ?_, ?_⟩
  · obtain ⟨-, hkept⟩ | ⟨-, hkept | haction⟩ | hreads := hm.received hclient
    · rw [hkept]
      exact hr.action
    · rw [hkept]
      exact hr.action
    · rw [haction]
      decide
    · intro h
      have hcode : (m.type.code : Int) = PacketType.gameStarted.code := hreads.action.symm.trans h
      exact ht (PacketType.code_injective (Int.ofNat_inj.mp hcode))
  · unfold Session.step
    rw [hnext]
    dsimp only
    rw [hr.mutex, if_neg Bool.false_ne_true, hclient]

/-- A round handles the first datagram on its way, if there is one. -/
theorem arrival_run (hs : s.Serves e) (hr : s.loop.Rested)
    (hway : ∀ data ∈ s.way e, Welcome data) (now : ℚ) (source : Endpoint) :
    EachStep (step e) (KeepsPlaces e) s (arrival now source) ∧
      let s' := run (step e) s (arrival now source)
      s'.loop.Rested ∧ s'.history = s.history ∧ s'.way e = (s.way e).tail := by
  obtain ⟨hsame, hnext⟩ := hs.way_sendTimer
  have hrested : (s.step e .sendTimer).loop.Rested := hr
  have hidle : (s.step e .sendTimer).Idle := fun c => by
    change s.loop.client.packetData.announces c = none
    rw [hr.mailbox, announces_reset]
  have hunmoved : (s.step e .sendTimer).Unmoved := by
    change PacketType.ofCode? s.loop.client.packetData.action ≠ some .change
    rw [hr.mailbox]
    decide
  refine ⟨⟨trivial, ⟨fun _ => hidle, fun _ => hunmoved⟩, List.not_mem_nil, List.not_mem_nil,
    List.not_mem_nil, trivial⟩, ?_⟩
  have hrun : run (step e) s (arrival now source) =
      run (step e) ((s.step e .sendTimer).step e (.deliver now source))
        (List.replicate 3 (.mainLoop [])) := rfl
  rw [hrun, run_mainLoop, ← hsame]
  cases hdatagram : (s.step e .sendTimer).nextDatagram e with
  | none =>
      have hnone := step_deliver_none hdatagram now source
      have hempty : (s.step e .sendTimer).way e = [] := by
        rw [hsame]
        exact List.head?_eq_none_iff.mp (hnext.symm.trans hdatagram)
      rw [hnone, hempty]
      exact ⟨MainLoop.rested_iteration hr.phase (hr.action), rfl, hempty⟩
  | some data =>
      have hmem : data ∈ s.way e := List.mem_of_mem_head? (hnext.symm.trans hdatagram)
      obtain ⟨client, haction, heq⟩ := step_deliver hrested hdatagram
          (hway data hmem) now source
      rw [heq]
      exact ⟨MainLoop.rested_iteration hr.phase haction, rfl, way_tail hdatagram⟩

/-- As many rounds as there are datagrams on their way clear the way. -/
theorem rounds_run {n : Nat} (hs : s.Serves e) (hn : (s.way e).length = n) (hr : s.loop.Rested)
    (hway : ∀ data ∈ s.way e, Welcome data) (now : ℚ) (source : Endpoint) :
    EachStep (step e) (KeepsPlaces e) s (List.replicate n (arrival now source)).flatten ∧
      let s' := run (step e) s (List.replicate n (arrival now source)).flatten
      s'.loop.Rested ∧ s'.history = s.history ∧ s'.way e = [] ∧ s'.Serves e := by
  induction n generalizing s with
  | zero => exact ⟨trivial, hr, rfl, List.length_eq_zero_iff.mp hn, hs⟩
  | succ n ih =>
      obtain ⟨hkeeps, hrested, hhistory, htail⟩ := arrival_run hs hr hway now source
      have hserves := (always_of_eachStep hs (fun _ _ h hk => h.step hk.keepsUp) hkeeps).final
      obtain ⟨hrounds, hrested', hhistory', hempty, hserves'⟩ := ih hserves
        (by rw [htail, List.length_tail, hn, Nat.add_sub_cancel]) hrested
        fun data hdata => hway data (List.mem_of_mem_tail (htail ▸ hdata))
      rw [List.replicate_succ, List.flatten_cons, run_append]
      exact ⟨eachStep_append.mpr ⟨hkeeps, hrounds⟩, hrested', hhistory'.trans hhistory, hempty,
        hserves'⟩

/-! ## The screen -/

theorem unmoved_of_rested (hr : s.loop.Rested) : s.Unmoved := by
  unfold Unmoved
  rw [hr.mailbox]
  decide

/-- A client that has nothing on its way and nothing to do is settled. -/
theorem Serves.settled (hs : s.Serves e) (hr : s.loop.Rested) (hway : s.way e = []) :
    s.Settled e := by
  obtain ⟨hdelivered, hqueue⟩ := List.append_eq_nil_iff.mp hway
  refine ⟨hqueue, ?_, fun c => by rw [hr.mailbox, announces_reset]⟩
  exact Nat.le_antisymm hs.delivered_le (List.drop_eq_nil_iff.mp hdelivered)

theorem exists_of_forall₂ {R : Bytes → Message → Prop} {datagrams : List Bytes}
    {messages : List Message} (h : List.Forall₂ R datagrams messages) (hdata : data ∈ datagrams) :
    ∃ m, R data m := by
  induction h with
  | nil => cases hdata
  | cons hr _ ih =>
      rcases List.mem_cons.mp hdata with rfl | hdata
      · exact ⟨_, hr⟩
      · exact ih hdata

/-- What is on its way has been made of messages. -/
theorem Relays.welcome {β : Type} {topic : Topic β} (hr : Relays topic e s)
    (h : ∀ data ∈ s.way e, data.head? ≠ some PacketType.gameStarted.byte) :
    ∀ data ∈ s.way e, Welcome data := by
  intro data hdata
  obtain ⟨underWay, waiting, -, hunderWay, hwaiting, -⟩ := hr
  have hsent : ∃ m : Message, m.SentAs data :=
    (List.mem_append.mp hdata).elim (exists_of_forall₂ hunderWay) (exists_of_forall₂ hwaiting)
  obtain ⟨m, hm⟩ := hsent
  refine ⟨m, hm, fun ht => h data hdata ?_⟩
  obtain ⟨-, server, rfl⟩ := hm
  rw [Server.createPacket_data m.payload.data_ne_nil, ht]
  rfl

/-- The main loop ends its iteration, and then as many rounds follow as there are
datagrams on their way. -/
def catchUp (e : Endpoint) (s : Session) (k : Nat) (now : ℚ) (source : Endpoint) :
    List SessionEvent :=
  List.replicate k (.mainLoop []) ++
    (List.replicate (s.way e).length (arrival now source)).flatten

/-- Catching up takes everything off its way, and leaves the game alone. -/
theorem catchUp_run (hs : s.Serves e) (hway : ∀ data ∈ s.way e, Welcome data)
    (hphase : ∀ code, s.loop.phase ≠ .returned code)
    (haction : s.loop.client.packetData.action ≠ 30) (now : ℚ) (source : Endpoint) :
    ∃ k ≤ 5, EachStep (step e) (KeepsPlaces e) s (s.catchUp e k now source) ∧
      let shown := run (step e) s (s.catchUp e k now source)
      shown.history = s.history ∧ shown.Settled e ∧ shown.Unmoved := by
  obtain ⟨k, hk, hrested⟩ := MainLoop.exists_rested hphase haction
  -- The loop alone changes neither the server nor what is on its way.
  have hloop : run (step e) s (List.replicate k (.mainLoop [])) =
      { s with loop := (fun m : MainLoop => m.advance [])^[k] s.loop } := run_mainLoop
  have hserves : Serves e { s with loop := (fun m : MainLoop => m.advance [])^[k] s.loop } :=
    ⟨hs.streams, hs.inRange, hs.once, hs.registered, hs.delivered_le⟩
  obtain ⟨hrounds, hrested', hhistory, hempty, hserves'⟩ :=
    rounds_run hserves rfl hrested hway now source
  refine ⟨k, hk, eachStep_append.mpr ⟨keepsPlaces_mainLoop, by rw [hloop]; exact hrounds⟩, ?_⟩
  rw [catchUp, run_append, hloop]
  exact ⟨hhistory, hserves'.settled hrested' hempty, unmoved_of_rested hrested'⟩

/-- Whatever a session that keeps up has come to, the client catches up as soon as the game
makes no more calls: the screen shows the players, enemies and bosses of the game, and the
players below the number of players left where they are. A main loop that has returned
does not catch up, and GAME_STARTED makes it return. -/
theorem catches_up (hs : s.BeforeGame e) (hunmoved : s.Unmoved) {numPlayers : Int}
    (hn : numPlayers ≤ 2 ^ 31) {es : List SessionEvent}
    (hrun : EachStep (step e) (KeepsPlaces e) (s.step e (.call (.initializePlayers numPlayers))) es)
    (hs' : s' = run (step e) (s.step e (.call (.initializePlayers numPlayers))) es)
    (hphase : ∀ code, s'.loop.phase ≠ .returned code)
    (haction : s'.loop.client.packetData.action ≠ PacketType.gameStarted.code)
    (hway : ∀ data ∈ s'.way e, data.head? ≠ some PacketType.gameStarted.byte)
    (now : ℚ) (source : Endpoint) :
    ∃ k ≤ 5, EachStep (step e) (KeepsPlaces e) s' (s'.catchUp e k now source) ∧
      let shown := run (step e) s' (s'.catchUp e k now source)
      shown.history = s'.history ∧ shown.Settled e ∧
        (∀ c ≠ .bullet, Set.image Int32.toInt (shown.loop.scene.drawn c) = s'.history.game.ids c) ∧
        ∀ (q : Int) (p : Player), s'.history.game.players[q]? = some p →
          q < s'.history.game.players.size →
          ∃ (id : Int32) (sprite : SpriteElement), id.toInt = q ∧
            (shown.loop.scene.sprites .player)[id]? = some sprite ∧
            sprite.At p.position.asFloat ∧ (numPlayers ≤ 167771 → sprite.At p.position) := by
  have hkeeps : EachStep (step e) (KeepsUp e)
      (s.step e (.call (.initializePlayers numPlayers))) es := hrun.mono fun _ _ h => h.keepsUp
  obtain ⟨hserves, hobjects⟩ := hs.objects_run hn hkeeps hs'
  obtain ⟨k, hk, hcatch, hhistory, hsettled, hquiet⟩ :=
    catchUp_run hserves (hobjects.welcome hway) hphase haction now source
  refine ⟨k, hk, hcatch, hhistory, hsettled, ?_⟩
  obtain ⟨shown, hshown⟩ : ∃ shown, shown = run (step e) s' (s'.catchUp e k now source) := ⟨_, rfl⟩
  rw [← hshown] at hhistory hsettled hquiet ⊢
  -- The whole run, up to here and on, keeps up as well.
  have hall : EachStep (step e) (KeepsPlaces e)
      (s.step e (.call (.initializePlayers numPlayers))) (es ++ s'.catchUp e k now source) :=
    eachStep_append.mpr ⟨hrun, by rw [← hs']; exact hcatch⟩
  have hfrom : shown = run (step e) (s.step e (.call (.initializePlayers numPlayers)))
      (es ++ s'.catchUp e k now source) := by rw [hshown, run_append, ← hs']
  have hgame : shown.history.game = s'.history.game := congrArg History.game hhistory
  rw [← hgame]
  refine ⟨fun c hc => ?_, fun q p hp hq => ?_⟩
  · obtain ⟨hserved, hrelays⟩ := hs.objects_run hn (hall.mono fun _ _ h => h.keepsUp) hfrom
    exact hrelays.image_drawn_settled hserved hsettled hc
  · obtain ⟨id, sprite, hid, hsprite, -, hplace⟩ :=
      hs.drawn_settled hunmoved hn hall hfrom hsettled hquiet hp
    exact ⟨id, sprite, hid, hsprite, hplace hq⟩

/-- The player of the game has come in and moved, and the client knows of neither. -/
def behind : Session :=
  run (step ⟨1, 4000⟩) ((registered ⟨1, 4000⟩).step ⟨1, 4000⟩ (.call (.initializePlayers 1)))
    [.call (.addPlayerAction 0 2), .call .processPlayerActions]

theorem catches_up_behind : ∃ k ≤ 5, ∃ (id : Int32) (sprite : SpriteElement), id.toInt = 0 ∧
    ((run (step ⟨1, 4000⟩) behind (behind.catchUp ⟨1, 4000⟩ k 0 ⟨0, 4242⟩)).loop.scene.sprites
      .player)[id]? = some sprite ∧ sprite.x = .finite 120 ∧ sprite.y = .finite 100 := by
  have hrun : EachStep (step ⟨1, 4000⟩) (KeepsPlaces ⟨1, 4000⟩)
      ((registered ⟨1, 4000⟩).step ⟨1, 4000⟩ (.call (.initializePlayers 1)))
      [.call (.addPlayerAction 0 2), .call .processPlayerActions] :=
    ⟨⟨trivial, fun c => by cases c <;> decide +kernel⟩,
      ⟨trivial, fun c => by cases c <;> decide +kernel⟩, trivial⟩
  have hphase : behind.loop.phase = .handle := rfl
  have hmoved : ∃ p, behind.history.game.players[(0 : Int)]? = some p ∧
      p.position = ⟨120, 100⟩ := Option.map_eq_some_iff.mp (by decide +kernel)
  obtain ⟨p, hp, hposition⟩ := hmoved
  obtain ⟨k, hk, -, -, -, -, hplayers⟩ :=
    catches_up (beforeGame_registered ⟨1, 4000⟩) (by decide +kernel) (by decide)
      hrun (rfl : behind = _) (fun code h => by rw [hphase] at h; cases h) (by decide +kernel)
      (by decide +kernel) 0 ⟨0, 4242⟩
  obtain ⟨id, sprite, hid, hsprite, -, hat⟩ := hplayers 0 p hp (by decide +kernel)
  obtain ⟨hx, hy⟩ := hat (by decide)
  rw [hposition] at hx hy
  exact ⟨k, hk, id, sprite, hid, hsprite, hx, hy⟩

end Session

end BeeRType
