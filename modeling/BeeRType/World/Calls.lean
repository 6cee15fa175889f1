-- SUMMARY: The steps of the server program as calls on its game.
import BeeRType.Game.Calls
import BeeRType.World.PacketHandler

/-!
# Calls of the program

A step of the program makes at most one call on the game. The handlers queue moves,
shoot and stop; everything else is called by a game thread.
-/

open Cpp Transition

namespace BeeRType

namespace World

/-- The event is a step of a game thread, which makes the call. -/
def ThreadCalls (w : World) (e : Event) (c : Call) : Prop :=
  ∃ i now draws t, e = .thread i now draws ∧ w.terminated = none ∧ w.threads[i]? = some t ∧
    t.call ⟨now, draws, w.server.clients.size⟩ = some c

/-- What a step of the program does to the game. -/
inductive GameStepped (w : World) (e : Event) : Prop where
  | same (heq : (w.step e).game = w.game)
  | queued (playerId action : Int) (heq : (w.step e).game = w.game.addPlayerAction playerId action)
  | shot (playerId : Int) (heq : w.game.spawnBullet playerId = .ok (w.step e).game)
  | stopped (heq : (w.step e).game = w.game.stop)
  | called (c : Call) (hc : w.ThreadCalls e c) (heq : w.game.perform c = .ok (w.step e).game)

variable {w : World} {e : Event}

theorem ThreadCalls.exists_call {c : Call} (h : w.ThreadCalls e c) :
    ∃ (t : Thread) (tick : Tick), t.call tick = some c := by
  obtain ⟨i, now, draws, t, -, -, -, hcall⟩ := h
  exact ⟨t, _, hcall⟩

theorem handlePacket_gameStepped {packet : Packet} {rest : List Packet}
    (heq : w.step e = (w.setPacketQueue rest).handlePacket packet) : GameStepped w e := by
  cases handlePacket_handled (w.setPacketQueue rest) packet with
  | ignored h => exact .same (by rw [heq, h]; rfl)
  | connected _ h => exact .same (by rw [heq, h]; rfl)
  | disconnected _ h => exact .same (by rw [heq, h]; rfl)
  | started _ _ h => exact .same (by rw [heq, h]; rfl)
  | ended _ _ h => exact .stopped (by rw [heq, h]; rfl)
  | moved playerId action _ h => exact .queued playerId action (by rw [heq, h]; rfl)
  | pinged h => exact .same (by rw [heq, h]; rfl)
  | shot playerId _ h =>
      cases hshot : (w.setPacketQueue rest).game.spawnBullet playerId with
      | ok game =>
          rw [hshot] at h
          refine .shot playerId ?_
          rw [heq, h]
          exact hshot
      | error exception =>
          rw [hshot] at h
          exact .same (by rw [heq, h]; rfl)

theorem step_gameStepped (w : World) (e : Event) : GameStepped w e := by
  cases step_stepped w e with
  | idle h => exact .same (by rw [h])
  | received error source data h => exact .same (by rw [h])
  | handled packet rest _ _ _ h => exact handlePacket_gameStepped h
  | sent h => exact .same (by rw [h])
  | crashed i now draws t exception _ _ _ _ h => exact .same (by rw [h])
  | ran i now draws t game pc he hrunning ht hstep h =>
      have hgame : (w.step e).game = game := by rw [h]; rfl
      have hcall := Game.threadStep_call hstep
      cases hc : t.call ⟨now, draws, w.server.clients.size⟩ with
      | none =>
          rw [hc] at hcall
          exact .same (hgame.trans hcall)
      | some c =>
          rw [hc] at hcall
          exact .called c ⟨i, now, draws, t, he, hrunning, ht, hc⟩ (by rw [hgame]; exact hcall)

/-- Objects go on being spawned from the registry that the constructor has left. -/
theorem step_sound (hw : w.game.Sound) : (w.step e).game.Sound := by
  cases step_gameStepped w e with
  | same heq =>
      rw [heq]
      exact hw
  | queued playerId action heq =>
      rw [heq]
      exact hw
  | shot playerId heq => exact (Game.spawnBullet_acted heq).registry.trans hw
  | stopped heq =>
      rw [heq]
      exact hw
  | called c hc heq =>
      obtain ⟨i, now, draws, t, -, -, -, hcall⟩ := hc
      obtain hingame | ⟨numPlayers, rfl⟩ | ⟨numClients, rfl⟩ := Game.call_cases hcall
      · exact (Game.registry_perform hingame heq).trans hw
      · exact (Game.initializePlayers_ok heq).2.registry.trans hw
      · obtain heq := Except.ok.inj heq
        rw [← heq]
        exact (Game.checkPlayersAlive_keeps w.game numClients).registry.trans hw

/-- A call of a thread that does not throw gives the next game. -/
theorem game_of_threadCalls {c : Call} {game : Game} (hc : w.ThreadCalls e c)
    (h : w.game.perform c = .ok game) : (w.step e).game = game := by
  obtain ⟨i, now, draws, t, rfl, hrunning, ht, hcall⟩ := hc
  obtain ⟨pc, hstep⟩ := Game.exists_threadStep_of_call hcall h
  rw [step_thread hrunning ht hstep]
  rfl

end World

end BeeRType
