-- SUMMARY: When a queued player action ends the program.
import BeeRType.Base.Transition
import BeeRType.Game.Effects
import BeeRType.World.PacketHandler

/-!
# Crashes of the game loop

`handlePlayerMove` throws for a player that is not in the map, and nothing on the
game thread catches it. Between the packet that queues an action and the loop
that applies it the player may die, be cleared by `stop`, or never have been
spawned.
-/

open Cpp Transition

namespace BeeRType

namespace World

/-- No thread has died of the exception of `getPlayerPosition`. -/
def NotCrashed (w : World) : Prop := w.terminated ≠ some (.outOfRange "Invalid player ID")

/-- If the event is the loop of `processPlayerActions` on a game thread, every
queued move is of a player that is in the map when the loop begins. -/
def MovesLivePlayers (w : World) (e : Event) : Prop :=
  match e with
  | .thread i _ _ => w.terminated = none → ∀ t, w.threads[i]? = some t →
      t.pc = .processPlayerActions → w.game.MovesKnown w.game.playerActions
  | _ => True

/-- The program runs, and its objects are spawned from an untouched registry. -/
structure Alive (w : World) : Prop where
  sound : w.game.Sound
  running : w.terminated = none

variable {w : World} {e : Event} {es : List Event}

theorem alive_new : Alive new := ⟨rfl, rfl⟩

theorem Alive.notCrashed (hw : Alive w) : NotCrashed w := by
  rw [NotCrashed, hw.running]
  exact nofun

/-- Handling a packet never throws. -/
theorem Alive.handlePacket (hw : Alive w) (packet : Packet) : Alive (w.handlePacket packet) := by
  cases handlePacket_handled w packet with
  | ignored heq => rw [heq]; exact hw
  | connected _ heq => rw [heq]; exact ⟨hw.sound, hw.running⟩
  | disconnected _ heq => rw [heq]; exact ⟨hw.sound, hw.running⟩
  | started _ _ heq => rw [heq]; exact ⟨hw.sound, hw.running⟩
  | ended _ _ heq => rw [heq]; exact ⟨hw.sound, hw.running⟩
  | moved _ _ _ heq => rw [heq]; exact ⟨hw.sound, hw.running⟩
  | shot playerId _ heq =>
      obtain ⟨g', hg'⟩ := Game.exists_spawnBullet hw.sound playerId
      rw [heq, hg']
      exact ⟨(Game.spawnBullet_acted hg').registry.trans hw.sound, hw.running⟩
  | pinged heq => rw [heq]; exact ⟨hw.sound, hw.running⟩

theorem Alive.step (hw : Alive w) (h : MovesLivePlayers w e) : Alive (w.step e) := by
  cases step_stepped w e with
  | idle heq => rw [heq]; exact hw
  | received error source data heq => rw [heq]; exact ⟨hw.sound, hw.running⟩
  | handled packet rest _ _ _ heq =>
      rw [heq]
      exact Alive.handlePacket (w := w.setPacketQueue rest) ⟨hw.sound, hw.running⟩ packet
  | sent heq => rw [heq]; exact ⟨hw.sound, hw.running⟩
  | ran i now draws t game pc _ _ _ hstep heq =>
      rw [heq]
      exact ⟨Game.threadStep_sound hw.sound hstep, hw.running⟩
  | crashed i now draws t exception he _ ht hstep heq =>
      subst he
      obtain ⟨r, hr⟩ := Game.exists_threadStep hw.sound (h hw.running t ht)
      rw [hr] at hstep
      cases hstep

theorem crashes_of_unknown (hw : Alive w) (h : ¬ MovesLivePlayers w e) : ¬ NotCrashed (w.step e) := by
  cases e with
  | receive error source data => exact absurd trivial h
  | process => exact absurd trivial h
  | sendTimer => exact absurd trivial h
  | thread i now draws =>
      simp only [MovesLivePlayers, Classical.not_imp, not_forall] at h
      obtain ⟨-, t, ht, hpc, hunknown⟩ := h
      rw [step_of_running hw.running, NotCrashed, not_not]
      simp only [runThread, ht, Game.threadStep_of_unknown hw.sound hpc hunknown]
      rfl

/-- The exception of `getPlayerPosition` ends the program exactly in the runs in
which some loop over the queued actions begins with a move of a player that is
not in the map. -/
theorem notCrashed_iff :
    Always step NotCrashed new es ↔ EachStep step MovesLivePlayers new es :=
  always_iff_eachStep alive_new (fun _ hw => hw.notCrashed) (fun _ _ hw h => hw.step h)
    fun _ _ hw h => crashes_of_unknown hw h

/-- A client that joins after GAME_START and moves: its id is not that of a
player. -/
theorem notCrashed_lateJoiner :
    ¬ Always step NotCrashed new
        [.receive .success ⟨1, 4000⟩ [1], .process, .receive .success ⟨1, 4000⟩ [3], .process,
          .thread 0 0 fun _ => ⟨0, 0, Draw.zero_mem_x, Draw.zero_mem_y⟩,
          .receive .success ⟨1, 4001⟩ [1], .process, .receive .success ⟨1, 4001⟩ [18], .process,
          .thread 0 0 fun _ => ⟨0, 0, Draw.zero_mem_x, Draw.zero_mem_y⟩] := by
  intro h
  exact h.final (by decide +kernel)

end World

end BeeRType
