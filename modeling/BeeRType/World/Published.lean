-- SUMMARY: In which runs of the server program every move leaves all player positions published.
import BeeRType.Game.Published
import BeeRType.Game.Reachable
import BeeRType.World.Calls

/-!
# Positions at the clients

`handlePlayerMove` is called by the loop of `processPlayerActions` only. The table
that suppresses packets outlives the games, and a game thread announces its players at
the place where they are spawned, wherever they are.
-/

open Cpp Transition

namespace BeeRType

namespace World

/-- If the event is a thread's call of `processPlayerActions`, all positions are
published each time `handlePlayerMove` returns. -/
def PublishesMoves (w : World) (e : Event) : Prop :=
  w.ThreadCalls e .processPlayerActions → w.game.MovesPublished

/-- If the event is such a call, each of its moves is one that is published. -/
def TracksMoves (w : World) (e : Event) : Prop :=
  w.ThreadCalls e .processPlayerActions → w.game.MovesTracked

/-- If the event is a thread's call of `initializePlayers`, the players that are there
already are where they are announced. -/
def AnnouncesInPlace (w : World) (e : Event) : Prop :=
  ∀ numPlayers, w.ThreadCalls e (.initializePlayers numPlayers) → w.game.AtSpawn numPlayers

variable {w : World} {e : Event} {es : List Event}

/-- Calls of a running game, the loop over the actions apart, leave all players in
place. -/
theorem leavesInPlace_of_inGame {g g' : Game} {c : Call} (hc : c.InGame)
    (hactions : c ≠ .processPlayerActions) (h : g.perform c = .ok g') : g.LeavesInPlace g' := by
  cases c with
  | processPlayerActions => exact absurd rfl hactions
  | updateBullets now =>
      cases h
      rw [Game.updateBullets_frame]
      exact .of_eq rfl rfl
  | updateEnemies now =>
      cases h
      rw [Game.updateEnemies_frame]
      exact .of_eq rfl rfl
  | checkCollisions =>
      cases h
      exact Game.checkCollisions_leavesInPlace
  | _ => exact Game.leavesInPlace_rule.perform (by exact hc) h

theorem published_step (hw : w.game.Published) (hannounce : w.AnnouncesInPlace e)
    (hmoves : w.TracksMoves e) : (w.step e).game.Published := by
  cases step_gameStepped w e with
  | same heq =>
      rw [heq]
      exact hw
  | queued playerId action heq =>
      rw [heq]
      exact hw
  | shot playerId heq => exact (Game.spawnBullet_leavesInPlace heq).published hw
  | stopped heq =>
      rw [heq]
      exact Game.stop_published
  | called c hc heq =>
      obtain ⟨t, tick, hcall⟩ := hc.exists_call
      obtain hingame | ⟨numPlayers, rfl⟩ | ⟨numClients, rfl⟩ := Game.call_cases hcall
      · by_cases hactions : c = .processPlayerActions
        · subst hactions
          exact Game.processPlayerActions_published hw (hmoves hc) heq
        · exact (leavesInPlace_of_inGame hingame hactions heq).published hw
      · exact Game.initializePlayers_published hw (hannounce numPlayers hc) heq
      · obtain heq := Except.ok.inj heq
        rw [← heq]
        rcases Game.checkPlayersAlive_cases w.game numClients with h | h <;> rw [h]
        · exact hw
        · exact Game.stop_published

/-- In every run of the server program in which no game thread announces a player at
the place of its spawn while it is elsewhere, all positions are published after every
move exactly if each move leaves the printed position as it is, or is of an id below
the number of players to a position that is not the last one published under the id. -/
theorem publishesMoves_iff (h : EachStep step AnnouncesInPlace new es) :
    EachStep step PublishesMoves new es ↔ EachStep step TracksMoves new es := by
  refine eachStep_iff_eachStep (I := fun w => w.game.Published) ?_ h (fun w e hw => ?_)
    fun w e hw hannounce hmoves => ?_
  · intro q p hp
    exact absurd (Std.ExtTreeMap.mem_iff_isSome_getElem?.mpr (Option.isSome_of_mem hp))
      Std.ExtTreeMap.not_mem_empty
  · exact imp_congr_right fun _ => Game.movesPublished_iff hw
  · refine published_step hw hannounce fun hc => ?_
    exact (Game.movesPublished_iff hw).mp (hmoves hc)

/-- Draws that no wave needs. -/
def origin : Nat → Draw := fun _ => .origin

/-- One client connects, starts a game and moves to the right. -/
def oneMove : List Event :=
  [.receive .success ⟨1, 4000⟩ [1], .process, .receive .success ⟨1, 4000⟩ [3], .process,
    .thread 0 0 origin, .receive .success ⟨1, 4000⟩ [16], .process, .thread 0 0 origin]

/-- The game is ended and started again, and the new player is about to make the same
move. -/
def sameMove : List Event :=
  oneMove ++ [.thread 0 0 origin, .receive .success ⟨1, 4000⟩ [15], .process,
    .receive .success ⟨1, 4000⟩ [3], .process, .thread 1 0 origin,
    .receive .success ⟨1, 4000⟩ [16], .process]

theorem publishesMoves_oneMove :
    EachStep step PublishesMoves new oneMove ↔ EachStep step TracksMoves new oneMove := by
  refine publishesMoves_iff ?_
  have hnone : ∀ w : World, w.game.players.isEmpty = true → ∀ e, w.AnnouncesInPlace e := by
    intro w hempty e numPlayers _ q p hp
    rw [Std.ExtTreeMap.isEmpty_iff.mp hempty] at hp
    exact absurd hp (by simp)
  have hother : ∀ (w : World) (e : Event), (∀ i now draws, e ≠ .thread i now draws) →
      w.AnnouncesInPlace e := by
    rintro w e hne numPlayers ⟨i, now, draws, t, he, -⟩
    exact absurd he (hne i now draws)
  refine ⟨hother _ _ nofun, hother _ _ nofun, hother _ _ nofun, hother _ _ nofun,
    hnone _ (by decide +kernel) _, hother _ _ nofun, hother _ _ nofun, ?_, trivial⟩
  rintro numPlayers ⟨i, now, draws, t, he, -, ht, hcall⟩
  cases he
  have hthread := ht.symm.trans (by decide +kernel : _ = some (⟨1, .processPlayerActions⟩ : Thread))
  cases hthread
  cases hcall

/-- The table still has the position that the player of the first game has moved to,
so that the move is not published. -/
theorem not_publishesMoves_sameMove :
    ¬ EachStep step PublishesMoves new (sameMove ++ [.thread 1 0 origin]) := by
  intro h
  have hmoves : (run step new sameMove).game.MovesPublished := by
    refine (eachStep_append.mp h).2.1 ⟨1, 0, origin, ⟨1, .processPlayerActions⟩, rfl, ?_, ?_, rfl⟩
    · decide +kernel
    · decide +kernel
  have hactions : (run step new sameMove).game.playerActions = [⟨0, 2, false⟩] := by decide +kernel
  have hlast : ((run step new sameMove).game.applyPlayerActions [⟨0, 2, false⟩]).toOption.map
      (fun r => (lastLocated 0 r.1.broadcasts, r.1.players[(0 : Int)]?.map fun p =>
        p.position.text)) =
      some (some (str "100.000000", str "100.000000"), some (str "120.000000", str "100.000000")) := by
    decide +kernel
  cases hloop : (run step new sameMove).game.applyPlayerActions [⟨0, 2, false⟩] with
  | error exception => simp [hloop, Except.toOption] at hlast
  | ok r =>
      rw [hloop] at hlast
      simp only [Except.toOption, Option.map_some, Option.some.injEq, Prod.mk.injEq] at hlast
      obtain ⟨p, hp, htext⟩ := Option.map_eq_some_iff.mp hlast.2
      have hpublished := hmoves [] ⟨0, 2, false⟩ [] r.1 hactions ⟨by decide, by decide⟩ ⟨r.2, hloop⟩
        0 p hp
      rw [hlast.1, htext] at hpublished
      exact absurd hpublished (by decide)

end World

end BeeRType
