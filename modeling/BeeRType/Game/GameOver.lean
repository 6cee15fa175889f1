-- SUMMARY: One run of `Game::run`, and when the loss of the last player is noticed.
import BeeRType.Base.Transition
import BeeRType.Game.Effects

/-!
# Game over

A single thread in `Game::run`, with the packet handler queueing moves and
shooting in between. `checkPlayersAlive` would end the run, but it comes after
the loop of `update`, so that it is never reached.
-/

open Cpp Std Transition

namespace BeeRType

/-- One call of `Game::run`, up to an exception that leaves it. -/
structure GameRun where
  game : Game
  thread : Thread
  terminated : Option StdException

namespace GameRun

inductive Event where
  | step (tick : Tick)
  | addPlayerAction (playerId actionId : Int)
  | spawnBullet (playerId : Int)

/-- `run(numPlayers)` is entered. -/
def enter (g : Game) (numPlayers : Int) : GameRun := ⟨g, ⟨numPlayers, .initializePlayers⟩, none⟩

def step (s : GameRun) (e : Event) : GameRun :=
  if s.terminated.isSome then s
  else match e with
    | .step tick =>
      match s.game.threadStep s.thread tick with
      | .ok (game, pc) => { s with game := game, thread := { s.thread with pc := pc } }
      | .error exception => { s with terminated := some exception }
    | .addPlayerAction playerId actionId =>
      { s with game := s.game.addPlayerAction playerId actionId }
    | .spawnBullet playerId =>
      match s.game.spawnBullet playerId with
      | .ok game => { s with game := game }
      | .error exception => { s with terminated := some exception }

/-- When no player is left since the start, the next call is `checkPlayersAlive`,
unless the run is over. -/
def GameOverDetected (s : GameRun) : Prop :=
  s.game.players = ∅ → s.thread.pc = .initializePlayers ∨ s.thread.pc = .checkPlayersAlive ∨
    s.thread.pc = .returned

/-- If the event is a call of `checkCollisions`, some player outlives it. -/
def LeavesSurvivor (s : GameRun) (e : Event) : Prop :=
  match e with
  | .step _ => s.terminated = none → s.thread.pc = .checkCollisions →
      ∃ i p, s.game.players[i]? = some p ∧ s.game.Survives i p
  | _ => True

/-- There are players from `initializePlayers` on. -/
structure Inv (s : GameRun) : Prop where
  looping : s.thread.Looping
  numPlayers_pos : 1 ≤ s.thread.numPlayers
  players_ne : s.thread.pc ≠ .initializePlayers → s.game.players ≠ ∅

variable {s : GameRun} {e : Event} {es : List Event} {g : Game} {n : Int}

theorem inv_enter (hn : 1 ≤ n) : Inv (enter g n) :=
  ⟨⟨nofun, nofun⟩, hn, fun h => absurd rfl h⟩

theorem Inv.gameOverDetected (hs : Inv s) : GameOverDetected s := by
  intro hempty
  by_cases hpc : s.thread.pc = .initializePlayers
  · exact .inl hpc
  · exact absurd hempty (hs.players_ne hpc)

theorem ne_empty_of_mem {m : ExtTreeMap Int Player} {i : Int} (h : i ∈ m) : m ≠ ∅ := by
  rintro rfl
  exact ExtTreeMap.not_mem_empty h

theorem players_ne_of_acted {g g' : Game} (h : Game.Acted g g') (hne : g.players ≠ ∅) :
    g'.players ≠ ∅ := by
  intro hempty
  refine hne (ExtTreeMap.eq_empty_iff_forall_not_mem.mpr fun i hi => ?_)
  exact ne_empty_of_mem ((h.mem_players i).mpr hi) hempty

/-- Only `checkCollisions` takes players away. -/
theorem players_ne_of_threadStep {g' : Game} {t : Thread} {tick : Tick} {pc : ThreadPc}
    (ht : t.Looping) (hn : 1 ≤ t.numPlayers)
    (hne : t.pc ≠ .initializePlayers → g.players ≠ ∅)
    (hsurvivor : t.pc = .checkCollisions → ∃ i p, g.players[i]? = some p ∧ g.Survives i p)
    (h : g.threadStep t tick = .ok (g', pc)) : g'.players ≠ ∅ := by
  unfold Game.threadStep at h
  split at h <;> rename_i hpc <;> rw [hpc] at hne
  · obtain ⟨g₁, h₁, h⟩ := Fallible.bind_eq_ok.mp h
    cases Fallible.pure_eq_ok.mp h
    exact ne_empty_of_mem (((Game.initializePlayers_ok h₁).1 0).mpr (.inl ⟨le_rfl, hn⟩))
  · obtain ⟨g₁, h₁, h⟩ := Fallible.bind_eq_ok.mp h
    cases Fallible.pure_eq_ok.mp h
    exact players_ne_of_acted (Game.processPlayerActions_acted h₁) (hne nofun)
  · cases h
    exact hne nofun
  · cases h
    rw [Game.updateBullets_timed.players]
    exact hne nofun
  · cases h
    rw [Game.updateEnemies_timed.players]
    exact hne nofun
  · cases h
    obtain ⟨i, p, hp, hsurvives⟩ := hsurvivor hpc
    exact ne_empty_of_mem (Game.mem_players_checkCollisions.mpr ⟨p, hp, hsurvives⟩)
  · obtain ⟨g₁, h₁, h⟩ := Fallible.bind_eq_ok.mp h
    cases Fallible.pure_eq_ok.mp h
    rw [(Game.waveSystem_waved h₁).players]
    exact hne nofun
  · cases h
    rw [Game.updateUI_timed.players]
    exact hne nofun
  · exact absurd hpc ht.1
  · exact absurd hpc ht.2

theorem Inv.step (hs : Inv s) (h : LeavesSurvivor s e) : Inv (s.step e) := by
  unfold GameRun.step
  split
  · exact hs
  · rename_i hrunning
    cases e with
    | step tick =>
        dsimp only
        split
        · rename_i game pc hstep
          refine ⟨hs.looping.step hstep, hs.numPlayers_pos, fun _ => ?_⟩
          exact players_ne_of_threadStep hs.looping hs.numPlayers_pos hs.players_ne
            (h (by simpa using hrunning)) hstep
        · exact ⟨hs.looping, hs.numPlayers_pos, hs.players_ne⟩
    | addPlayerAction playerId actionId => exact ⟨hs.looping, hs.numPlayers_pos, hs.players_ne⟩
    | spawnBullet playerId =>
        dsimp only
        split
        · rename_i game hshot
          refine ⟨hs.looping, hs.numPlayers_pos, fun hpc => ?_⟩
          exact players_ne_of_acted (Game.spawnBullet_acted hshot) (hs.players_ne hpc)
        · exact ⟨hs.looping, hs.numPlayers_pos, hs.players_ne⟩

/-- After the last player is gone the loop goes on with `waveSystem`. -/
theorem not_gameOverDetected_of_no_survivor (h : ¬ LeavesSurvivor s e) :
    ¬ GameOverDetected (s.step e) := by
  cases e with
  | addPlayerAction playerId actionId => exact absurd trivial h
  | spawnBullet playerId => exact absurd trivial h
  | step tick =>
      simp only [LeavesSurvivor, not_forall] at h
      obtain ⟨hrunning, hpc, hnone⟩ := h
      have hempty : s.game.checkCollisions.players = ∅ :=
        ExtTreeMap.eq_empty_iff_forall_not_mem.mpr fun i hi =>
          hnone ⟨i, Game.mem_players_checkCollisions.mp hi⟩
      intro hdetected
      simp only [GameOverDetected, step, hrunning, Game.threadStep, hpc] at hdetected
      simpa using hdetected hempty

/-- `checkPlayersAlive` without players broadcasts one GAME_END, stops the game,
and `run` returns. -/
theorem threadStep_gameOver {tick : Tick} (h : g.players = ∅) :
    g.threadStep ⟨n, .checkPlayersAlive⟩ tick =
      .ok (({ g with totalPlayers := tick.numClients }.broadcast .gameEnd
        ⟨str "0", str "0", str "0", str "0", str "0"⟩).stop, .returned) := by
  simp [Game.threadStep, Game.checkPlayersAlive, h]

/-- In a run entered with at least one player, the loss of the last player is
detected exactly if every call of `checkCollisions` leaves some player. Where
`checkPlayersAlive` is called without players, it ends the run. -/
theorem gameOver_iff (g : Game) {n : Int} (hn : 1 ≤ n) (es : List Event) :
    (Always step GameOverDetected (enter g n) es ↔ EachStep step LeavesSurvivor (enter g n) es) ∧
      ∀ (g : Game) (tick : Tick), g.players = ∅ →
        ∃ g', g.threadStep ⟨n, .checkPlayersAlive⟩ tick = .ok (g', .returned) ∧ g' = g'.stop ∧
          g'.broadcasts = g.broadcasts ++
            [⟨.gameEnd, ⟨str "0", str "0", str "0", str "0", str "0"⟩⟩] :=
  ⟨always_iff_eachStep (inv_enter hn) (fun _ hs => hs.gameOverDetected) (fun _ _ hs h => hs.step h)
    fun _ _ _ => not_gameOverDetected_of_no_survivor,
    fun _ _ h => ⟨_, threadStep_gameOver h, rfl, rfl⟩⟩

/-- A reading of the clock, with all draws at height `100`. -/
def tickAt (seconds : Int) : Tick :=
  ⟨seconds * Game.nanosPerSecond, fun _ => ⟨0, 100, Draw.zero_mem_x, by norm_num⟩, 1⟩

/-- A player that nothing hits. -/
theorem gameOver_iff_unharmed :
    Always step GameOverDetected (enter .new 1) [.step (tickAt 0), .addPlayerAction 0 2] :=
  (gameOver_iff .new Int.one_pos _).1.mpr ⟨nofun, trivial, trivial⟩

/-- The player moves to where the enemies appear, and meets two waves: five enemies,
then a boss and four enemies. -/
def twoWaves : List Event :=
  .step (tickAt 0) :: List.replicate 43 (.addPlayerAction 0 2) ++
    List.replicate 7 (.step (tickAt 0)) ++ List.replicate 7 (.step (tickAt 10)) ++
    List.replicate 12 (.step (tickAt 20))

/-- The only player is gone, and the next call is `waveSystem`. -/
theorem gameOver_unnoticed : ¬ Always step GameOverDetected (enter .new 1) twoWaves := by
  intro h
  have hempty : (run step (enter .new 1) twoWaves).game.players = ∅ :=
    ExtTreeMap.isEmpty_iff.mp (by decide +kernel)
  have hpc : (run step (enter .new 1) twoWaves).thread.pc = .waveSystem := by decide +kernel
  simpa [hpc] using h.final hempty

end GameRun

end BeeRType
