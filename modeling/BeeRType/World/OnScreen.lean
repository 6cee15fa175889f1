-- SUMMARY: The positions of the players: when all of them are on the screen.
import BeeRType.Base.Entries
import BeeRType.World.Calls

/-!
# Players on the screen

Moving a player clamps its position to the screen. Spawning does not: player `i`
starts at `100 * (i + 1)`, which is beyond the right border from the twelfth player
on.
-/

open Cpp Std Transition

namespace BeeRType

/-- The rectangle that `clampPositionToBounds` clamps to. -/
def Position.OnScreen (pos : Position) : Prop :=
  (0 ≤ pos.x ∧ pos.x ≤ 1195) ∧ 0 ≤ pos.y ∧ pos.y ≤ 630

namespace Game

/-- Every player is on the screen. -/
def OnScreen (g : Game) : Prop := AllEntries (fun p : Player => p.position.OnScreen) g.players

variable {g g' : Game} {playerId actionId : Int}

theorem clampPositionToBounds_onScreen (x y : ℚ) :
    Position.OnScreen ⟨(clampPositionToBounds x y).1, (clampPositionToBounds x y).2⟩ := by
  unfold clampPositionToBounds Position.OnScreen
  dsimp only
  constructor
  · split
    · norm_num
    · split <;> constructor <;> linarith
  · split
    · norm_num
    · split <;> constructor <;> linarith

theorem OnScreen.handlePlayerMove (hg : OnScreen g)
    (h : g.handlePlayerMove playerId actionId = .ok g') : OnScreen g' := by
  obtain ⟨player, positions, messages, hplayer, -, rfl⟩ := handlePlayerMove_new h
  refine hg.modify fun p hp honscreen => ?_
  obtain rfl := Option.some.inj (hplayer.symm.trans hp)
  -- A relative move by the way to the target ends at the target.
  change Position.OnScreen (GameObject.position (player.toGameObject.move _ _))
  rw [GameObject.position_move]
  split
  · rw [add_sub_cancel, add_sub_cancel]
    exact clampPositionToBounds_onScreen _ _
  · exact honscreen

theorem onScreen_rule : Rule fun g g' => OnScreen g → OnScreen g' :=
  playerObjects_rule (P := fun o => o.position.OnScreen) fun h hg => OnScreen.handlePlayerMove hg h

/-- The players `0, .., 10` are spawned on the screen. -/
theorem spawn_onScreen_iff {i : Int} (hi : 0 ≤ i) :
    Position.OnScreen ⟨100 * (i + 1), 100⟩ ↔ i < 11 := by
  have hpos : (0 : ℚ) ≤ i := by exact_mod_cast hi
  constructor
  · rintro ⟨⟨-, hx⟩, -⟩
    by_contra hge
    have hge' : (11 : ℚ) ≤ i := by exact_mod_cast Int.not_lt.mp hge
    simp only at hx
    linarith
  · intro hlt
    have hle : (i : ℚ) ≤ 10 := by exact_mod_cast Int.lt_add_one_iff.mp hlt
    refine ⟨⟨?_, ?_⟩, ?_, ?_⟩ <;> simp only <;> linarith

/-- Each id that `initializePlayers` is new to is below eleven. -/
def SpawnsOnScreen (g : Game) (numPlayers : Int) : Prop :=
  ∀ i, 0 ≤ i → i < numPlayers → i ∉ g.players → i < 11

/-- Spawning the players keeps all players on the screen exactly if none of the new
ones is the twelfth or a later one. -/
theorem OnScreen.initializePlayers_iff (hg : OnScreen g) {numPlayers : Int}
    (h : g.initializePlayers numPlayers = .ok g') :
    OnScreen g' ↔ SpawnsOnScreen g numPlayers := by
  obtain ⟨hmem, -⟩ := initializePlayers_ok h
  constructor
  · intro hg' i hi hlt hnew
    obtain ⟨p, hp⟩ := Option.isSome_iff_exists.mp
      (ExtTreeMap.mem_iff_isSome_getElem?.mp ((hmem i).mpr (.inl ⟨hi, hlt⟩)))
    obtain ⟨q, hq, -⟩ | ⟨-, hposition⟩ := initializePlayers_player h hp
    · refine absurd ?_ hnew
      rw [ExtTreeMap.mem_iff_isSome_getElem?, hq]
      rfl
    · rw [← spawn_onScreen_iff hi, ← hposition]
      exact hg' i p hp
  · intro hspawns i p hp
    obtain ⟨q, hq, heq⟩ | ⟨hnew, hposition⟩ := initializePlayers_player h hp
    · have hsame : p.position = q.position := by rw [heq]
      rw [hsame]
      exact hg i q hq
    · have hi : i ∈ g'.players := by
        rw [ExtTreeMap.mem_iff_isSome_getElem?, hp]
        rfl
      obtain ⟨hpos, hlt⟩ := ((hmem i).mp hi).resolve_right hnew
      rw [hposition, spawn_onScreen_iff hpos]
      exact hspawns i hpos hlt hnew

theorem OnScreen.stop (g : Game) : OnScreen g.stop := AllEntries.empty

theorem OnScreen.checkPlayersAlive (hg : OnScreen g) (numClients : Nat) :
    OnScreen (g.checkPlayersAlive numClients).2 := by
  unfold Game.checkPlayersAlive
  dsimp only
  split
  · exact AllEntries.empty
  · exact hg

end Game

namespace World

/-- If the event is a thread's call of `initializePlayers`, it spawns no player
beyond the right border. -/
def SpawnsOnScreen (w : World) (e : Event) : Prop :=
  ∀ numPlayers, w.ThreadCalls e (.initializePlayers numPlayers) →
    w.game.SpawnsOnScreen numPlayers

variable {w : World} {e : Event}

theorem onScreen_step (hw : w.game.OnScreen) (h : w.SpawnsOnScreen e) :
    (w.step e).game.OnScreen := by
  cases step_gameStepped w e with
  | same heq =>
      rw [heq]
      exact hw
  | queued playerId action heq =>
      rw [heq]
      exact hw
  | shot playerId heq => exact Game.onScreen_rule.spawnBullet heq hw
  | stopped heq =>
      rw [heq]
      exact Game.OnScreen.stop _
  | called c hc heq =>
      obtain ⟨t, tick, hcall⟩ := hc.exists_call
      obtain hingame | ⟨numPlayers, rfl⟩ | ⟨numClients, rfl⟩ := Game.call_cases hcall
      · exact Game.onScreen_rule.perform hingame heq hw
      · exact (hw.initializePlayers_iff heq).mpr (h numPlayers hc)
      · obtain heq := Except.ok.inj heq
        rw [← heq]
        exact hw.checkPlayersAlive numClients

theorem not_onScreen_step (hsound : w.game.Sound) (hw : w.game.OnScreen)
    (h : ¬ w.SpawnsOnScreen e) : ¬ (w.step e).game.OnScreen := by
  simp only [SpawnsOnScreen, not_forall] at h
  obtain ⟨numPlayers, hc, hspawns⟩ := h
  obtain ⟨game, hgame⟩ := Game.exists_initializePlayers hsound numPlayers
  rw [game_of_threadCalls hc hgame, hw.initializePlayers_iff hgame]
  exact hspawns

/-- In every state of every run of the server program, all players are on the screen
exactly if each time a game thread spawns its players, no new player has an id from
eleven on. -/
theorem onScreen_iff (es : List Event) :
    Always step (fun w => w.game.OnScreen) new es ↔ EachStep step SpawnsOnScreen new es :=
  always_iff_eachStep (I := fun w => w.game.Sound ∧ w.game.OnScreen) ⟨rfl, AllEntries.empty⟩
    (fun _ hw => hw.2) (fun _ _ hw h => ⟨step_sound hw.1, onScreen_step hw.2 h⟩)
    fun _ _ hw h => not_onScreen_step hw.1 hw.2 h

/-- Twelve clients connect and start a game. -/
def twelveClients : List Event :=
  (List.range 12).flatMap (fun i =>
    [.receive .success ⟨1, 4000 + i.toUInt16⟩ [1], .process]) ++
    [.receive .success ⟨1, 4000⟩ [3], .process,
      .thread 0 0 fun _ => .origin]

/-- The twelfth player is spawned beyond the right border. -/
theorem offScreen_twelveClients : ¬ Always step (fun w => w.game.OnScreen) new twelveClients := by
  intro h
  have hposition : ((run step new twelveClients).game.players[(11 : Int)]?.map fun p =>
      p.position.x) = some 1200 := by decide +kernel
  obtain ⟨p, hp, hx⟩ := Option.map_eq_some_iff.mp hposition
  have honscreen := (h.final 11 p hp).1.2
  rw [hx] at honscreen
  norm_num at honscreen

end World

end BeeRType
