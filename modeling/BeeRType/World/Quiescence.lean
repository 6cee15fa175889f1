-- SUMMARY: What happens to the game after GAME_END: when its maps stay empty and nothing is announced any more.
import BeeRType.Game.Effects
import BeeRType.Server.ClientTable
import BeeRType.World.PacketHandler

/-!
# Quiescence

GAME_END empties the maps of the game; the threads it leaves go on. A step can
fill an empty game again in two ways only: a thread that has not yet run
`initializePlayers`, and a wave. Shots and moves need a player.
-/

open Cpp Std Transition

namespace BeeRType

namespace Game

/-! ## A game without objects -/

/-- The maps of the game are empty, as `stop` leaves them. -/
structure Cleared (g : Game) : Prop where
  players : g.players = ∅
  enemies : g.enemies = ∅
  bosses : g.bosses = ∅
  bullets : g.bullets = ∅

/-- From `g` to `g'` nothing has appeared and nothing has been announced. -/
structure StaysCleared (g g' : Game) : Prop where
  cleared : g'.Cleared
  broadcasts : ∃ messages, g'.broadcasts = g.broadcasts ++ messages ∧
    ∀ m ∈ messages, m.type.isCreate = false

variable {g g' : Game} {playerId : Int}

theorem stop_cleared : g.stop.Cleared := ⟨rfl, rfl, rfl, rfl⟩

theorem Cleared.stays (hg : g'.Cleared) (h : g'.broadcasts = g.broadcasts) : StaysCleared g g' :=
  ⟨hg, [], by simp [h], nofun⟩

/-- Without players there is nobody to shoot. -/
theorem Cleared.spawnBullet (hg : g.Cleared) : g.spawnBullet playerId = .ok g := by
  simp [Game.spawnBullet, hg.players]

theorem Cleared.applyPlayerActions {actions actions' : List PlayerAction} (hg : g.Cleared)
    (h : g.applyPlayerActions actions = .ok (g', actions')) : g' = g := by
  induction actions generalizing actions' with
  | nil =>
      cases h
      rfl
  | cons action rest ih =>
      obtain ⟨g₁, action', rest', hfirst, hrest, rfl⟩ := applyPlayerActions_cons.mp h
      have hsame : g₁ = g := by
        unfold applyPlayerAction at hfirst
        split at hfirst
        · rw [handlePlayerMove_of_not_mem (by simp [hg.players])] at hfirst
          cases hfirst
        · split at hfirst
          · rw [hg.spawnBullet] at hfirst
            cases hfirst
            rfl
          · cases hfirst
            rfl
      subst hsame
      exact ih hrest

theorem Cleared.processPlayerActions (hg : g.Cleared) (h : g.processPlayerActions = .ok g') :
    StaysCleared g g' := by
  obtain ⟨⟨g₁, actions⟩, hloop, h⟩ := Fallible.bind_eq_ok.mp h
  obtain rfl := Fallible.pure_eq_ok.mp h
  obtain rfl := hg.applyPlayerActions hloop
  exact Cleared.stays ⟨hg.players, hg.enemies, hg.bosses, hg.bullets⟩ rfl

theorem Cleared.updateBullets {now : Int} (hg : g.Cleared) : StaysCleared g (g.updateBullets now) := by
  unfold Game.updateBullets
  dsimp only
  split
  · exact Cleared.stays ⟨hg.players, hg.enemies, hg.bosses, by simp [hg.bullets]⟩ rfl
  · exact Cleared.stays ⟨hg.players, hg.enemies, hg.bosses, hg.bullets⟩ rfl

theorem Cleared.updateEnemies {now : Int} (hg : g.Cleared) : StaysCleared g (g.updateEnemies now) := by
  unfold Game.updateEnemies
  dsimp only
  split
  · exact Cleared.stays ⟨hg.players, by simp [hg.enemies], by simp [hg.bosses], hg.bullets⟩ rfl
  · exact Cleared.stays ⟨hg.players, hg.enemies, hg.bosses, hg.bullets⟩ rfl

/-- Detection changes no map of a game without objects, and removal finds nothing
to remove. -/
theorem Cleared.checkCollisions (hg : g.Cleared) : StaysCleared g g.checkCollisions := by
  have hdetected := detectAll_detected (g := g)
  have hplayers : g.detectAll.players = ∅ := by
    refine ExtTreeMap.eq_empty_iff_forall_not_mem.mpr fun i => ?_
    rw [hdetected.mem_players, hg.players]
    exact ExtTreeMap.not_mem_empty
  have hbullets := hdetected.bullets.trans hg.bullets
  have henemies := hdetected.enemies.trans hg.enemies
  have hbosses := hdetected.bosses.trans hg.bosses
  have hbroadcasts := hdetected.broadcasts
  unfold Game.checkCollisions
  generalize g.detectAll = d at *
  refine Cleared.stays ?_ ?_
  · constructor <;>
      simp [detectOutOfBounds, removeBullets, removeEnemies, removePlayers, removeBosses, hplayers,
        hbullets, henemies, hbosses, removeEntities_empty]
  · simp [detectOutOfBounds, removeBullets, removeEnemies, removePlayers, removeBosses, hplayers,
      hbullets, henemies, hbosses, removeEntities_empty, destroyed, hbroadcasts]

theorem Cleared.waveSystem {now : Int} {draws : Nat → Draw} (hg : g.Cleared)
    (hdue : g.waveDue now = false) (h : g.waveSystem now draws = .ok g') : StaysCleared g g' := by
  have hdue' : waveDue { g with lastWaveTime := some (g.lastWaveTime.getD now) } now = false := hdue
  simp only [Game.waveSystem, hdue'] at h
  cases h
  exact Cleared.stays ⟨hg.players, hg.enemies, hg.bosses, hg.bullets⟩ rfl

theorem Cleared.updateUI {now : Int} (hg : g.Cleared) : StaysCleared g (g.updateUI now) := by
  unfold Game.updateUI
  dsimp only
  split
  · exact Cleared.stays ⟨hg.players, hg.enemies, hg.bosses, hg.bullets⟩ (by simp [hg.players])
  · exact Cleared.stays ⟨hg.players, hg.enemies, hg.bosses, hg.bullets⟩ rfl

theorem Cleared.checkPlayersAlive (hg : g.Cleared) (numClients : Nat) :
    StaysCleared g (g.checkPlayersAlive numClients).2 := by
  unfold Game.checkPlayersAlive
  dsimp only
  split
  · exact ⟨stop_cleared, _, rfl, by simp [PacketType.isCreate]⟩
  · exact Cleared.stays ⟨hg.players, hg.enemies, hg.bosses, hg.bullets⟩ rfl

/-- A step of a thread leaves a game without objects as it is, unless the step
spawns players or a wave. -/
theorem Cleared.threadStep {t : Thread} {tick : Tick} {pc : ThreadPc} (hg : g.Cleared)
    (hinit : t.pc = .initializePlayers → t.numPlayers ≤ 0)
    (hwave : t.pc = .waveSystem → g.waveDue tick.now = false)
    (h : g.threadStep t tick = .ok (g', pc)) : StaysCleared g g' := by
  unfold Game.threadStep at h
  split at h <;> rename_i hpc
  · obtain ⟨g₁, h₁, h⟩ := Fallible.bind_eq_ok.mp h
    cases Fallible.pure_eq_ok.mp h
    have hnone : t.numPlayers.toNat = 0 := Int.toNat_eq_zero.mpr (hinit hpc)
    rw [initializePlayers, hnone] at h₁
    obtain rfl := Fallible.pure_eq_ok.mp h₁
    exact Cleared.stays ⟨hg.players, hg.enemies, hg.bosses, hg.bullets⟩ rfl
  · obtain ⟨g₁, h₁, h⟩ := Fallible.bind_eq_ok.mp h
    cases Fallible.pure_eq_ok.mp h
    exact hg.processPlayerActions h₁
  · cases h
    exact Cleared.stays ⟨hg.players, hg.enemies, hg.bosses, hg.bullets⟩ rfl
  · cases h
    exact hg.updateBullets
  · cases h
    exact hg.updateEnemies
  · cases h
    exact hg.checkCollisions
  · obtain ⟨g₁, h₁, h⟩ := Fallible.bind_eq_ok.mp h
    cases Fallible.pure_eq_ok.mp h
    exact hg.waveSystem (hwave hpc) h₁
  · cases h
    exact hg.updateUI
  · have halive := hg.checkPlayersAlive tick.numClients
    split at h <;> rename_i heq <;> cases h <;> rw [heq] at halive <;> exact halive
  · cases h
    exact hg.stays rfl

/-- Players that are spawned are there. -/
theorem not_cleared_of_initializePlayers {numPlayers : Int} (hpos : 0 < numPlayers)
    (h : g.initializePlayers numPlayers = .ok g') : ¬ g'.Cleared := by
  intro hg
  have hmem : (0 : Int) ∈ g'.players := ((initializePlayers_ok h).1 0).mpr (.inl ⟨le_rfl, hpos⟩)
  rw [hg.players] at hmem
  exact ExtTreeMap.not_mem_empty hmem

/-- A wave that fires spawns an enemy. -/
theorem not_cleared_of_waveSystem {now : Int} {draws : Nat → Draw} (hpos : 0 < g.enemiesPerWave)
    (hdue : g.waveDue now = true) (h : g.waveSystem now draws = .ok g') : ¬ g'.Cleared := by
  have hdue' : waveDue { g with lastWaveTime := some (g.lastWaveTime.getD now) } now = true := hdue
  simp only [Game.waveSystem, hdue'] at h
  obtain ⟨g₁, hwave, h⟩ := Fallible.bind_eq_ok.mp h
  obtain rfl := Fallible.pure_eq_ok.mp h
  exact fun hg => (nextWave_ok hwave).2 hpos hg.enemies

end Game

namespace World

/-! ## Runs -/

/-- While no game runs, the maps of the game are empty. -/
def Quiet (w : World) : Prop := w.server.gameRunning = false → w.game.Cleared

/-- While no game runs, the event announces no new object. -/
def NoCreate (w : World) (e : Event) : Prop :=
  w.server.gameRunning = false →
    ∀ m ∈ (w.step e).game.broadcasts.drop w.game.broadcasts.length, m.type.isCreate = false

/-- If the event is a step of a game thread while no game runs, it neither spawns
players nor meets a wave that is due. -/
def ProducersIdle (w : World) (e : Event) : Prop :=
  match e with
  | .thread i now _ => w.terminated = none → w.server.gameRunning = false →
      ∀ t, w.threads[i]? = some t →
        (t.pc = .initializePlayers → t.numPlayers ≤ 0) ∧
        (t.pc = .waveSystem → w.game.waveDue now = false)
  | _ => True

structure QuietInv (w : World) : Prop where
  quiet : Quiet w
  sound : w.game.Sound
  wavesPos : 0 < w.game.enemiesPerWave

variable {w w' : World} {e : Event} {es : List Event}

theorem quietInv_new : QuietInv new := ⟨fun _ => ⟨rfl, rfl, rfl, rfl⟩, rfl, by decide⟩

theorem QuietInv.of_game (hw : QuietInv w) (hgame : w'.game = w.game)
    (hrunning : w'.server.gameRunning = w.server.gameRunning) : QuietInv w' where
  quiet h := by rw [hgame]; exact hw.quiet (hrunning.symm.trans h)
  sound := by rw [hgame]; exact hw.sound
  wavesPos := by rw [hgame]; exact hw.wavesPos

theorem noCreate_of_broadcasts (messages : List Message)
    (h : w.server.gameRunning = false →
      (w.step e).game.broadcasts = w.game.broadcasts ++ messages ∧
        ∀ m ∈ messages, m.type.isCreate = false) : NoCreate w e := by
  intro hrunning
  rw [(h hrunning).1, List.drop_left]
  exact (h hrunning).2

/-- Handling a packet keeps an idle game empty. -/
theorem QuietInv.handlePacket (hw : QuietInv w) (packet : Packet) :
    QuietInv (w.handlePacket packet) ∧
      (w.server.gameRunning = false → (w.handlePacket packet).game = w.game) := by
  cases handlePacket_handled w packet with
  | ignored heq => rw [heq]; exact ⟨hw, fun _ => rfl⟩
  | connected _ heq =>
      rw [heq]
      exact ⟨hw.of_game rfl Server.reqConnectData_gameRunning, fun _ => rfl⟩
  | disconnected _ heq =>
      rw [heq]
      exact ⟨hw.of_game rfl Server.disconnectData_gameRunning, fun _ => rfl⟩
  | started _ _ heq => rw [heq]; exact ⟨⟨nofun, hw.sound, hw.wavesPos⟩, fun _ => rfl⟩
  | ended _ hrunning heq =>
      rw [heq]
      exact ⟨⟨fun _ => Game.stop_cleared, hw.sound, hw.wavesPos⟩,
        fun h => Bool.noConfusion (hrunning.symm.trans h)⟩
  | moved _ _ hrunning heq =>
      rw [heq]
      exact ⟨⟨fun h => Bool.noConfusion (hrunning.symm.trans h), hw.sound, hw.wavesPos⟩,
        fun h => Bool.noConfusion (hrunning.symm.trans h)⟩
  | shot playerId _ heq =>
      rw [heq]
      have hserver : (w.callGame (w.game.spawnBullet playerId)).server.gameRunning =
          w.server.gameRunning := callGame_frame (f := (·.gameRunning)) fun _ _ _ => rfl
      obtain ⟨g', hg'⟩ := Game.exists_spawnBullet hw.sound playerId
      have hacted := Game.spawnBullet_acted hg'
      have hsame : w.server.gameRunning = false → g' = w.game := fun h =>
        Except.ok.inj (hg'.symm.trans (hw.quiet h).spawnBullet)
      rw [hg'] at hserver ⊢
      refine ⟨⟨fun h => ?_, hacted.registry.trans hw.sound, ?_⟩, hsame⟩
      · have hidle := hserver.symm.trans h
        exact (hsame hidle).symm ▸ hw.quiet hidle
      · exact hacted.enemiesPerWave.symm ▸ hw.wavesPos
  | pinged heq => rw [heq]; exact ⟨hw.of_game rfl rfl, fun _ => rfl⟩

theorem QuietInv.step (hw : QuietInv w) (h : ProducersIdle w e) :
    QuietInv (w.step e) ∧ NoCreate w e := by
  cases step_stepped w e with
  | idle heq =>
      rw [heq]
      exact ⟨hw, noCreate_of_broadcasts [] fun _ => ⟨by simp [heq], nofun⟩⟩
  | received error source data heq =>
      refine ⟨?_, noCreate_of_broadcasts [] fun _ => ⟨by simp [heq], nofun⟩⟩
      rw [heq]
      exact hw.of_game rfl (by cases error <;> rfl)
  | handled packet rest _ _ _ heq =>
      obtain ⟨hinv, hgame⟩ := QuietInv.handlePacket (w := w.setPacketQueue rest)
        (hw.of_game rfl rfl) packet
      refine ⟨by rw [heq]; exact hinv, noCreate_of_broadcasts [] fun hrunning => ?_⟩
      exact ⟨by rw [heq, hgame hrunning]; exact (List.append_nil _).symm, nofun⟩
  | sent heq =>
      refine ⟨?_, noCreate_of_broadcasts [] fun _ => ⟨by simp [heq], nofun⟩⟩
      rw [heq]
      exact hw.of_game rfl (Server.handleSendTimer_frame (fun _ _ _ => rfl) fun _ _ => rfl)
  | ran i now draws t game pc he hrunning ht hstep heq =>
      subst he
      obtain ⟨hregistry, hwaves⟩ := Game.threadStep_frame hstep
      have hserver : (w.setGame game).server.gameRunning = w.server.gameRunning :=
        setGame_frame (f := (·.gameRunning)) fun _ _ _ => rfl
      have hstays : w.server.gameRunning = false → Game.StaysCleared w.game game := fun hidle =>
        (hw.quiet hidle).threadStep (h hrunning hidle t ht).1 (h hrunning hidle t ht).2 hstep
      refine ⟨?_, ?_⟩
      · rw [heq]
        exact ⟨fun hidle => (hstays (hserver.symm.trans hidle)).cleared,
          hregistry.trans hw.sound, hw.wavesPos.trans_le hwaves⟩
      · intro hidle
        obtain ⟨messages, hbroadcasts, hmessages⟩ := (hstays hidle).broadcasts
        refine noCreate_of_broadcasts messages (fun _ => ⟨?_, hmessages⟩) hidle
        rw [heq]
        exact hbroadcasts
  | crashed _ _ _ _ _ _ _ _ _ heq =>
      refine ⟨by rw [heq]; exact hw.of_game rfl rfl, ?_⟩
      exact noCreate_of_broadcasts [] fun _ => ⟨by simp [heq], nofun⟩

/-- A producer that steps while no game runs fills the maps. -/
theorem not_quiet_of_producer (hw : QuietInv w) (h : ¬ ProducersIdle w e) : ¬ Quiet (w.step e) := by
  cases e with
  | receive error source data => exact absurd trivial h
  | process => exact absurd trivial h
  | sendTimer => exact absurd trivial h
  | thread i now draws =>
      simp only [ProducersIdle, not_forall] at h
      obtain ⟨hrunning, hidle, t, ht, h⟩ := h
      have hfills : ∃ game pc, w.game.threadStep t ⟨now, draws, w.server.clients.size⟩ =
          .ok (game, pc) ∧ ¬ game.Cleared := by
        rcases not_and_or.mp h with h | h
        · obtain ⟨hpc, hpos⟩ := not_forall.mp h
          obtain ⟨g', hg'⟩ := Game.exists_initializePlayers hw.sound t.numPlayers
          refine ⟨g', .processPlayerActions, ?_,
            Game.not_cleared_of_initializePlayers (Int.not_le.mp hpos) hg'⟩
          simp only [Game.threadStep, hpc, hg']
          rfl
        · obtain ⟨hpc, hdue⟩ := not_forall.mp h
          obtain ⟨g', hg'⟩ := Game.exists_waveSystem hw.sound now draws
          refine ⟨g', .updateUI, ?_,
            Game.not_cleared_of_waveSystem hw.wavesPos (by simpa using hdue) hg'⟩
          simp only [Game.threadStep, hpc, hg']
          rfl
      obtain ⟨game, pc, hstep, hfilled⟩ := hfills
      rw [step_thread hrunning ht hstep]
      have hserver : (w.setGame game).server.gameRunning = w.server.gameRunning :=
        setGame_frame (f := (·.gameRunning)) fun _ _ _ => rfl
      exact fun hquiet => hfilled (hquiet (hserver.trans hidle))

/-- While no game runs, the maps are empty and nothing is announced, throughout a
run, exactly if in the meantime no game thread initializes players and no wave
comes due on one. -/
theorem quiescence_iff :
    (Always step Quiet new es ∧ EachStep step NoCreate new es) ↔
      EachStep step ProducersIdle new es := by
  constructor
  · rintro ⟨h, -⟩
    exact (always_iff_eachStep quietInv_new (fun _ hw => hw.quiet) (fun _ _ hw h => (hw.step h).1)
      fun _ _ hw h => not_quiet_of_producer hw h).mp h
  · intro h
    have hinv : Always step QuietInv new es :=
      always_of_eachStep quietInv_new (fun _ _ hw h => (hw.step h).1) h
    have hsteps : EachStep step (fun w _ => QuietInv w) new es := hinv.eachStep fun _ _ hw => hw
    exact ⟨hinv.mono fun _ hw => hw.quiet, (hsteps.and h).mono fun _ _ hw => (hw.1.step hw.2).2⟩

/-- GAME_END is handled before the thread of the game has initialized its player. -/
def lateThread : List Event :=
  [.receive .success ⟨1, 4000⟩ [1], .process, .receive .success ⟨1, 4000⟩ [3], .process,
    .receive .success ⟨1, 4000⟩ [15], .process,
    .thread 0 0 fun _ => ⟨0, 0, Draw.zero_mem_x, Draw.zero_mem_y⟩]

theorem quiescence_lateThread :
    ¬ (Always step Quiet new lateThread ∧ EachStep step NoCreate new lateThread) := by
  rintro ⟨h, -⟩
  have hempty := congrArg (·.isEmpty) (h.final (by decide +kernel)).players
  exact absurd hempty (by decide +kernel)

end World

end BeeRType
