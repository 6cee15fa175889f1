-- SUMMARY: How many enemies and bosses a run has announced, as a function of how often the wave timer has fired.
import BeeRType.Game.Timers
import BeeRType.Game.Waves
import Mathlib.Tactic.Linarith

/-!
# Spawn totals

Enemies and bosses come in waves only. A boss wave brings one boss and four enemies, the
rows between them five enemies more each time, and the two kinds alternate.
-/

open Cpp Std Transition

namespace BeeRType

/-! ## The sums over a schedule -/

/-- The enemies in so many rows, of which the first has five and each later one five more
than the one before. -/
def rowEnemies (rows : Nat) : Nat := 5 * (rows * (rows + 1) / 2)

theorem rowEnemies_succ (rows : Nat) : rowEnemies (rows + 1) = rowEnemies rows + (5 + 5 * rows) := by
  have h : (rows + 1) * (rows + 1 + 1) = rows * (rows + 1) + 2 * (rows + 1) := by ring
  rw [rowEnemies, rowEnemies, h, Nat.add_mul_div_left _ _ (by decide)]
  omega

namespace Schedule

variable {number : Nat → Int} {period : Nat} {currentWave : Int} {waves : List Wave} {w : Wave}

/-- The last wave comes after the schedule of the earlier ones. -/
theorem concat (h : Schedule number period currentWave (waves ++ [w])) :
    Schedule number period (number waves.length) waves ∧
      (w.IsBossWave ↔ period ∣ waves.length + 1) ∧
      (¬ w.IsBossWave → w.bosses = 0 ∧ (w.enemies : Int) = 5 + 5 * (enemyWaves waves : Int)) := by
  have hold {k : Nat} {v : Wave} (hv : waves[k]? = some v) :
      (waves ++ [w])[k]? = some v ∧ k < waves.length := by
    obtain ⟨hk, -⟩ := List.getElem?_eq_some_iff.mp hv
    exact ⟨by rw [List.getElem?_append_left hk, hv], hk⟩
  have hlast : (waves ++ [w])[waves.length]? = some w := by simp
  refine ⟨⟨rfl, fun k v hv => h.boss k v (hold hv).1, fun k v hv hplain => ?_⟩,
    h.boss _ w hlast, fun hplain => ?_⟩
  · have hothers := h.others k v (hold hv).1 hplain
    rwa [List.take_append_of_le_length (hold hv).2.le] at hothers
  · obtain ⟨hbosses, henemies, hsize⟩ := h.others _ w hlast hplain
    rw [List.take_left] at hsize
    exact ⟨hbosses, henemies.trans hsize⟩

/-- What the waves add up to if every second one is a boss wave. -/
theorem sums (h : Schedule number 2 currentWave waves) :
    enemyWaves waves = (waves.length + 1) / 2 ∧
      (waves.map Wave.bosses).sum = waves.length / 2 ∧
      (waves.map Wave.enemies).sum =
        4 * (waves.length / 2) + rowEnemies ((waves.length + 1) / 2) := by
  induction waves using List.reverseRecOn generalizing currentWave with
  | nil => exact ⟨rfl, rfl, rfl⟩
  | append_singleton waves w ih =>
      obtain ⟨hearlier, hboss, hrow⟩ := h.concat
      obtain ⟨hrows, hbosses, henemies⟩ := ih hearlier
      simp only [enemyWaves_append, hrows, List.map_append, List.sum_append, hbosses, henemies,
        List.map_singleton, List.sum_singleton, List.length_append, List.length_singleton]
      -- An odd number of waves ends with a row, an even one with a boss wave.
      by_cases hw : w.IsBossWave
      · obtain ⟨n, hn⟩ := hboss.mp hw
        have hhalf : waves.length / 2 + 1 = (waves.length + 1) / 2 := by omega
        have hhalf' : (waves.length + 1 + 1) / 2 = (waves.length + 1) / 2 := by omega
        rw [if_pos hw, hw.1, hw.2, hhalf', ← hhalf]
        refine ⟨by omega, rfl, by omega⟩
      · have heven : ¬ 2 ∣ waves.length + 1 := fun h => hw (hboss.mpr h)
        obtain ⟨hzero, hsize⟩ := hrow hw
        have henemies : w.enemies = 5 + 5 * ((waves.length + 1) / 2) := by
          rw [hrows] at hsize
          exact_mod_cast hsize
        have hhalf : (waves.length + 1) / 2 = waves.length / 2 := by omega
        have hhalf' : (waves.length + 1 + 1) / 2 = (waves.length + 1) / 2 + 1 := by omega
        rw [if_neg hw, hzero, henemies, hhalf', rowEnemies_succ]
        refine ⟨rfl, by omega, by omega⟩

end Schedule

/-! ## Calls between the waves -/

namespace Game

/-- Neither an enemy nor a boss has been announced. -/
def NoneSpawned (g g' : Game) : Prop := ∃ messages, g'.broadcasts = g.broadcasts ++ messages ∧
  ∀ m ∈ messages, m.type ≠ .createEnemy ∧ m.type ≠ .createBoss

variable {g m g' : Game} {call : Call}

theorem NoneSpawned.of_eq (h : g'.broadcasts = g.broadcasts) : NoneSpawned g g' :=
  ⟨[], by rw [h, List.append_nil], nofun⟩

theorem NoneSpawned.of_type {messages : List Message} (type : PacketType)
    (h : g'.broadcasts = g.broadcasts ++ messages) (htype : ∀ m ∈ messages, m.type = type)
    (hne : type ≠ .createEnemy ∧ type ≠ .createBoss) : NoneSpawned g g' :=
  ⟨messages, h, fun m hm => by rwa [htype m hm]⟩

theorem NoneSpawned.trans (h : NoneSpawned g m) (h' : NoneSpawned m g') : NoneSpawned g g' := by
  obtain ⟨messages, hmessages, htypes⟩ := h
  obtain ⟨messages', hmessages', htypes'⟩ := h'
  refine ⟨messages ++ messages', by rw [hmessages', hmessages, List.append_assoc], fun m hm => ?_⟩
  exact (List.mem_append.mp hm).elim (htypes m) (htypes' m)

theorem NoneSpawned.countP_eq (h : NoneSpawned g g') {c : ObjectClass} (hc : c = .enemy ∨ c = .boss) :
    g'.broadcasts.countP (fun m => m.type = c.createType) =
      g.broadcasts.countP fun m => m.type = c.createType := by
  obtain ⟨messages, hmessages, htypes⟩ := h
  have hnone : messages.countP (fun m => m.type = c.createType) = 0 := by
    refine List.countP_eq_zero.mpr fun m hm => ?_
    rw [decide_eq_true_iff]
    obtain rfl | rfl := hc
    · exact (htypes m hm).1
    · exact (htypes m hm).2
  rw [hmessages, List.countP_append, hnone, Nat.add_zero]

theorem noneSpawned_actions : ActionRule NoneSpawned where
  refl := fun _ => .of_eq rfl
  trans := .trans
  handlePlayerMove := by
    intro g playerId actionId g' h
    obtain ⟨player, positions, messages, -, hchange, rfl⟩ := handlePlayerMove_new h
    exact .of_type .change rfl hchange (by decide)
  spawnBullet := by
    intro g playerId g' h
    obtain rfl | ⟨player, bullet, -, -, rfl⟩ := spawnBullet_new h
    · exact .of_eq rfl
    · exact .of_type .createBullet rfl
        (fun m hm => congrArg Message.type (List.mem_singleton.mp hm)) (by decide)

theorem processPlayerActions_noneSpawned (h : g.processPlayerActions = .ok g') :
    NoneSpawned g g' := by
  obtain ⟨⟨g₁, actions⟩, hloop, h⟩ := Fallible.bind_eq_ok.mp h
  obtain rfl := Fallible.pure_eq_ok.mp h
  exact (noneSpawned_actions.applyPlayerActions hloop).trans (.of_eq rfl)

theorem checkCollisions_noneSpawned : NoneSpawned g g.checkCollisions := by
  have hdetected : g.detectAll.detectOutOfBounds.broadcasts = g.broadcasts :=
    detectAll_detected.broadcasts
  rw [checkCollisions_eq]
  refine ⟨_, by rw [broadcasts_removeAll, hdetected], fun m hm => ?_⟩
  obtain ⟨c, i, -, rfl⟩ := mem_removalMessages.mp hm
  cases c <;> exact ⟨nofun, nofun⟩

theorem initializePlayers_noneSpawned {numPlayers : Int}
    (h : g.initializePlayers numPlayers = .ok g') : NoneSpawned g g' := by
  refine initializePlayers_rule (P := fun _ b => NoneSpawned g b) h (.of_eq rfl)
    fun _ _ b b' hb hspawn => hb.trans ?_
  obtain ⟨players, hp, score, -, rfl⟩ := spawnPlayer_ok hspawn
  refine ⟨_, rfl, fun m hm => ?_⟩
  obtain rfl | hm := List.mem_cons.mp hm
  · exact ⟨nofun, nofun⟩
  · obtain rfl := List.mem_singleton.mp hm
    exact ⟨nofun, nofun⟩

theorem updateUI_noneSpawned (now : Int) : NoneSpawned g (g.updateUI now) := by
  unfold updateUI
  dsimp only
  split
  · refine .of_type .uiUpdate rfl (fun m hm => ?_) (by decide)
    obtain ⟨p, -, rfl⟩ := List.mem_map.mp hm
    rfl
  · exact .of_eq rfl

theorem checkPlayersAlive_noneSpawned (numClients : Nat) :
    NoneSpawned g (g.checkPlayersAlive numClients).2 := by
  rcases checkPlayersAlive_cases g numClients with heq | heq <;> rw [heq]
  · exact .of_eq rfl
  · exact .of_type .gameEnd rfl (fun m hm => congrArg Message.type (List.mem_singleton.mp hm))
      (by decide)

/-- Enemies and bosses are announced by waves only. -/
theorem perform_noneSpawned (hcall : call.OfServer)
    (hwave : ∀ now draws, call = .waveSystem now draws → g.waveDue now = false)
    (h : g.perform call = .ok g') : NoneSpawned g g' := by
  obtain hingame | ⟨numPlayers, rfl⟩ | ⟨numClients, rfl⟩ | rfl := hcall
  · cases call with
    | addPlayerAction playerId actionId => cases h; exact .of_eq rfl
    | processPlayerActions => exact processPlayerActions_noneSpawned h
    | deletePlayerAction => cases h; exact .of_eq rfl
    | spawnBullet playerId => exact noneSpawned_actions.spawnBullet h
    | updateBullets now => cases h; rw [updateBullets_frame]; exact .of_eq rfl
    | updateEnemies now => cases h; rw [updateEnemies_frame]; exact .of_eq rfl
    | checkCollisions => cases h; exact checkCollisions_noneSpawned
    | waveSystem now draws =>
        have hnot : waveDue { g with lastWaveTime := some (g.lastWaveTime.getD now) } now = false :=
          hwave now draws rfl
        simp only [perform, waveSystem, hnot] at h
        cases h
        exact .of_eq rfl
    | updateUI now => cases h; exact updateUI_noneSpawned now
    | _ => exact hingame.elim
  · exact initializePlayers_noneSpawned h
  · cases h
    exact checkPlayersAlive_noneSpawned numClients
  · cases h
    exact .of_eq rfl

end Game

namespace History

variable {s : History} {call : Call} {calls : List Call}

/-- How many enemies or bosses have been announced. -/
def created (c : ObjectClass) (s : History) : Nat :=
  s.game.broadcasts.countP fun m => m.type = c.createType

theorem noneSpawned_of_not_fires (hcall : call.OfServer) (h : s.fires call = false) :
    Game.NoneSpawned s.game (s.step call).game := by
  obtain ⟨heq, -⟩ | ⟨game, hthrown, hok, heq⟩ | ⟨e, -, -, heq⟩ := s.step_cases call
  · rw [heq]
    exact .of_eq rfl
  · rw [heq]
    refine Game.perform_noneSpawned hcall ?_ hok
    rintro now draws rfl
    have hreturns : (s.step (.waveSystem now draws)).thrown.isNone = true := by rw [heq, hthrown]; rfl
    simpa [fires, hreturns] using h
  · rw [heq]
    exact .of_eq rfl

/-- A firing announces what its wave consists of. -/
theorem created_of_fires (h : s.fires call = true) :
    (s.step call).created .boss = s.created .boss + Game.spawned .boss s.game (s.step call).game ∧
      (s.step call).created .enemy =
        s.created .enemy + Game.spawned .enemy s.game (s.step call).game := by
  obtain ⟨now, draws, g, rfl, hwave, hgame⟩ := exists_nextWave_of_fires h
  have hle : s.created .boss ≤ (s.step (.waveSystem now draws)).created .boss ∧
      s.created .enemy ≤ (s.step (.waveSystem now draws)).created .enemy := by
    rw [created, created, created, created, hgame]
    obtain ⟨-, hspawned⟩ | ⟨-, hspawned⟩ := Game.nextWave_cases hwave <;>
      exact ⟨Nat.le.intro hspawned.bosses.symm, Nat.le.intro hspawned.enemies.symm⟩
  exact ⟨(Nat.add_sub_of_le hle.1).symm, (Nat.add_sub_of_le hle.2).symm⟩

theorem created_step (hcall : call.OfServer) :
    (s.step call).created .boss = s.created .boss + ((s.wave call).map Wave.bosses).sum ∧
      (s.step call).created .enemy = s.created .enemy + ((s.wave call).map Wave.enemies).sum := by
  cases hfires : s.fires call with
  | false =>
      have hnone := noneSpawned_of_not_fires hcall hfires
      rw [wave, hfires]
      exact ⟨hnone.countP_eq (.inr rfl), hnone.countP_eq (.inl rfl)⟩
  | true =>
      rw [wave, hfires]
      exact created_of_fires hfires

theorem created_run (hcalls : ∀ call ∈ calls, call.OfServer) :
    (run step s calls).created .boss = s.created .boss + ((s.waves calls).map Wave.bosses).sum ∧
      (run step s calls).created .enemy =
        s.created .enemy + ((s.waves calls).map Wave.enemies).sum := by
  induction calls generalizing s with
  | nil => exact ⟨rfl, rfl⟩
  | cons call calls ih =>
      obtain ⟨hcall, hcalls⟩ := List.forall_mem_cons.mp hcalls
      obtain ⟨hbosses, henemies⟩ := created_step (s := s) hcall
      obtain ⟨hbosses', henemies'⟩ := ih hcalls (s := s.step call)
      rw [run_cons, hbosses', henemies', hbosses, henemies, waves, List.map_append, List.sum_append,
        List.map_append, List.sum_append, Nat.add_assoc, Nat.add_assoc]
      exact ⟨rfl, rfl⟩

theorem thrown_waveSystem (hs : s.game.Reachable) {now : Int} {draws : Nat → Draw} :
    (s.step (.waveSystem now draws)).thrown = s.thrown := by
  obtain ⟨heq, -⟩ | ⟨game, -, -, heq⟩ | ⟨e, -, hok, -⟩ := s.step_cases (.waveSystem now draws)
  · rw [heq]
  · rw [heq]
  · obtain ⟨game, hgame⟩ := Game.exists_waveSystem hs.sound now draws
    rw [Game.perform, hgame] at hok
    cases hok

theorem fires_eq_fired (hs : s.game.Reachable) : s.fires call = s.fired .waves call := by
  cases call with
  | waveSystem now draws =>
      rw [fires, fired, thrown_waveSystem hs, Game.waveDue_eq]
      exact Bool.and_comm _ _
  | _ => rfl

/-- Each firing of the wave timer is a wave. -/
theorem length_waves (hs : s.game.Reachable) (hcalls : ∀ call ∈ calls, call.OfServer) :
    (s.waves calls).length = s.timerFirings .waves calls := by
  induction calls generalizing s with
  | nil => rfl
  | cons call calls ih =>
      obtain ⟨hcall, hcalls⟩ := List.forall_mem_cons.mp hcalls
      rw [waves, List.length_append, ih (step_reachable hs hcall) hcalls, timerFirings]
      congr 1
      rw [wave, fires_eq_fired hs]
      cases s.fired .waves call <;> rfl

/-- After so many firings of the wave timer, every second one has announced a boss, and the
enemies announced are four for each boss and those of the rows. -/
theorem created_of_firings (hcalls : ∀ call ∈ calls, call.OfServer) :
    let firings := new.timerFirings .waves calls
    (run step new calls).created .boss = firings / 2 ∧
      (run step new calls).created .enemy = 4 * (firings / 2) + rowEnemies ((firings + 1) / 2) := by
  obtain ⟨hbosses, henemies⟩ := created_run (s := new) hcalls
  have hlength : (new.waves calls).length = _ := length_waves .new hcalls
  obtain ⟨-, hbosses', henemies'⟩ := (wave_schedule calls).sums
  rw [hbosses, henemies, hbosses', henemies', hlength]
  exact ⟨Nat.zero_add _, Nat.zero_add _⟩

/-- A row of enemies and a boss wave. -/
def rowAndBoss : List Call :=
  [.waveSystem 0 fun _ => .origin, .waveSystem 10000000000 fun _ => .origin,
    .waveSystem 20000000000 fun _ => .origin]

theorem created_of_firings_rowAndBoss :
    (run step new rowAndBoss).created .boss = new.timerFirings .waves rowAndBoss / 2 ∧
      (run step new rowAndBoss).created .enemy = 4 * (new.timerFirings .waves rowAndBoss / 2) +
        rowEnemies ((new.timerFirings .waves rowAndBoss + 1) / 2) := by
  refine created_of_firings fun call hcall => ?_
  obtain rfl | hcall := List.mem_cons.mp hcall
  · exact .inl trivial
  obtain rfl | hcall := List.mem_cons.mp hcall
  · exact .inl trivial
  obtain rfl := List.mem_singleton.mp hcall
  exact .inl trivial

end History

end BeeRType
