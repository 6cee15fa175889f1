-- SUMMARY: The schedule of the waves: which firings of the wave timer spawn a boss, and how the wave number runs.
import BeeRType.Game.Reachable

/-!
# Waves

The wave timer is followed over a history by the list of the waves it has spawned.
`currentWave` is advanced by `waveSystem` and again by `startNextWave`, so that two
firings advance it by three and every second one spawns a boss.
-/

open Cpp Std Transition

namespace BeeRType

/-- What a firing of the wave timer has spawned, with `enemiesPerWave` before it. -/
structure Wave where
  bosses : Nat
  enemies : Nat
  enemiesPerWave : Int
  deriving DecidableEq, Repr

/-- One boss and four enemies. -/
def Wave.IsBossWave (w : Wave) : Prop := w.bosses = 1 ∧ w.enemies = 4

instance (w : Wave) : Decidable w.IsBossWave := inferInstanceAs (Decidable (_ ∧ _))

/-- How many of the waves are not boss waves. -/
def enemyWaves (waves : List Wave) : Nat := waves.countP fun w => ¬ w.IsBossWave

theorem enemyWaves_append {waves : List Wave} {w : Wave} :
    enemyWaves (waves ++ [w]) = enemyWaves waves + if w.IsBossWave then 0 else 1 := by
  rw [enemyWaves, List.countP_append, List.countP_singleton]
  by_cases h : w.IsBossWave <;> simp [h, enemyWaves]

/-- A schedule with a boss in every wave whose number is a multiple of the period. The
other waves consist of five enemies more each time. -/
structure Schedule (number : Nat → Int) (period : Nat) (currentWave : Int) (waves : List Wave) :
    Prop where
  currentWave : currentWave = number waves.length
  boss : ∀ (k : Nat) (w : Wave), waves[k]? = some w → (w.IsBossWave ↔ period ∣ k + 1)
  others : ∀ (k : Nat) (w : Wave), waves[k]? = some w → ¬ w.IsBossWave →
    w.bosses = 0 ∧ (w.enemies : Int) = w.enemiesPerWave ∧
      w.enemiesPerWave = 5 + 5 * (enemyWaves (waves.take k) : Int)

namespace Schedule

variable {number : Nat → Int} {period : Nat} {currentWave currentWave' : Int} {log : List Wave}
  {w : Wave}

/-- A schedule goes on with a wave that fits its place. -/
theorem append (h : Schedule number period currentWave log)
    (hnumber : currentWave' = number (log.length + 1))
    (hboss : w.IsBossWave ↔ period ∣ log.length + 1)
    (hothers : ¬ w.IsBossWave → w.bosses = 0 ∧ (w.enemies : Int) = w.enemiesPerWave ∧
      w.enemiesPerWave = 5 + 5 * (enemyWaves log : Int)) :
    Schedule number period currentWave' (log ++ [w]) := by
  have hcases : ∀ {k : Nat} {v : Wave}, (log ++ [w])[k]? = some v →
      (log[k]? = some v ∧ k ≤ log.length) ∨ (k = log.length ∧ v = w) := by
    intro k v hv
    rcases Nat.lt_or_ge k log.length with hk | hk
    · rw [List.getElem?_append_left hk] at hv
      exact .inl ⟨hv, hk.le⟩
    · rw [List.getElem?_append_right hk, List.getElem?_singleton] at hv
      split at hv
      · cases hv
        exact .inr ⟨by omega, rfl⟩
      · cases hv
  refine ⟨?_, fun k v hv => ?_, fun k v hv hplain => ?_⟩
  · rw [List.length_append, List.length_singleton, hnumber]
  · obtain ⟨hv, -⟩ | ⟨rfl, rfl⟩ := hcases hv
    · exact h.boss k v hv
    · exact hboss
  · obtain ⟨hv, hk⟩ | ⟨rfl, rfl⟩ := hcases hv
    · rw [List.take_append_of_le_length hk]
      exact h.others k v hv hplain
    · rw [List.take_left]
      exact hothers hplain

end Schedule

namespace Game

/-- How many objects of a class have been created from `g` to `g'`. -/
def spawned (c : ObjectClass) (g g' : Game) : Nat :=
  g'.broadcasts.countP (fun m => m.type = c.createType) -
    g.broadcasts.countP (fun m => m.type = c.createType)

end Game

namespace History

/-- A call of `waveSystem` that fires the timer and returns. -/
def fires (s : History) : Call → Bool
  | .waveSystem now draws =>
    s.game.waveDue now && (s.step (.waveSystem now draws)).thrown.isNone
  | _ => false

/-- The wave of a call, if it fires the timer. -/
def wave (s : History) (c : Call) : List Wave :=
  if s.fires c then
    [⟨s.game.spawned .boss (s.step c).game, s.game.spawned .enemy (s.step c).game,
      s.game.enemiesPerWave⟩]
  else []

/-- The waves of a history, in order. -/
def waves (s : History) : List Call → List Wave
  | [] => []
  | c :: cs => s.wave c ++ (s.step c).waves cs

end History

namespace Game

variable {g g' : Game}

/-! ## One firing -/

/-- This many bosses and enemies have been created, and the waves go on as before. -/
structure Spawned (bosses enemies : Nat) (g g' : Game) : Prop where
  bosses : g'.broadcasts.countP (fun m => m.type = .createBoss) =
    g.broadcasts.countP (fun m => m.type = .createBoss) + bosses
  enemies : g'.broadcasts.countP (fun m => m.type = .createEnemy) =
    g.broadcasts.countP (fun m => m.type = .createEnemy) + enemies
  currentWave : g'.currentWave = g.currentWave
  enemiesPerWave : g'.enemiesPerWave = g.enemiesPerWave

namespace Spawned

variable {m : Game} {b b' e e' : Nat}

theorem refl : Spawned 0 0 g g := ⟨rfl, rfl, rfl, rfl⟩

theorem trans (h : Spawned b e g m) (h' : Spawned b' e' m g') :
    Spawned (b + b') (e + e') g g' where
  bosses := by rw [h'.bosses, h.bosses, Nat.add_assoc]
  enemies := by rw [h'.enemies, h.enemies, Nat.add_assoc]
  currentWave := h'.currentWave.trans h.currentWave
  enemiesPerWave := h'.enemiesPerWave.trans h.enemiesPerWave

theorem spawned_boss (h : Spawned b e g g') : spawned .boss g g' = b :=
  (congrArg (· - _) h.bosses).trans (Nat.add_sub_cancel_left _ _)

theorem spawned_enemy (h : Spawned b e g g') : spawned .enemy g g' = e :=
  (congrArg (· - _) h.enemies).trans (Nat.add_sub_cancel_left _ _)

end Spawned

theorem spawnNextEnemy_spawned {draw : Draw} (h : g.spawnNextEnemy draw = .ok g') :
    Spawned 0 1 g g' := by
  obtain ⟨enemy, payload, rfl⟩ := spawnEnemy_ok h
  exact ⟨by simp, by simp, rfl, rfl⟩

theorem spawnNextBoss_spawned {draw : Draw} (h : g.spawnNextBoss draw = .ok g') :
    Spawned 1 0 g g' := by
  obtain ⟨boss, payload, rfl⟩ := spawnBoss_ok h
  exact ⟨by simp, by simp, rfl, rfl⟩

theorem spawnEnemies_spawned (draws : Nat → Draw) {ids : List Nat}
    (h : ids.foldlM (fun g i => g.spawnNextEnemy (draws i)) g = .ok g') :
    Spawned 0 ids.length g g' := by
  refine Fallible.foldlM_ok (P := fun pre b => Spawned 0 pre.length g b) .refl
    (fun pre i b b' hb hspawn => ?_) h
  rw [List.length_append]
  exact hb.trans (spawnNextEnemy_spawned hspawn)

/-- What a firing comes to: a boss wave, or a row of enemies that advances the number
of the wave once more. -/
theorem nextWave_cases {draws : Nat → Draw} (h : g.nextWave draws = .ok g') :
    ((g.currentWave + 1).tmod 3 = 0 ∧
      Spawned 1 4 { g with currentWave := g.currentWave + 1 } g') ∨
    ((g.currentWave + 1).tmod 3 ≠ 0 ∧ Spawned 0 g.enemiesPerWave.toNat { g with
      currentWave := g.currentWave + 2
      enemiesPerWave := g.enemiesPerWave + 5 } g') := by
  unfold nextWave at h
  dsimp only at h
  split at h
  · rename_i hboss
    obtain ⟨g₁, hspawn, hrow⟩ := Fallible.bind_eq_ok.mp h
    exact .inl ⟨hboss, (spawnNextBoss_spawned hspawn).trans
      (spawnEnemies_spawned (fun i => draws (i + 1)) hrow)⟩
  · rename_i hboss
    obtain ⟨g₁, hrow, h⟩ := Fallible.bind_eq_ok.mp h
    obtain rfl := Fallible.pure_eq_ok.mp h
    have hspawned := spawnEnemies_spawned draws hrow
    rw [List.length_range] at hspawned
    refine .inr ⟨hboss, hspawned.bosses, hspawned.enemies, ?_, ?_⟩
    · exact hspawned.currentWave.trans (add_assoc _ _ _)
    · exact congrArg (· + 5) hspawned.enemiesPerWave

/-! ## Other calls -/

/-- The number of the wave and the size of the next one are as before. -/
structure SameWave (g g' : Game) : Prop where
  currentWave : g'.currentWave = g.currentWave
  enemiesPerWave : g'.enemiesPerWave = g.enemiesPerWave

theorem sameWave_rule : ActionRule SameWave where
  refl := fun _ => ⟨rfl, rfl⟩
  trans := fun h h' =>
    ⟨h'.currentWave.trans h.currentWave, h'.enemiesPerWave.trans h.enemiesPerWave⟩
  handlePlayerMove := by
    intro g playerId actionId g' h
    obtain ⟨player, positions, messages, -, -, rfl⟩ := handlePlayerMove_new h
    exact ⟨rfl, rfl⟩
  spawnBullet := by
    intro g playerId g' h
    obtain rfl | ⟨player, bullet, -, -, rfl⟩ := spawnBullet_new h <;> exact ⟨rfl, rfl⟩

theorem processPlayerActions_sameWave (h : g.processPlayerActions = .ok g') : SameWave g g' := by
  obtain ⟨⟨g₁, actions⟩, hloop, h⟩ := Fallible.bind_eq_ok.mp h
  obtain rfl := Fallible.pure_eq_ok.mp h
  have hsame := sameWave_rule.applyPlayerActions hloop
  exact ⟨hsame.currentWave, hsame.enemiesPerWave⟩

theorem checkCollisions_sameWave : SameWave g g.checkCollisions := by
  have hdetected : SameWave g g.detectAll := by
    rw [detectAll_detected.frame]
    exact ⟨rfl, rfl⟩
  rw [checkCollisions_eq, removeAll_eq]
  exact ⟨hdetected.currentWave, hdetected.enemiesPerWave⟩

theorem perform_sameWave {c : Call}
    (hc : ∀ now draws, c = .waveSystem now draws → g.waveDue now = false)
    (h : g.perform c = .ok g') : SameWave g g' := by
  cases c with
  | addPlayerAction playerId actionId => cases h; exact ⟨rfl, rfl⟩
  | processPlayerActions => exact processPlayerActions_sameWave h
  | deletePlayerAction => cases h; exact ⟨rfl, rfl⟩
  | handlePlayerMove playerId actionId => exact sameWave_rule.handlePlayerMove h
  | spawnPlayer playerId x y =>
      obtain ⟨players, hp, score, -, rfl⟩ := spawnPlayer_ok h
      exact ⟨rfl, rfl⟩
  | spawnBullet playerId => exact sameWave_rule.spawnBullet h
  | spawnEnemy enemyId x y =>
      obtain ⟨enemy, payload, rfl⟩ := spawnEnemy_ok (x := x) h
      exact ⟨rfl, rfl⟩
  | spawnBoss bossId x y =>
      obtain ⟨boss, payload, rfl⟩ := spawnBoss_ok (x := x) h
      exact ⟨rfl, rfl⟩
  | killPlayers entityId | killBullets entityId | killEnemies entityId | killBosses entityId
  | killEntity entityId =>
      rw [kill_frame h trivial]
      exact ⟨rfl, rfl⟩
  | initializePlayers numPlayers =>
      rw [initializePlayers_frame h]
      exact ⟨rfl, rfl⟩
  | updateBullets now =>
      cases h
      rw [updateBullets_frame]
      exact ⟨rfl, rfl⟩
  | updateEnemies now =>
      cases h
      rw [updateEnemies_frame]
      exact ⟨rfl, rfl⟩
  | checkCollisions => cases h; exact checkCollisions_sameWave
  | waveSystem now draws =>
      have hnot : Game.waveDue { g with lastWaveTime := some (g.lastWaveTime.getD now) } now = false :=
        hc now draws rfl
      simp only [Game.perform, Game.waveSystem, hnot] at h
      cases h
      exact ⟨rfl, rfl⟩
  | updateUI now =>
      cases h
      unfold Game.updateUI
      dsimp only
      split <;> exact ⟨rfl, rfl⟩
  | checkPlayersAlive numClients =>
      cases h
      rcases checkPlayersAlive_cases g numClients with heq | heq <;> rw [heq] <;> exact ⟨rfl, rfl⟩
  | stop => cases h; exact ⟨rfl, rfl⟩

end Game

namespace History

open Game

variable {s : History} {c : Call}

/-- A call that fires the timer is the body of the `if` in `waveSystem`. -/
theorem exists_nextWave_of_fires (h : s.fires c = true) : ∃ now draws g,
    c = .waveSystem now draws ∧
      Game.nextWave { s.game with lastWaveTime := some (s.game.lastWaveTime.getD now) } draws = .ok g ∧
      (s.step c).game = { g with lastWaveTime := some now } := by
  cases c with
  | waveSystem now draws =>
      obtain ⟨hdue, hreturns⟩ := (Bool.and_eq_true _ _).mp h
      have hdue' : Game.waveDue { s.game with
        lastWaveTime := some (s.game.lastWaveTime.getD now) } now = true := hdue
      obtain ⟨heq, hthrown⟩ | ⟨game, -, hok, heq⟩ | ⟨e, -, -, heq⟩ :=
        s.step_cases (.waveSystem now draws)
      · rw [heq] at hreturns
        rw [Option.isNone_iff_eq_none.mp hreturns] at hthrown
        cases hthrown
      · simp only [Game.perform, Game.waveSystem, hdue', ↓reduceIte] at hok
        obtain ⟨g, hwave, hok⟩ := Fallible.bind_eq_ok.mp hok
        obtain rfl := Fallible.pure_eq_ok.mp hok
        exact ⟨now, draws, g, rfl, hwave, by rw [heq]⟩
      · rw [heq] at hreturns
        cases hreturns
  | _ => cases h

theorem sameWave_of_not_fires (h : s.fires c = false) : SameWave s.game (s.step c).game := by
  obtain ⟨heq, -⟩ | ⟨game, hthrown, hok, heq⟩ | ⟨e, -, -, heq⟩ := s.step_cases c
  · rw [heq]
    exact ⟨rfl, rfl⟩
  · rw [heq]
    refine perform_sameWave ?_ hok
    rintro now draws rfl
    have hreturns : (s.step (.waveSystem now draws)).thrown.isNone = true := by rw [heq, hthrown]; rfl
    simpa [fires, hreturns] using h
  · rw [heq]
    exact ⟨rfl, rfl⟩

/-! ## The schedule -/

/-- The number of the wave after so many firings. -/
def waveNumber (n : Nat) : Int := 3 * (n / 2 : Nat) + 2 * (n % 2 : Nat)

/-- The waves so far, and what they leave for the next. -/
structure Counted (s : History) (log : List Wave) : Prop
    extends Schedule waveNumber 2 s.game.currentWave log where
  enemiesPerWave : s.game.enemiesPerWave = 5 + 5 * (enemyWaves log : Int)

theorem waveNumber_boss_iff (n : Nat) : (waveNumber n + 1).tmod 3 = 0 ↔ 2 ∣ n + 1 := by
  have hpos : 0 ≤ waveNumber n + 1 := by
    unfold waveNumber
    omega
  rw [Int.tmod_eq_emod_of_nonneg hpos]
  unfold waveNumber
  omega

theorem Counted.step {log : List Wave} (h : Counted s log) (c : Call) :
    Counted (s.step c) (log ++ s.wave c) := by
  cases hfires : s.fires c with
  | false =>
      have hsame := sameWave_of_not_fires hfires
      have hwave : s.wave c = [] := by simp [wave, hfires]
      rw [hwave, List.append_nil]
      refine { h with currentWave := ?_, enemiesPerWave := ?_ }
      · rw [hsame.currentWave, h.currentWave]
      · rw [hsame.enemiesPerWave, h.enemiesPerWave]
  | true =>
      obtain ⟨now, draws, g, rfl, hwave, hgame⟩ := exists_nextWave_of_fires hfires
      have hlog : s.wave (.waveSystem now draws) =
          [⟨spawned .boss s.game g, spawned .enemy s.game g, s.game.enemiesPerWave⟩] := by
        simp only [wave, hfires, hgame]
        rfl
      have hcurrentWave : s.game.currentWave = waveNumber log.length := h.currentWave
      rw [hlog]
      have henemiesPerWave : s.game.enemiesPerWave = 5 + 5 * (enemyWaves log : Int) :=
        h.enemiesPerWave
      obtain ⟨hmod, hspawned⟩ | ⟨hmod, hspawned⟩ := nextWave_cases hwave
      · have hbosses : spawned .boss s.game g = 1 := hspawned.spawned_boss
        have henemies : spawned .enemy s.game g = 4 := hspawned.spawned_enemy
        have hnext : g.currentWave = s.game.currentWave + 1 := hspawned.currentWave
        have hsize : g.enemiesPerWave = s.game.enemiesPerWave := hspawned.enemiesPerWave
        have heven : 2 ∣ log.length + 1 := by
          rw [← waveNumber_boss_iff, ← hcurrentWave]
          exact hmod
        rw [hbosses, henemies]
        refine ⟨h.toSchedule.append ?_ ?_ ?_, ?_⟩
        · rw [hgame]
          simp only [hnext, hcurrentWave, waveNumber]
          omega
        · exact iff_of_true ⟨rfl, rfl⟩ heven
        · exact fun hplain => absurd ⟨rfl, rfl⟩ hplain
        · rw [enemyWaves_append, if_pos ⟨rfl, rfl⟩, Nat.add_zero, hgame]
          exact hsize.trans henemiesPerWave
      · have hbosses : spawned .boss s.game g = 0 := hspawned.spawned_boss
        have henemies : spawned .enemy s.game g = s.game.enemiesPerWave.toNat :=
          hspawned.spawned_enemy
        have hnext : g.currentWave = s.game.currentWave + 2 := hspawned.currentWave
        have hsize : g.enemiesPerWave = s.game.enemiesPerWave + 5 := hspawned.enemiesPerWave
        have hodd : ¬ 2 ∣ log.length + 1 := by
          rw [← waveNumber_boss_iff, ← hcurrentWave]
          exact hmod
        rw [hbosses, henemies]
        have hplain : ¬ Wave.IsBossWave ⟨0, s.game.enemiesPerWave.toNat, s.game.enemiesPerWave⟩ :=
          fun hboss => absurd hboss.1 Nat.zero_ne_one
        refine ⟨h.toSchedule.append ?_ ?_ ?_, ?_⟩
        · rw [hgame]
          simp only [hnext, hcurrentWave, waveNumber]
          omega
        · exact iff_of_false hplain hodd
        · exact fun _ => ⟨rfl, Int.toNat_of_nonneg (by omega), henemiesPerWave⟩
        · rw [enemyWaves_append, if_neg hplain, hgame]
          simp only [hsize, henemiesPerWave]
          push_cast
          ring

theorem counted_run {log : List Wave} (h : Counted s log) (cs : List Call) :
    Counted (run History.step s cs) (log ++ s.waves cs) := by
  induction cs generalizing s log with
  | nil =>
      rw [waves, List.append_nil]
      exact h
  | cons c cs ih =>
      rw [waves, ← List.append_assoc]
      exact ih (h.step c)

/-- What the waves of every history are: the number of the wave goes up by two and by
one in turn, and every second firing spawns a boss. -/
theorem wave_schedule (calls : List Call) :
    Schedule waveNumber 2 (run step new calls).game.currentWave (new.waves calls) := by
  have hstart : Counted new [] :=
    ⟨⟨rfl, fun _ _ h => absurd h (by simp), fun _ _ h => absurd h (by simp)⟩, rfl⟩
  exact (counted_run hstart calls).toSchedule

/-- The waves are numbered by their firings, with a boss in every third, as long as there
is none. -/
theorem every_third_iff (calls : List Call) :
    Schedule (fun n => n) 3 (run step new calls).game.currentWave (new.waves calls) ↔
      new.waves calls = [] := by
  have hwaves := wave_schedule calls
  constructor
  · intro h
    have hnumber := h.currentWave.symm.trans hwaves.currentWave
    unfold waveNumber at hnumber
    exact List.length_eq_zero_iff.mp (by omega)
  · intro h
    rw [h] at hwaves ⊢
    exact ⟨hwaves.currentWave, fun _ _ hk => absurd hk (by simp), fun _ _ hk => absurd hk (by simp)⟩

/-- The first firing counts for two. -/
theorem not_every_third_first : ¬ Schedule (fun n => n) 3
    (run step new [.waveSystem 0 fun _ => .origin,
      .waveSystem 10000000000 fun _ => .origin]).game.currentWave
    (new.waves [.waveSystem 0 fun _ => .origin, .waveSystem 10000000000 fun _ => .origin]) := by
  intro h
  exact absurd h.currentWave (by decide +kernel)

end History

end BeeRType
