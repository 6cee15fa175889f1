-- SUMMARY: The score that a call of `checkCollisions` awards, against the enemies and bosses that it removes.
import BeeRType.Game.CollisionTick

/-!
# Scores

The handlers award the score inside the loops, to all players and for each pair that
collides. An enemy or boss is removed once, so that the award is by the kill exactly
when no target is in two pairs.
-/

open Cpp Std Transition

namespace BeeRType

namespace Game

/-- How often an enemy or boss is hit by bullets and players. -/
def timesHit (g : Game) (o : GameObject) : Nat :=
  hitBy o g.bullets + hitBy o (g.players.map fun _ p => p.toGameObject)

/-- How many of the enemies or bosses are gone that have been hit. -/
def kills (g : Game) (targets left : ExtTreeMap Int GameObject) : Nat :=
  targets.toList.countP fun e => decide (0 < g.timesHit e.2 ∧ e.1 ∉ left)

/-- The players that are left have been awarded 5 for each enemy and 20 for each boss
that has been hit and is gone. -/
def ScoredByKill (g g' : Game) : Prop :=
  ∀ (i : Int) (p' : Player), g'.players[i]? = some p' → ∃ p : Player, g.players[i]? = some p ∧
    p'.score = p.score + 5 * kills g g.enemies g'.enemies + 20 * kills g g.bosses g'.bosses

/-- No enemy or boss is hit twice. -/
structure HitOnce (g : Game) : Prop where
  enemies : ∀ (i : Int) (o : Enemy), g.enemies[i]? = some o → g.timesHit o ≤ 1
  bosses : ∀ (i : Int) (o : Boss), g.bosses[i]? = some o → g.timesHit o ≤ 1

/-- No player is left to be awarded anything. -/
def NoneSurvives (g : Game) : Prop :=
  ∀ (i : Int) (p : Player), g.players[i]? = some p → ¬ g.Survives i p

variable {g g' : Game} {i : Int} {p p' : Player}

theorem ScoredByKill.score (h : ScoredByKill g g') (hi : g'.players[i]?.isSome) :
    g'.players[i]?.map Player.score = g.players[i]?.map fun p : Player =>
      (p.score + 5 * kills g g.enemies g'.enemies + 20 * kills g g.bosses g'.bosses : ℚ) := by
  obtain ⟨p', hp'⟩ := Option.isSome_iff_exists.mp hi
  obtain ⟨p, hp, hscore⟩ := h i p' hp'
  rw [hp', hp, Option.map_some, Option.map_some, hscore]

/-! ## Awards -/

/-- All players have been awarded the amount. -/
def Awarded (amount : ℚ) (g g' : Game) : Prop :=
  ∀ i : Int, g'.players[i]?.map Player.score = g.players[i]?.map fun p => p.score + amount

namespace Awarded

variable {amount amount' : ℚ}

theorem of_eq (h : g'.players = g.players) : Awarded 0 g g' := by
  intro i
  simp only [h, add_zero]

theorem trans {m : Game} (h : Awarded amount g m) (h' : Awarded amount' m g') :
    Awarded (amount + amount') g g' := by
  intro i
  have hfirst := congrArg (Option.map (· + amount')) (h i)
  simp only [Option.map_map] at hfirst
  refine ((h' i).trans hfirst).trans (congrArg (g.players[i]?.map ·) (funext fun p => ?_))
  exact add_assoc _ _ _

/-- The loops award the amount for each pair. -/
theorem foldl {α : Type} {f : Game → α → Game} (hf : ∀ g a, Awarded amount g (f g a)) (l : List α) :
    Awarded (l.length * amount) g (l.foldl f g) := by
  induction l generalizing g with
  | nil =>
      rw [List.length_nil, Nat.cast_zero, zero_mul]
      exact of_eq rfl
  | cons a l ih =>
      have hlength : ((a :: l).length : ℚ) * amount = amount + l.length * amount := by
        rw [List.length_cons]
        push_cast
        ring
      rw [hlength]
      exact (hf g a).trans ih

end Awarded

theorem updateScores_awarded {amount : ℚ} : Awarded amount g (g.updateScores amount) := by
  intro i
  simp only [updateScores, ExtTreeMap.getElem?_map, Option.map_map]
  rfl

theorem handleEnemyDeath_awarded : Awarded 5 g (g.handleEnemyDeath i) := updateScores_awarded

theorem handleBossDeath_awarded : Awarded 20 g (g.handleBossDeath i) := updateScores_awarded

theorem handlePlayerDeath_awarded {d : ℚ} {checkHp : Bool} :
    Awarded 0 g (g.handlePlayerDeath i d checkHp) := by
  have hmodify : ∀ j : Int, (g.players.modify i fun p => p.updateHp d)[j]?.map Player.score =
      g.players[j]?.map fun p => p.score + 0 := by
    intro j
    simp only [add_zero, ExtTreeMap.getElem?_modify]
    split
    · rename_i hj
      rw [Std.compare_eq_iff_eq.mp hj, Option.map_map]
      rfl
    · rfl
  unfold handlePlayerDeath
  dsimp only
  split
  · split
    · split <;> exact hmodify
    · exact hmodify
  · exact .of_eq rfl

theorem handleBulletDeath_awarded : Awarded 0 g (g.handleBulletDeath i) := .of_eq rfl

theorem bulletEnemyCollisions_awarded :
    Awarded ((collidingPairs g.bullets.toList g.enemies.toList).length * 5) g
      g.bulletEnemyCollisions := by
  rw [bulletEnemyCollisions, detectCollisions_eq]
  refine .foldl (fun g ab => ?_) _
  rw [← zero_add (5 : ℚ)]
  exact handleBulletDeath_awarded.trans handleEnemyDeath_awarded

theorem bulletBossCollisions_awarded :
    Awarded ((collidingPairs g.bullets.toList g.bosses.toList).length * 20) g
      g.bulletBossCollisions := by
  rw [bulletBossCollisions, detectCollisions_eq]
  refine .foldl (fun g ab => ?_) _
  rw [← zero_add (20 : ℚ)]
  exact handleBulletDeath_awarded.trans handleBossDeath_awarded

theorem playerEnemyCollisions_awarded (d : ℚ) (checkHp : Bool) :
    Awarded ((collidingPairs g.playerObjects g.enemies.toList).length * 5) g
      (g.playerEnemyCollisions d checkHp) := by
  rw [playerEnemyCollisions, detectCollisions_eq]
  refine .foldl (fun g ab => ?_) _
  rw [← zero_add (5 : ℚ)]
  exact handlePlayerDeath_awarded.trans handleEnemyDeath_awarded

theorem playerBossCollisions_awarded (d : ℚ) (checkHp : Bool) :
    Awarded ((collidingPairs g.playerObjects g.bosses.toList).length * 20) g
      (g.playerBossCollisions d checkHp) := by
  rw [playerBossCollisions, detectCollisions_eq]
  refine .foldl (fun g ab => ?_) _
  rw [← zero_add (20 : ℚ)]
  exact handlePlayerDeath_awarded.trans handleBossDeath_awarded

/-! ## Hits and kills -/

/-- The pairs, counted by the object of the inner loop. -/
theorem length_collidingPairs {A B : ExtTreeMap Int GameObject} :
    (collidingPairs A.toList B.toList).length = (B.toList.map fun b => hitBy b.2 A).sum := by
  unfold hitBy
  generalize A.toList = entitiesA
  induction entitiesA with
  | nil => simp [collidingPairs]
  | cons a rest ih =>
      have hpairs : (collidingPairs (a :: rest) B.toList).length =
          B.toList.countP (fun b => checkCollision a.2 b.2 10) +
            (collidingPairs rest B.toList).length := by
        simp only [collidingPairs, List.flatMap_cons, List.length_append, List.length_map,
          ← List.countP_eq_length_filter]
      rw [hpairs, ih]
      generalize B.toList = entitiesB
      induction entitiesB with
      | nil => rfl
      | cons b entitiesB ih =>
          simp only [List.countP_cons, List.map_cons, List.sum_cons] at ih ⊢
          omega

/-- The hits on all enemies or on all bosses. -/
def totalHits (g : Game) (targets : ExtTreeMap Int GameObject) : Nat :=
  (targets.toList.map fun e => g.timesHit e.2).sum

theorem totalHits_eq {targets : ExtTreeMap Int GameObject} : g.totalHits targets =
    (collidingPairs g.bullets.toList targets.toList).length +
      (collidingPairs g.playerObjects targets.toList).length := by
  rw [playerObjects, length_collidingPairs, length_collidingPairs, totalHits]
  generalize targets.toList = l
  induction l with
  | nil => rfl
  | cons e l ih =>
      simp only [List.map_cons, List.sum_cons, timesHit] at ih ⊢
      omega

/-- Each hit is awarded. -/
theorem detectAll_awarded :
    Awarded (5 * g.totalHits g.enemies + 20 * g.totalHits g.bosses) g g.detectAll := by
  have hone : Detected g g.bulletEnemyCollisions := bulletEnemyCollisions_detected
  have hbulletEnemy := bulletEnemyCollisions_awarded (g := g)
  have hbulletBoss := bulletBossCollisions_awarded (g := g.bulletEnemyCollisions)
  have hplayerEnemy := playerEnemyCollisions_awarded (-10) true
    (g := g.bulletEnemyCollisions.bulletBossCollisions)
  have hplayerBoss := playerBossCollisions_awarded (-20) true
    (g := g.bulletEnemyCollisions.bulletBossCollisions.playerEnemyCollisions (-10) true)
  rw [hone.bullets, hone.bosses] at hbulletBoss
  rw [bulletPasses_detected.playerObjects, bulletPasses_detected.enemies] at hplayerEnemy
  rw [threePasses_detected.playerObjects, threePasses_detected.bosses] at hplayerBoss
  have hall := ((hbulletEnemy.trans hbulletBoss).trans hplayerEnemy).trans hplayerBoss
  have hamount : (5 : ℚ) * g.totalHits g.enemies + 20 * g.totalHits g.bosses =
      (collidingPairs g.bullets.toList g.enemies.toList).length * 5 +
        (collidingPairs g.bullets.toList g.bosses.toList).length * 20 +
        (collidingPairs g.playerObjects g.enemies.toList).length * 5 +
        (collidingPairs g.playerObjects g.bosses.toList).length * 20 := by
    rw [totalHits_eq, totalHits_eq]
    push_cast
    ring
  rw [hamount]
  exact hall

/-! ## One award for each kill -/

theorem hitByNone_iff {o : GameObject} {A : ExtTreeMap Int GameObject} :
    HitByNone o A ↔ hitBy o A = 0 := by
  simp only [HitByNone, hitBy, List.countP_eq_zero, Prod.forall,
    ExtTreeMap.mem_toList_iff_getElem?_eq_some, Bool.not_eq_true]

/-- An enemy or boss that has been hit does not stay. -/
theorem not_targetStays {o : GameObject} (h : 0 < g.timesHit o) : ¬ TargetStays g o := by
  rintro ⟨hbullets, hplayers, -⟩
  rw [hitByNone_iff] at hbullets
  rw [← hitByNone_players, hitByNone_iff] at hplayers
  rw [timesHit, hbullets, hplayers] at h
  exact Nat.lt_irrefl 0 h

theorem not_mem_enemies_checkCollisions {o : Enemy} (ho : g.enemies[i]? = some o)
    (h : 0 < g.timesHit o) : i ∉ g.checkCollisions.enemies := by
  rw [enemies_checkCollisions, mem_removeEntities, not_and_not_right]
  exact fun _ => mem_deadEnemies.mpr (.inr ⟨o, ho, not_targetStays h⟩)

theorem not_mem_bosses_checkCollisions {o : Boss} (ho : g.bosses[i]? = some o)
    (h : 0 < g.timesHit o) : i ∉ g.checkCollisions.bosses := by
  rw [bosses_checkCollisions, mem_removeEntities, not_and_not_right]
  exact fun _ => mem_deadBosses.mpr (.inr ⟨o, ho, not_targetStays h⟩)

theorem kills_eq {targets left : ExtTreeMap Int GameObject}
    (h : ∀ (i : Int) (o : GameObject), targets[i]? = some o → 0 < g.timesHit o → i ∉ left) :
    kills g targets left = targets.toList.countP fun e => decide (0 < g.timesHit e.2) := by
  refine List.countP_congr fun e he => ?_
  simp only [decide_eq_true_eq, and_iff_left_iff_imp]
  exact h e.1 e.2 (ExtTreeMap.mem_toList_iff_getElem?_eq_some.mp he)

section Counting

variable {α : Type} {f : α → Nat} {l : List α}

theorem countP_pos_le_sum : l.countP (fun x => decide (0 < f x)) ≤ (l.map f).sum := by
  induction l with
  | nil => exact Nat.le_refl 0
  | cons x l ih =>
      simp only [List.countP_cons, List.map_cons, List.sum_cons, decide_eq_true_eq]
      split <;> omega

/-- A sum counts the positive terms if none is above one. -/
theorem sum_eq_countP_pos_iff :
    (l.map f).sum = l.countP (fun x => decide (0 < f x)) ↔ ∀ x ∈ l, f x ≤ 1 := by
  induction l with
  | nil => simp
  | cons x l ih =>
      have hle : l.countP (fun x => decide (0 < f x)) ≤ (l.map f).sum := countP_pos_le_sum
      rw [List.forall_mem_cons, ← ih]
      simp only [List.countP_cons, List.map_cons, List.sum_cons, decide_eq_true_eq]
      split <;> omega

end Counting

/-- A player that is left has been awarded all hits. -/
theorem score_checkCollisions (hp' : g.checkCollisions.players[i]? = some p') :
    ∃ p : Player, g.players[i]? = some p ∧
      p'.score = p.score + (5 * g.totalHits g.enemies + 20 * g.totalHits g.bosses) := by
  rw [players_checkCollisions] at hp'
  have hleft : g.detectAll.players[i]? = some p' := getElem?_of_removeEntities hp'
  have hscore := detectAll_awarded (g := g) i
  rw [hleft, Option.map_some, eq_comm, Option.map_eq_some_iff] at hscore
  obtain ⟨p, hp, hscore⟩ := hscore
  exact ⟨p, hp, hscore.symm⟩

theorem kills_le_totalHits {targets left : ExtTreeMap Int GameObject}
    (h : ∀ (i : Int) (o : GameObject), targets[i]? = some o → 0 < g.timesHit o → i ∉ left) :
    kills g targets left ≤ g.totalHits targets := by
  rw [kills_eq h]
  exact countP_pos_le_sum

theorem totalHits_eq_kills_iff {targets left : ExtTreeMap Int GameObject}
    (h : ∀ (i : Int) (o : GameObject), targets[i]? = some o → 0 < g.timesHit o → i ∉ left) :
    g.totalHits targets = kills g targets left ↔
      ∀ (i : Int) (o : GameObject), targets[i]? = some o → g.timesHit o ≤ 1 := by
  rw [kills_eq h, totalHits, sum_eq_countP_pos_iff]
  simp only [Prod.forall, ExtTreeMap.mem_toList_iff_getElem?_eq_some]

/-- The award is by the kill if nothing is hit twice, or nobody is left to see it. -/
theorem scoredByKill_checkCollisions_iff :
    ScoredByKill g g.checkCollisions ↔ NoneSurvives g ∨ HitOnce g := by
  have hgoneEnemies : ∀ (i : Int) (o : GameObject), g.enemies[i]? = some o → 0 < g.timesHit o →
      i ∉ g.checkCollisions.enemies := fun _ _ => not_mem_enemies_checkCollisions
  have hgoneBosses : ∀ (i : Int) (o : GameObject), g.bosses[i]? = some o → 0 < g.timesHit o →
      i ∉ g.checkCollisions.bosses := fun _ _ => not_mem_bosses_checkCollisions
  have henemies := totalHits_eq_kills_iff hgoneEnemies
  have hbosses := totalHits_eq_kills_iff hgoneBosses
  constructor
  · intro h
    by_cases hnone : NoneSurvives g
    · exact .inl hnone
    · -- one player that is left shows what the call has awarded
      simp only [NoneSurvives, not_forall, not_not] at hnone
      obtain ⟨i, p, hp, hsurvives⟩ := hnone
      have hmem : i ∈ g.checkCollisions.players := mem_players_checkCollisions.mpr ⟨p, hp, hsurvives⟩
      obtain ⟨p', hp'⟩ := Option.isSome_iff_exists.mp (ExtTreeMap.mem_iff_isSome_getElem?.mp hmem)
      obtain ⟨q, hq, hkills⟩ := h i p' hp'
      obtain ⟨q', hq', hhits⟩ := score_checkCollisions hp'
      cases hq.symm.trans hq'
      have heq : (5 : ℚ) * g.totalHits g.enemies + 20 * g.totalHits g.bosses =
          5 * kills g g.enemies g.checkCollisions.enemies +
            20 * kills g g.bosses g.checkCollisions.bosses := by linarith
      norm_cast at heq
      have hleEnemies := kills_le_totalHits hgoneEnemies
      have hleBosses := kills_le_totalHits hgoneBosses
      exact .inr ⟨henemies.mp (by omega), hbosses.mp (by omega)⟩
  · rintro (hnone | ⟨hone, hone'⟩) i p' hp'
    · have hmem : i ∈ g.checkCollisions.players :=
        ExtTreeMap.mem_iff_isSome_getElem?.mpr (Option.isSome_of_mem hp')
      obtain ⟨p, hp, hsurvives⟩ := mem_players_checkCollisions.mp hmem
      exact absurd hsurvives (hnone i p hp)
    · obtain ⟨p, hp, hscore⟩ := score_checkCollisions hp'
      refine ⟨p, hp, ?_⟩
      rw [hscore, henemies.mpr hone, hbosses.mpr hone', add_assoc]

end Game

namespace History

open Game

/-- Along every history the score is by the kill exactly when no call finds an enemy or
boss that is hit twice while a player is left. -/
theorem scoredByKill_iff (calls : List Call) :
    EachStep step (fun s c => s.Checks c → ScoredByKill s.game (s.step c).game) new calls ↔
      EachStep step (fun s c => s.Checks c → NoneSurvives s.game ∨ HitOnce s.game) new calls := by
  refine (always_of_step (I := fun _ : History => True) trivial
    fun _ _ _ => trivial).eachStep_congr fun s c _ => ?_
  refine forall_congr' fun hchecks => ?_
  rw [game_step_of_checks hchecks]
  exact scoredByKill_checkCollisions_iff

/-- Two bullets that hit the same five enemies: each enemy is awarded twice. -/
theorem not_scoredByKill_wave :
    ¬ EachStep step (fun s c => s.Checks c → ScoredByKill s.game (s.step c).game) new
      [.initializePlayers 9, .waveSystem 0 fun _ => .inFront,
        .waveSystem 10000000000 fun _ => .inFront, .spawnBullet 8,
        .spawnBullet 8, .checkCollisions] := by
  rintro ⟨-, -, -, -, -, hlast, -⟩
  have hscored : ScoredByKill _ _ := hlast ⟨by decide +kernel, rfl⟩
  exact absurd (hscored.score (i := 0) (by decide +kernel)) (by decide +kernel)

end History

end BeeRType
