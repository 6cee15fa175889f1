-- SUMMARY: Two games that differ in the numbers of their bullets, enemies and bosses, and the game functions that keep them so.
import BeeRType.Base.Shift
import BeeRType.Game.Calls

/-!
# Games up to the numbers of their objects

The ids of bullets, enemies and bosses only serve to tell objects apart. A game whose
counters start higher goes through the same states with its ids raised, and sends the
same packets with the ids raised in them.
-/

open Cpp Std Fallible

namespace BeeRType

/-- The packets of one game as those of another: the ids of objects are renamed. -/
inductive Renamed (ρ : ObjectClass → Int → Int) : Message → Message → Prop
  | object (c : ObjectClass) (type : PacketType) (htype : type = c.createType ∨ type = c.destroyType)
      (i : Int) (f2 f3 f4 f5 : Bytes) :
      Renamed ρ ⟨type, ⟨toStringInt (ρ c i), f2, f3, f4, f5⟩⟩ ⟨type, ⟨toStringInt i, f2, f3, f4, f5⟩⟩
  | other (m : Message) (h : ∀ c : ObjectClass, m.type ≠ c.createType ∧ m.type ≠ c.destroyType) :
      Renamed ρ m m

namespace Game

/-- `g` is `g'` with the ids of each class raised by `d`, and with the packets of
earlier games in `old`. The clocks, the table of published positions and
`totalPlayers` may differ. -/
structure Alike (d : ObjectClass → Int) (old : List Message) (g g' : Game) : Prop where
  players : g.players = g'.players
  playerActions : g.playerActions = g'.playerActions
  currentWave : g.currentWave = g'.currentWave
  enemiesPerWave : g.enemiesPerWave = g'.enemiesPerWave
  registry : g.registry = g'.registry
  bullets : Shifted (d .bullet) g.bullets g'.bullets
  enemies : Shifted (d .enemy) g.enemies g'.enemies
  bosses : Shifted (d .boss) g.bosses g'.bosses
  bulletIdWhoShot : Shifted (d .bullet) g.bulletIdWhoShot g'.bulletIdWhoShot
  nextBulletId : g.nextBulletId = g'.nextBulletId + d .bullet
  enemyId : g.enemyId = g'.enemyId + d .enemy
  bossId : g.bossId = g'.bossId + d .boss
  deadPlayers : g.deadPlayers = g'.deadPlayers
  deadBullets : g.deadBullets = g'.deadBullets.map (· + d .bullet)
  deadEnemies : g.deadEnemies = g'.deadEnemies.map (· + d .enemy)
  deadBosses : g.deadBosses = g'.deadBosses.map (· + d .boss)
  broadcasts : ∃ new, g.broadcasts = old ++ new ∧
    List.Forall₂ (Renamed fun c i => i + d c) new g'.broadcasts

variable {d : ObjectClass → Int} {old : List Message} {g g' : Game} {playerId id : Int}

/-- Both games send one packet more. -/
theorem broadcasts_append {messages messages' new new' : List Message}
    (h : ∃ sent, messages = old ++ sent ∧ List.Forall₂ (Renamed fun c i => i + d c) sent messages')
    (hnew : List.Forall₂ (Renamed fun c i => i + d c) new new') :
    ∃ sent, messages ++ new = old ++ sent ∧
      List.Forall₂ (Renamed fun c i => i + d c) sent (messages' ++ new') := by
  obtain ⟨sent, rfl, hsent⟩ := h
  exact ⟨sent ++ new, List.append_assoc _ _ _, List.rel_append hsent hnew⟩

/-! ## Spawning -/

theorem spawnBullet_alike (h : Alike d old g g') :
    Agree (Alike d old) (g.spawnBullet playerId) (g'.spawnBullet playerId) := by
  unfold spawnBullet
  rw [h.players]
  split
  · exact .ok h
  · rename_i player hplayer
    split
    · rw [h.registry]
      refine (Agree.eq (Bullet.new g'.registry _ _)).bind fun bullet _ heq => ?_
      subst heq
      refine .ok ?_
      rw [h.nextBulletId]
      exact { h with
        players := rfl
        registry := rfl
        bullets := h.bullets.insertIfNew
        bulletIdWhoShot := h.bulletIdWhoShot.insert
        nextBulletId := by simp only [broadcast]; omega
        broadcasts := broadcasts_append h.broadcasts (.cons
          (.object .bullet .createBullet (.inl rfl) _ _ _ _ _) .nil) }
    · exact .ok h

theorem spawnNextEnemy_alike {draw : Draw} (h : Alike d old g g') :
    Agree (Alike d old) (g.spawnNextEnemy draw) (g'.spawnNextEnemy draw) := by
  unfold spawnNextEnemy spawnEnemy
  dsimp only
  rw [h.registry, h.enemyId]
  refine (Agree.eq (Enemy.new g'.registry _ _)).bind fun enemy _ heq => ?_
  subst heq
  exact .ok { h with
    registry := rfl
    enemies := h.enemies.insertIfNew
    enemyId := by simp only [broadcast]; omega
    broadcasts := broadcasts_append h.broadcasts (.cons
      (.object .enemy .createEnemy (.inl rfl) _ _ _ _ _) .nil) }

theorem spawnNextBoss_alike {draw : Draw} (h : Alike d old g g') :
    Agree (Alike d old) (g.spawnNextBoss draw) (g'.spawnNextBoss draw) := by
  unfold spawnNextBoss spawnBoss
  dsimp only
  rw [h.registry, h.bossId]
  refine (Agree.eq (Boss.new g'.registry _ _)).bind fun boss _ heq => ?_
  subst heq
  exact .ok { h with
    registry := rfl
    bosses := h.bosses.insertIfNew
    bossId := by simp only [broadcast]; omega
    broadcasts := broadcasts_append h.broadcasts (.cons
      (.object .boss .createBoss (.inl rfl) _ _ _ _ _) .nil) }

theorem spawnPlayer_alike {x y : ℚ} (hd : d .player = 0) (h : Alike d old g g') :
    Agree (Alike d old) (g.spawnPlayer playerId x y) (g'.spawnPlayer playerId x y) := by
  unfold spawnPlayer
  rw [h.players, h.registry]
  refine (Agree.eq (Player.new g'.registry x y)).bind fun player _ heq => ?_
  subst heq
  dsimp only
  cases ((g'.players.insertIfNew playerId player).modify playerId fun p =>
      (p.updateHp 100).updateScore 0)[playerId]? with
  | none => exact .error _
  | some p =>
      have hcreate : ∀ payload : Payload, payload.f1 = toStringInt playerId →
          Renamed (fun c i => i + d c) ⟨.createPlayer, payload⟩ ⟨.createPlayer, payload⟩ := by
        rintro ⟨f1, f2, f3, f4, f5⟩ rfl
        have hobject : Renamed (fun c i => i + d c)
            ⟨.createPlayer, ⟨toStringInt (playerId + d .player), f2, f3, f4, f5⟩⟩
            ⟨.createPlayer, ⟨toStringInt playerId, f2, f3, f4, f5⟩⟩ :=
          .object .player .createPlayer (.inl rfl) playerId f2 f3 f4 f5
        rwa [hd, Int.add_zero] at hobject
      refine .ok { h with players := rfl, registry := rfl, broadcasts := ?_ }
      refine broadcasts_append (broadcasts_append h.broadcasts (.cons (hcreate _ rfl) .nil))
        (.cons ?_ .nil)
      exact .other _ fun c => by cases c <;> exact ⟨nofun, nofun⟩

theorem initializePlayers_alike {numPlayers : Int} (hd : d .player = 0) (h : Alike d old g g') :
    Agree (Alike d old) (g.initializePlayers numPlayers) (g'.initializePlayers numPlayers) :=
  Agree.foldlM (S := Alike d old) { h with } fun _ _ _ _ h => spawnPlayer_alike hd h

/-! ## Waves -/

theorem spawnEnemies_alike {draws : Nat → Draw} {ids : List Nat} (h : Alike d old g g') :
    Agree (Alike d old) (ids.foldlM (fun g i => g.spawnNextEnemy (draws i)) g)
      (ids.foldlM (fun g i => g.spawnNextEnemy (draws i)) g') :=
  Agree.foldlM (S := Alike d old) h fun _ _ _ _ h => spawnNextEnemy_alike h

theorem startNextWave_alike {draws : Nat → Draw} (h : Alike d old g g') :
    Agree (Alike d old) (g.startNextWave draws) (g'.startNextWave draws) := by
  have hstart : Alike d old
      { g with currentWave := g'.currentWave + 1, enemiesPerWave := g'.enemiesPerWave }
      { g' with currentWave := g'.currentWave + 1 } :=
    { h with currentWave := rfl, enemiesPerWave := rfl }
  unfold startNextWave
  rw [h.enemiesPerWave, h.currentWave]
  refine (spawnEnemies_alike hstart).bind fun m m' h => ?_
  have hend : Alike d old { m with enemiesPerWave := m.enemiesPerWave + 5 }
      { m' with enemiesPerWave := m'.enemiesPerWave + 5 } :=
    { h with enemiesPerWave := by rw [h.enemiesPerWave] }
  exact .ok hend

theorem nextWave_alike {draws : Nat → Draw} (h : Alike d old g g') :
    Agree (Alike d old) (g.nextWave draws) (g'.nextWave draws) := by
  have hstart : Alike d old { g with currentWave := g'.currentWave + 1 }
      { g' with currentWave := g'.currentWave + 1 } := { h with currentWave := rfl }
  unfold nextWave
  rw [h.currentWave]
  dsimp only
  split
  · refine (spawnNextBoss_alike hstart).bind fun _ _ h => ?_
    exact Agree.foldlM (S := Alike d old) h fun _ _ _ _ h => spawnNextEnemy_alike h
  · exact startNextWave_alike hstart

/-- The waves of two games whose timers agree. -/
theorem waveSystem_alike {now now' : Int} {draws : Nat → Draw} (h : Alike d old g g')
    (hdue : g.waveDue now = g'.waveDue now') :
    Agree (Alike d old) (g.waveSystem now draws) (g'.waveSystem now' draws) := by
  have hsame : ∀ (g : Game) now, { g with
      lastWaveTime := some (g.lastWaveTime.getD now) : Game }.waveDue now = g.waveDue now := by
    intro g now
    cases hlast : g.lastWaveTime <;> simp [waveDue, hlast]
  have hstart : Alike d old { g with lastWaveTime := some (g.lastWaveTime.getD now) }
      { g' with lastWaveTime := some (g'.lastWaveTime.getD now') } := { h with }
  unfold waveSystem
  dsimp only
  rw [hsame, hsame, hdue]
  split
  · refine (nextWave_alike hstart).bind fun m m' h => ?_
    have hend : Alike d old { m with lastWaveTime := some now }
        { m' with lastWaveTime := some now' } := { h with }
    exact .ok hend
  · exact .ok hstart

/-! ## Timers -/

theorem updateBullets_alike {now now' : Int} (h : Alike d old g g')
    (hdue : 16 ≤ elapsed (g.lastBulletUpdateTime.getD now) now nanosPerMilli ↔
      16 ≤ elapsed (g'.lastBulletUpdateTime.getD now') now' nanosPerMilli) :
    Alike d old (g.updateBullets now) (g'.updateBullets now') := by
  unfold updateBullets
  dsimp only
  simp only [hdue]
  split
  · exact { h with bullets := h.bullets.map fun bullet => GameObject.move bullet 5 0 }
  · exact { h with }

theorem updateEnemies_alike {now now' : Int} (h : Alike d old g g')
    (hdue : 16 ≤ elapsed (g.lastEnemyUpdateTime.getD now) now nanosPerMilli ↔
      16 ≤ elapsed (g'.lastEnemyUpdateTime.getD now') now' nanosPerMilli) :
    Alike d old (g.updateEnemies now) (g'.updateEnemies now') := by
  unfold updateEnemies
  dsimp only
  simp only [hdue]
  split
  · exact { h with
      enemies := h.enemies.map fun enemy => GameObject.move enemy (-1) 0
      bosses := h.bosses.map fun boss => GameObject.move boss (-1 / 10) 0 }
  · exact { h with }

theorem forall₂_self {messages : List Message}
    (h : ∀ m ∈ messages, ∀ c : ObjectClass, m.type ≠ c.createType ∧ m.type ≠ c.destroyType) :
    List.Forall₂ (Renamed fun c i => i + d c) messages messages :=
  List.forall₂_same.mpr fun m hm => .other m (h m hm)

theorem updateUI_alike {now now' : Int} (h : Alike d old g g')
    (hdue : 1 ≤ elapsed (g.lastBroadcastTime.getD now) now nanosPerSecond ↔
      1 ≤ elapsed (g'.lastBroadcastTime.getD now') now' nanosPerSecond) :
    Alike d old (g.updateUI now) (g'.updateUI now') := by
  unfold updateUI
  dsimp only
  simp only [hdue]
  split
  · refine { h with broadcasts := ?_ }
    rw [h.players]
    refine broadcasts_append h.broadcasts (forall₂_self fun m hm c => ?_)
    obtain ⟨p, -, rfl⟩ := List.mem_map.mp hm
    cases c <;> exact ⟨nofun, nofun⟩
  · exact { h with }

/-! ## Collisions -/

theorem handleBulletDeath_alike (h : Alike d old g g') :
    Alike d old (g.handleBulletDeath (id + d .bullet)) (g'.handleBulletDeath id) :=
  { h with deadBullets := by simp [handleBulletDeath, h.deadBullets] }

theorem updateScores_alike {amount : ℚ} (h : Alike d old g g') :
    Alike d old (g.updateScores amount) (g'.updateScores amount) :=
  { h with players := by rw [updateScores, updateScores, h.players] }

theorem handleEnemyDeath_alike (h : Alike d old g g') :
    Alike d old (g.handleEnemyDeath (id + d .enemy)) (g'.handleEnemyDeath id) := by
  have hdead : Alike d old { g with deadEnemies := g.deadEnemies ++ [id + d .enemy] }
      { g' with deadEnemies := g'.deadEnemies ++ [id] } :=
    { h with deadEnemies := by simp [h.deadEnemies] }
  exact updateScores_alike hdead

theorem handleBossDeath_alike (h : Alike d old g g') :
    Alike d old (g.handleBossDeath (id + d .boss)) (g'.handleBossDeath id) := by
  have hdead : Alike d old { g with deadBosses := g.deadBosses ++ [id + d .boss] }
      { g' with deadBosses := g'.deadBosses ++ [id] } :=
    { h with deadBosses := by simp [h.deadBosses] }
  exact updateScores_alike hdead

theorem handlePlayerDeath_alike {damage : ℚ} {checkHp : Bool} (h : Alike d old g g') :
    Alike d old (g.handlePlayerDeath id damage checkHp) (g'.handlePlayerDeath id damage checkHp) := by
  unfold handlePlayerDeath
  rw [h.players, h.deadPlayers]
  split
  · dsimp only
    split
    · split <;> exact { h with players := rfl, deadPlayers := rfl }
    · exact { h with players := rfl, deadPlayers := rfl }
  · exact { h with players := rfl, deadPlayers := rfl }

/-- The pairs of two lists whose ids are raised. -/
theorem collidingPairs_map {A B : List (Int × GameObject)} (a b : Int) :
    collidingPairs (A.map fun e => (e.1 + a, e.2)) (B.map fun e => (e.1 + b, e.2)) =
      (collidingPairs A B).map fun ab => (ab.1 + a, ab.2 + b) := by
  simp only [collidingPairs, List.flatMap_map, List.map_flatMap, List.filter_map, List.map_map]
  rfl

theorem detectCollisions_alike {A A' B B' : List (Int × GameObject)} {a b : Int}
    {handle : Game → Int → Int → Game} (hA : A = A'.map fun e => (e.1 + a, e.2))
    (hB : B = B'.map fun e => (e.1 + b, e.2))
    (hhandle : ∀ g g' i j, Alike d old g g' → Alike d old (handle g (i + a) (j + b)) (handle g' i j))
    (h : Alike d old g g') :
    Alike d old (g.detectCollisions A B handle) (g'.detectCollisions A' B' handle) := by
  rw [detectCollisions_eq, detectCollisions_eq, hA, hB, collidingPairs_map, List.foldl_map]
  exact List.foldl_rel h fun ab _ g g' h => hhandle g g' ab.1 ab.2 h

theorem playerObjects_alike (h : Alike d old g g') :
    g.playerObjects = g'.playerObjects.map fun e => (e.1 + 0, e.2) := by
  rw [playerObjects, playerObjects, h.players]
  simp

theorem detectAll_alike (h : Alike d old g g') : Alike d old g.detectAll g'.detectAll := by
  have hbulletEnemy : Alike d old g.bulletEnemyCollisions g'.bulletEnemyCollisions :=
    detectCollisions_alike h.bullets.toList_eq h.enemies.toList_eq
      (fun _ _ _ _ h => handleEnemyDeath_alike (handleBulletDeath_alike h)) h
  have hbulletBoss : Alike d old g.bulletEnemyCollisions.bulletBossCollisions
      g'.bulletEnemyCollisions.bulletBossCollisions :=
    detectCollisions_alike hbulletEnemy.bullets.toList_eq hbulletEnemy.bosses.toList_eq
      (fun _ _ _ _ h => handleBossDeath_alike (handleBulletDeath_alike h)) hbulletEnemy
  have hplayerEnemy : Alike d old
      (g.bulletEnemyCollisions.bulletBossCollisions.playerEnemyCollisions (-10) true)
      (g'.bulletEnemyCollisions.bulletBossCollisions.playerEnemyCollisions (-10) true) := by
    refine detectCollisions_alike (playerObjects_alike hbulletBoss) hbulletBoss.enemies.toList_eq
      (fun g g' i j h => ?_) hbulletBoss
    rw [Int.add_zero]
    exact handleEnemyDeath_alike (handlePlayerDeath_alike h)
  unfold detectAll playerBossCollisions
  refine detectCollisions_alike (playerObjects_alike hplayerEnemy) hplayerEnemy.bosses.toList_eq
    (fun g g' i j h => ?_) hplayerEnemy
  rw [Int.add_zero]
  exact handleBossDeath_alike (handlePlayerDeath_alike h)

/-- The ids of the objects off the screen. -/
theorem outside_alike {m m' : ExtTreeMap Int GameObject} {k : Int} (h : Shifted k m m') :
    (m.toList.filter fun e => outOfBounds e.2).map Prod.fst =
      ((m'.toList.filter fun e => outOfBounds e.2).map Prod.fst).map (· + k) := by
  rw [h.toList_eq, List.filter_map, List.map_map, List.map_map]
  rfl

theorem detectOutOfBounds_alike (h : Alike d old g g') :
    Alike d old g.detectOutOfBounds g'.detectOutOfBounds := by
  refine { h with deadBullets := ?_, deadEnemies := ?_, deadBosses := ?_ }
  · simp only [detectOutOfBounds]
    rw [h.deadBullets, outside_alike h.bullets, List.map_append]
  · simp only [detectOutOfBounds]
    rw [h.deadEnemies, outside_alike h.enemies, List.map_append]
  · simp only [detectOutOfBounds]
    rw [h.deadBosses, outside_alike h.bosses, List.map_append]

/-! ## Removal -/

section Removal

variable {E : Type} {m m' : ExtTreeMap Int E} {k : Int} {l : List Int}

theorem removeEntities_shifted (h : Shifted k m m') :
    Shifted k (removeEntities m (l.map (· + k))).entities (removeEntities m' l).entities ∧
      (removeEntities m (l.map (· + k))).left = (removeEntities m' l).left.map (· + k) ∧
      (removeEntities m (l.map (· + k))).removed =
        (removeEntities m' l).removed.map (· + k) := by
  induction l generalizing m m' with
  | nil => exact ⟨h, rfl, rfl⟩
  | cons id ids ih =>
      simp only [List.map_cons, removeEntities, h.contains_eq]
      split
      · obtain ⟨hentities, hleft, hremoved⟩ := ih (h.erase (i := id))
        exact ⟨hentities, hleft, by rw [hremoved, List.map_cons]⟩
      · obtain ⟨hentities, hleft, hremoved⟩ := ih h
        exact ⟨hentities, by rw [hleft, List.map_cons], hremoved⟩

end Removal

theorem destroyed_renamed {c : ObjectClass} {l : List Int} :
    List.Forall₂ (Renamed fun c i => i + d c) (destroyed c.destroyType (l.map (· + d c)))
      (destroyed c.destroyType l) := by
  rw [destroyed, destroyed, List.map_map, List.forall₂_map_left_iff, List.forall₂_map_right_iff]
  exact List.forall₂_same.mpr fun i _ => .object c c.destroyType (.inr rfl) i _ _ _ _

theorem removeBullets_alike (h : Alike d old g g') :
    Alike d old g.removeBullets g'.removeBullets := by
  obtain ⟨hentities, hleft, hremoved⟩ :=
    removeEntities_shifted (l := g'.deadBullets) h.bullets
  unfold removeBullets
  rw [h.deadBullets]
  refine { h with bullets := hentities, deadBullets := hleft, bulletIdWhoShot := ?_, broadcasts := ?_ }
  · dsimp only
    rw [hremoved, List.foldl_map]
    exact List.foldl_rel h.bulletIdWhoShot fun i _ m m' hm => hm.erase
  · dsimp only
    rw [hremoved]
    exact broadcasts_append h.broadcasts (destroyed_renamed (c := .bullet))

theorem removeEnemies_alike (h : Alike d old g g') :
    Alike d old g.removeEnemies g'.removeEnemies := by
  obtain ⟨hentities, hleft, hremoved⟩ :=
    removeEntities_shifted (l := g'.deadEnemies) h.enemies
  unfold removeEnemies
  rw [h.deadEnemies]
  refine { h with enemies := hentities, deadEnemies := hleft, broadcasts := ?_ }
  dsimp only
  rw [hremoved]
  exact broadcasts_append h.broadcasts (destroyed_renamed (c := .enemy))

theorem removeBosses_alike (h : Alike d old g g') :
    Alike d old g.removeBosses g'.removeBosses := by
  obtain ⟨hentities, hleft, hremoved⟩ :=
    removeEntities_shifted (l := g'.deadBosses) h.bosses
  unfold removeBosses
  rw [h.deadBosses]
  refine { h with bosses := hentities, deadBosses := hleft, broadcasts := ?_ }
  dsimp only
  rw [hremoved]
  exact broadcasts_append h.broadcasts (destroyed_renamed (c := .boss))

theorem removePlayers_alike (hd : d .player = 0) (h : Alike d old g g') :
    Alike d old g.removePlayers g'.removePlayers := by
  unfold removePlayers
  rw [h.players, h.deadPlayers]
  refine { h with players := rfl, deadPlayers := rfl, broadcasts := ?_ }
  have hsame := destroyed_renamed (d := d) (c := .player)
    (l := (removeEntities g'.players g'.deadPlayers).removed)
  simp only [hd, Int.add_zero, List.map_id_fun'] at hsame
  exact broadcasts_append h.broadcasts hsame

theorem checkCollisions_alike (hd : d .player = 0) (h : Alike d old g g') :
    Alike d old g.checkCollisions g'.checkCollisions :=
  removeBosses_alike (removePlayers_alike hd (removeEnemies_alike (removeBullets_alike
    (detectOutOfBounds_alike (detectAll_alike h)))))

end Game

end BeeRType
