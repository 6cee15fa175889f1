-- SUMMARY: What the dead lists still hold after `checkCollisions`: which ids are listed more than once, and when the lists are drained.
import BeeRType.Game.CollisionTick

/-!
# The dead lists

`removeEntities` takes an entry from its list when it removes the object. An id that
is listed twice is found the first time only, and its second entry stays. A list is
therefore drained when it names each object at most once: when nothing is hit twice,
or hit and outside, and no player is hit again after it has run out of hit points.
-/

open Cpp Std Transition

namespace BeeRType

namespace Game

/-- The four dead lists are empty. -/
structure Drained (g : Game) : Prop where
  players : g.deadPlayers = []
  enemies : g.deadEnemies = []
  bullets : g.deadBullets = []
  bosses : g.deadBosses = []

/-- How often a bullet is listed: for each enemy and boss it hits, and if it is out of
bounds. -/
def bulletListings (g : Game) (o : Bullet) : Nat :=
  hits o g.enemies + hits o g.bosses + (outOfBounds o).toNat

/-- How often an enemy or boss is listed: for each bullet and player that hits it, and
if it is out of bounds. -/
def targetListings (g : Game) (o : GameObject) : Nat :=
  hitBy o g.bullets + hitBy o (g.players.map fun _ p => p.toGameObject) + (outOfBounds o).toNat

/-- The changes of a player's hit points, one for each hit. -/
def damages (g : Game) (p : Player) : List ℚ :=
  List.replicate (hits p.toGameObject g.enemies) (-10) ++
    List.replicate (hits p.toGameObject g.bosses) (-20)

/-- No object is listed twice: a player has hit points left before its last hit. -/
structure ListedOnce (g : Game) : Prop where
  bullets : ∀ (i : Int) (o : Bullet), g.bullets[i]? = some o → g.bulletListings o ≤ 1
  enemies : ∀ (i : Int) (o : Enemy), g.enemies[i]? = some o → g.targetListings o ≤ 1
  bosses : ∀ (i : Int) (o : Boss), g.bosses[i]? = some o → g.targetListings o ≤ 1
  players : ∀ (i : Int) (p : Player), g.players[i]? = some p →
    (g.damages p).length ≤ 1 ∨ 0 < p.hp + (g.damages p).dropLast.sum

variable {g g' : Game} {i : Int} {p : Player} {o : GameObject}

/-! ## Draining a list -/

theorem left_eq_nil {E : Type} {entities : ExtTreeMap Int E} {ids : List Int} :
    (removeEntities entities ids).left = [] ↔ ids.Nodup ∧ ∀ id ∈ ids, id ∈ entities := by
  induction ids generalizing entities with
  | nil => simp [removeEntities]
  | cons first rest ih =>
      unfold removeEntities
      split
      · rename_i hfirst
        have hmem : first ∈ entities := ExtTreeMap.mem_iff_contains.mpr hfirst
        simp only [ih, List.nodup_cons, List.forall_mem_cons, ExtTreeMap.mem_erase,
          Std.compare_ne_eq_iff_ne, and_iff_right hmem]
        constructor
        · rintro ⟨hrest, hkeys⟩
          exact ⟨⟨fun h => (hkeys first h).1 rfl, hrest⟩, fun id hid => (hkeys id hid).2⟩
        · rintro ⟨⟨hfresh, hrest⟩, hkeys⟩
          refine ⟨hrest, fun id hid => ⟨?_, hkeys id hid⟩⟩
          rintro rfl
          exact hfresh hid
      · rename_i hfirst
        simp only [reduceCtorEq, List.forall_mem_cons, false_iff, not_and]
        intro _ hmem
        exact absurd (ExtTreeMap.mem_iff_contains.mp hmem) hfirst

/-- A list that names stored objects only is drained if it names none of them twice.
The removal may find the objects changed, but not others. -/
theorem left_eq_nil_iff_count {E E' : Type} {entities : ExtTreeMap Int E}
    {stored : ExtTreeMap Int E'} {ids : List Int} {listings : E' → Nat}
    (hkeys : ∀ i, i ∈ entities ↔ i ∈ stored) (hmem : ∀ id ∈ ids, id ∈ stored)
    (hcount : ∀ (i : Int) (e : E'), stored[i]? = some e → ids.count i = listings e) :
    (removeEntities entities ids).left = [] ↔
      ∀ (i : Int) (e : E'), stored[i]? = some e → listings e ≤ 1 := by
  rw [left_eq_nil, and_iff_left fun id hid => (hkeys id).mpr (hmem id hid),
    List.nodup_iff_count_le_one]
  constructor
  · intro h i e he
    rw [← hcount i e he]
    exact h i
  · intro h i
    by_cases hi : i ∈ ids
    · obtain ⟨e, he⟩ :=
        Option.isSome_iff_exists.mp (ExtTreeMap.mem_iff_isSome_getElem?.mp (hmem i hi))
      rw [hcount i e he]
      exact h i e he
    · rw [List.count_eq_zero_of_not_mem hi]
      exact Nat.zero_le 1

/-- A list that was empty names stored objects only. -/
theorem mem_of_listed {entities : ExtTreeMap Int GameObject} {ids dead : List Int}
    {Stays : GameObject → Prop} (hdead : dead = [])
    (hids : ∀ i, i ∈ ids ↔ i ∈ dead ∨ ∃ o, entities[i]? = some o ∧ ¬ Stays o) :
    ∀ id ∈ ids, id ∈ entities := by
  intro id hid
  obtain hin | ⟨o, ho, -⟩ := (hids id).mp hid
  · rw [hdead] at hin
    cases hin
  · exact ExtTreeMap.mem_iff_isSome_getElem?.mpr (Option.isSome_of_mem ho)

/-! ## Bullets, enemies and bosses -/

section Listings

variable {A B : ExtTreeMap Int GameObject}

theorem count_map_fst_collidingPairs (ho : A[i]? = some o) :
    ((collidingPairs A.toList B.toList).map Prod.fst).count i = hits o B := by
  rw [← countP_fst_collidingPairs ho, List.count_eq_countP, List.countP_map]
  rfl

theorem count_map_snd_collidingPairs (ho : B[i]? = some o) :
    ((collidingPairs A.toList B.toList).map Prod.snd).count i = hitBy o A := by
  rw [← countP_snd_collidingPairs ho, List.count_eq_countP, List.countP_map]
  rfl

theorem count_map_outOfBounds (ho : A[i]? = some o) :
    ((A.toList.filter fun e => outOfBounds e.2).map (·.1)).count i = (outOfBounds o).toNat := by
  have hmem : (i, o) ∈ A.toList := ExtTreeMap.mem_toList_iff_getElem?_eq_some.mpr ho
  rw [← countP_fst_eq pairwise_fst_ne hmem, List.count_eq_countP, List.countP_map, List.countP_filter]
  rfl

end Listings

theorem count_deadBullets (hdead : g.deadBullets = []) (ho : g.bullets[i]? = some o) :
    g.detectAll.detectOutOfBounds.deadBullets.count i = g.bulletListings o := by
  rw [deadBullets_detected, hdead, List.nil_append, List.count_append, List.count_append,
    count_map_fst_collidingPairs ho, count_map_fst_collidingPairs ho, count_map_outOfBounds ho,
    bulletListings]

theorem count_listedTargets {dead : List Int} {targets : ExtTreeMap Int GameObject}
    (hdead : dead = []) (ho : targets[i]? = some o) :
    (dead ++ (collidingPairs g.bullets.toList targets.toList).map Prod.snd ++
      (collidingPairs g.playerObjects targets.toList).map Prod.snd ++
      (targets.toList.filter fun e => outOfBounds e.2).map (·.1)).count i = g.targetListings o := by
  rw [hdead, List.nil_append, List.count_append, List.count_append,
    count_map_snd_collidingPairs ho, playerObjects, count_map_snd_collidingPairs ho,
    count_map_outOfBounds ho, targetListings]

/-! ## Players -/

/-- How many of the changes leave no hit points. -/
def blows (hp : ℚ) : List ℚ → Nat
  | [] => 0
  | d :: ds => (if hp + d ≤ 0 then 1 else 0) + blows (hp + d) ds

theorem blows_append {hp : ℚ} {ds ds' : List ℚ} :
    blows hp (ds ++ ds') = blows hp ds + blows (hp + ds.sum) ds' := by
  induction ds generalizing hp with
  | nil => simp [blows]
  | cons d ds ih =>
      rw [List.cons_append, blows, blows, ih, List.sum_cons, Nat.add_assoc, add_assoc hp]

/-- Without hit points each further change counts. -/
theorem blows_of_nonpos {hp : ℚ} {ds : List ℚ} (hds : ∀ d ∈ ds, d < 0) (hhp : hp ≤ 0) :
    blows hp ds = ds.length := by
  induction ds generalizing hp with
  | nil => rfl
  | cons d ds ih =>
      obtain ⟨hd, hrest⟩ := List.forall_mem_cons.mp hds
      have hnext : hp + d ≤ 0 := by linarith
      rw [blows, if_pos hnext, ih hrest hnext, List.length_cons, Nat.add_comm]

theorem sum_nonpos {ds : List ℚ} (hds : ∀ d ∈ ds, d < 0) : ds.sum ≤ 0 := by
  have h := List.sum_le_card_nsmul ds 0 fun d hd => (hds d hd).le
  rwa [nsmul_zero] at h

/-- Hit points run out at one change at most if some are left before the last. -/
theorem blows_le_one_iff {hp : ℚ} {ds : List ℚ} (hds : ∀ d ∈ ds, d < 0) :
    blows hp ds ≤ 1 ↔ ds.length ≤ 1 ∨ 0 < hp + ds.dropLast.sum := by
  induction ds generalizing hp with
  | nil => simp [blows]
  | cons d ds ih =>
      obtain ⟨hd, hrest⟩ := List.forall_mem_cons.mp hds
      cases ds with
      | nil =>
          simp only [blows, List.length_singleton, Std.le_refl, true_or, iff_true]
          split <;> decide
      | cons d' ds =>
          have hlast : ¬ (d :: d' :: ds).length ≤ 1 := by simp
          rw [blows, List.dropLast_cons_cons, List.sum_cons, ← add_assoc, or_iff_right hlast]
          by_cases hnext : hp + d ≤ 0
          · have hsum : (d' :: ds).dropLast.sum ≤ 0 :=
              sum_nonpos fun e he => hrest e (List.mem_of_mem_dropLast he)
            rw [if_pos hnext, blows_of_nonpos hrest hnext, List.length_cons]
            constructor
            · intro h
              omega
            · intro h
              linarith
          · rw [if_neg hnext, Nat.zero_add, ih hrest]
            constructor
            · rintro (hone | hleft)
              · have hnil : ds = [] := by
                  rw [← List.length_eq_zero_iff]
                  simpa using hone
                subst hnil
                simpa using hnext
              · exact hleft
            · exact .inr

theorem count_handlePlayerDeath_self {d : ℚ} (hp : g.players[i]? = some p) :
    (g.handlePlayerDeath i d true).deadPlayers.count i =
      g.deadPlayers.count i + if p.hp + d ≤ 0 then 1 else 0 := by
  rw [deadPlayers_handlePlayerDeath, List.count_append, hp, Option.any_some]
  simp only [decide_eq_true_eq]
  split
  · rw [List.count_singleton_self]
  · rw [List.count_nil]

theorem count_handlePlayerDeath_ne {a : Int} {d : ℚ} (h : a ≠ i) :
    (g.handlePlayerDeath a d true).deadPlayers.count i = g.deadPlayers.count i := by
  rw [deadPlayers_handlePlayerDeath, List.count_append]
  split
  · rw [List.count_singleton, if_neg (by simpa using h), Nat.add_zero]
  · rfl

theorem mem_handlePlayerDeath {a : Int} {d : ℚ}
    (h : i ∈ (g.handlePlayerDeath a d true).deadPlayers) : i ∈ g.deadPlayers ∨ i = a := by
  by_cases ha : a = i
  · exact .inr ha.symm
  · exact .inl ((handlePlayerDeath_ne ha).2.mp h)

section Hits

variable {d : ℚ} {handleB : Game → Int → Game} {pairs : List (Int × Int)}

/-- A player is listed once for each hit that leaves it no hit points. -/
theorem count_foldl_handlePlayerDeath (amount : ℚ)
    (hplayers : ∀ g idB, (handleB g idB).players = g.players.map fun _ p => p.updateScore amount)
    (hdead : ∀ g idB, (handleB g idB).deadPlayers = g.deadPlayers)
    (hp : g.players[i]? = some p) :
    (pairs.foldl (fun g ab => handleB (g.handlePlayerDeath ab.1 d true) ab.2) g).deadPlayers.count i =
      g.deadPlayers.count i + blows p.hp (List.replicate (pairs.countP fun ab => ab.1 = i) d) := by
  induction pairs generalizing g p with
  | nil => rfl
  | cons ab rest ih =>
      rw [List.foldl_cons]
      by_cases hab : ab.1 = i
      · have hstep : (handleB (g.handlePlayerDeath ab.1 d true) ab.2).players[i]? =
            some ((p.updateHp d).updateScore amount) := by
          rw [hplayers, ExtTreeMap.getElem?_map, hab, (handlePlayerDeath_self hp).1]
          rfl
        rw [ih hstep, hdead, List.countP_cons_of_pos (by simpa using hab), List.replicate_succ, hab,
          count_handlePlayerDeath_self hp, Nat.add_assoc]
        rfl
      · have hstep : (handleB (g.handlePlayerDeath ab.1 d true) ab.2).players[i]? =
            some (p.updateScore amount) := by
          rw [hplayers, ExtTreeMap.getElem?_map, (handlePlayerDeath_ne hab).1, hp]
          rfl
        rw [ih hstep, hdead, List.countP_cons_of_neg (by simpa using hab),
          count_handlePlayerDeath_ne hab]
        rfl

theorem mem_foldl_handlePlayerDeath
    (hdead : ∀ g idB, (handleB g idB).deadPlayers = g.deadPlayers)
    (h : i ∈ (pairs.foldl (fun g ab =>
      handleB (g.handlePlayerDeath ab.1 d true) ab.2) g).deadPlayers) :
    i ∈ g.deadPlayers ∨ ∃ ab ∈ pairs, ab.1 = i := by
  induction pairs generalizing g with
  | nil => exact .inl h
  | cons ab rest ih =>
      rcases ih h with hi | ⟨ab', hab', rfl⟩
      · rw [hdead] at hi
        rcases mem_handlePlayerDeath hi with hi | rfl
        · exact .inl hi
        · exact .inr ⟨ab, List.mem_cons_self, rfl⟩
      · exact .inr ⟨ab', List.mem_cons_of_mem _ hab', rfl⟩

end Hits

theorem count_playerEnemyCollisions {d : ℚ} (hp : g.players[i]? = some p) :
    (g.playerEnemyCollisions d true).deadPlayers.count i = g.deadPlayers.count i +
      blows p.hp (List.replicate (hits p.toGameObject g.enemies) d) := by
  rw [playerEnemyCollisions, detectCollisions_eq, ← countP_collidingPairs hp]
  exact count_foldl_handlePlayerDeath 5 (fun _ _ => rfl) (fun _ _ => rfl) hp

theorem count_playerBossCollisions {d : ℚ} (hp : g.players[i]? = some p) :
    (g.playerBossCollisions d true).deadPlayers.count i = g.deadPlayers.count i +
      blows p.hp (List.replicate (hits p.toGameObject g.bosses) d) := by
  rw [playerBossCollisions, detectCollisions_eq, ← countP_collidingPairs hp]
  exact count_foldl_handlePlayerDeath 20 (fun _ _ => rfl) (fun _ _ => rfl) hp

/-- A player in the two passes over the players. -/
theorem count_deadPlayers (hdead : g.deadPlayers = []) (hp : g.players[i]? = some p) :
    g.detectAll.deadPlayers.count i = blows p.hp (g.damages p) := by
  obtain ⟨p₁, hp₁, hobject₁, hhp₁⟩ :=
    exists_same_player bulletPasses_detected bulletPasses_unharmed hp
  obtain ⟨⟨p₂, hp₂, hhp₂, hobject₂⟩, -⟩ :=
    playerEnemyCollisions_player (d := -10) (by norm_num) hp₁ rfl
  rw [detectAll, count_playerBossCollisions hp₂, count_playerEnemyCollisions hp₁,
    bulletPasses_unharmed.deadPlayers, hdead, List.count_nil, Nat.zero_add,
    threePasses_detected.bosses, hobject₂, hobject₁, hhp₂, hhp₁, hobject₁,
    bulletPasses_detected.enemies, damages, blows_append, List.sum_replicate, nsmul_eq_mul]

theorem mem_players_of_collidingPairs {entities : ExtTreeMap Int GameObject}
    (h : ∃ ab ∈ collidingPairs g.playerObjects entities.toList, ab.1 = i) : i ∈ g.players := by
  obtain ⟨ab, hab, rfl⟩ := h
  obtain ⟨o, ho, -⟩ := mem_map_fst_collidingPairs.mp (List.mem_map_of_mem hab)
  rw [← ExtTreeMap.mem_map (f := fun _ p => p.toGameObject)]
  exact ExtTreeMap.mem_iff_isSome_getElem?.mpr (Option.isSome_of_mem ho)

theorem mem_playerEnemyCollisions {d : ℚ} (h : i ∈ (g.playerEnemyCollisions d true).deadPlayers) :
    i ∈ g.deadPlayers ∨ i ∈ g.players := by
  have hdead : ∀ g idB, (handleEnemyDeath g idB).deadPlayers = g.deadPlayers := fun _ _ => rfl
  rw [playerEnemyCollisions, detectCollisions_eq] at h
  exact (mem_foldl_handlePlayerDeath hdead h).imp_right mem_players_of_collidingPairs

theorem mem_playerBossCollisions {d : ℚ} (h : i ∈ (g.playerBossCollisions d true).deadPlayers) :
    i ∈ g.deadPlayers ∨ i ∈ g.players := by
  have hdead : ∀ g idB, (handleBossDeath g idB).deadPlayers = g.deadPlayers := fun _ _ => rfl
  rw [playerBossCollisions, detectCollisions_eq] at h
  exact (mem_foldl_handlePlayerDeath hdead h).imp_right mem_players_of_collidingPairs

/-- Only players that there are are listed. -/
theorem mem_players_of_dead (hdead : g.deadPlayers = []) (h : i ∈ g.detectAll.deadPlayers) :
    i ∈ g.players := by
  rcases mem_playerBossCollisions h with h | h
  · rcases mem_playerEnemyCollisions h with h | h
    · rw [bulletPasses_unharmed.deadPlayers, hdead] at h
      cases h
    · exact bulletPasses_detected.mem_players.mp h
  · exact threePasses_detected.mem_players.mp h

theorem damages_neg : ∀ d ∈ g.damages p, d < 0 := by
  intro d hd
  rcases List.mem_append.mp hd with hd | hd <;> rw [List.eq_of_mem_replicate hd] <;> norm_num

/-! ## Draining all lists -/

theorem deadBullets_eq_nil_iff (hdead : g.deadBullets = []) : g.checkCollisions.deadBullets = [] ↔
    ∀ (i : Int) (o : Bullet), g.bullets[i]? = some o → g.bulletListings o ≤ 1 := by
  rw [checkCollisions_eq, removeAll_deadBullets, detectOutOfBounds_bullets, detectAll_detected.bullets]
  exact left_eq_nil_iff_count (fun _ => Iff.rfl) (mem_of_listed hdead fun _ => mem_deadBullets)
    fun _ _ ho => count_deadBullets hdead ho

theorem deadEnemies_eq_nil_iff (hdead : g.deadEnemies = []) : g.checkCollisions.deadEnemies = [] ↔
    ∀ (i : Int) (o : Enemy), g.enemies[i]? = some o → g.targetListings o ≤ 1 := by
  rw [checkCollisions_eq, removeAll_deadEnemies, detectOutOfBounds_enemies, detectAll_detected.enemies]
  refine left_eq_nil_iff_count (fun _ => Iff.rfl) (mem_of_listed hdead fun _ => mem_deadEnemies)
    fun _ _ ho => ?_
  rw [deadEnemies_detected]
  exact count_listedTargets hdead ho

theorem deadBosses_eq_nil_iff (hdead : g.deadBosses = []) : g.checkCollisions.deadBosses = [] ↔
    ∀ (i : Int) (o : Boss), g.bosses[i]? = some o → g.targetListings o ≤ 1 := by
  rw [checkCollisions_eq, removeAll_deadBosses, detectOutOfBounds_bosses, detectAll_detected.bosses]
  refine left_eq_nil_iff_count (fun _ => Iff.rfl) (mem_of_listed hdead fun _ => mem_deadBosses)
    fun _ _ ho => ?_
  rw [deadBosses_detected]
  exact count_listedTargets hdead ho

theorem deadPlayers_eq_nil_iff (hdead : g.deadPlayers = []) : g.checkCollisions.deadPlayers = [] ↔
    ∀ (i : Int) (p : Player), g.players[i]? = some p →
      (g.damages p).length ≤ 1 ∨ 0 < p.hp + (g.damages p).dropLast.sum := by
  rw [checkCollisions_eq, removeAll_deadPlayers, detectOutOfBounds_players,
    detectOutOfBounds_deadPlayers]
  simp only [← blows_le_one_iff damages_neg]
  exact left_eq_nil_iff_count (fun _ => detectAll_detected.mem_players)
    (fun _ => mem_players_of_dead hdead) fun _ _ hp => count_deadPlayers hdead hp

/-- Lists that are empty before a call are empty after it if they name no object
twice. -/
theorem drained_checkCollisions_iff (hg : Drained g) : Drained g.checkCollisions ↔ ListedOnce g := by
  have hbullets := deadBullets_eq_nil_iff hg.bullets
  have henemies := deadEnemies_eq_nil_iff hg.enemies
  have hbosses := deadBosses_eq_nil_iff hg.bosses
  have hplayers := deadPlayers_eq_nil_iff hg.players
  constructor
  · intro h
    exact ⟨hbullets.mp h.bullets, henemies.mp h.enemies, hbosses.mp h.bosses, hplayers.mp h.players⟩
  · intro h
    exact ⟨hplayers.mpr h.players, henemies.mpr h.enemies, hbullets.mpr h.bullets,
      hbosses.mpr h.bosses⟩

/-! ## Other calls -/

/-- The dead lists are as before. -/
structure SameDead (g g' : Game) : Prop where
  players : g'.deadPlayers = g.deadPlayers
  enemies : g'.deadEnemies = g.deadEnemies
  bullets : g'.deadBullets = g.deadBullets
  bosses : g'.deadBosses = g.deadBosses

theorem sameDead_rule : StillRule SameDead where
  refl := fun _ => ⟨rfl, rfl, rfl, rfl⟩
  trans := fun h h' => ⟨h'.players.trans h.players, h'.enemies.trans h.enemies,
    h'.bullets.trans h.bullets, h'.bosses.trans h.bosses⟩
  record := by
    rintro g g' heq
    rw [heq]
    exact ⟨rfl, rfl, rfl, rfl⟩
  report := fun _ _ _ => ⟨rfl, rfl, rfl, rfl⟩
  handlePlayerMove := by
    intro g playerId actionId g' h
    obtain ⟨player, positions, messages, -, -, rfl⟩ := handlePlayerMove_new h
    exact ⟨rfl, rfl, rfl, rfl⟩
  spawnBullet := by
    intro g playerId g' h
    obtain rfl | ⟨player, bullet, -, -, rfl⟩ := spawnBullet_new h <;> exact ⟨rfl, rfl, rfl, rfl⟩
  spawnNextEnemy := by
    intro g draw g' h
    obtain ⟨enemy, -, rfl⟩ := spawnEnemy_new h
    exact ⟨rfl, rfl, rfl, rfl⟩
  spawnNextBoss := by
    intro g draw g' h
    obtain ⟨boss, -, rfl⟩ := spawnBoss_new h
    exact ⟨rfl, rfl, rfl, rfl⟩

theorem SameDead.drained (h : SameDead g g') (hg : Drained g) : Drained g' :=
  ⟨h.players.trans hg.players, h.enemies.trans hg.enemies, h.bullets.trans hg.bullets,
    h.bosses.trans hg.bosses⟩

/-- Only `checkCollisions` lists objects. -/
theorem Drained.perform {c : Call} (hg : Drained g) (hc : c ≠ .checkCollisions)
    (h : g.perform c = .ok g') : Drained g' := by
  have hsame : ∀ {m : Game}, SameDead g m → Drained m := fun h => h.drained hg
  cases c with
  | handlePlayerMove playerId actionId => exact hsame (sameDead_rule.handlePlayerMove h)
  | spawnPlayer playerId x y =>
      obtain ⟨players, hp, score, -, rfl⟩ := spawnPlayer_ok h
      exact hsame ⟨rfl, rfl, rfl, rfl⟩
  | spawnEnemy enemyId x y =>
      obtain ⟨enemy, payload, rfl⟩ := spawnEnemy_ok (x := x) h
      exact hsame ⟨rfl, rfl, rfl, rfl⟩
  | spawnBoss bossId x y =>
      obtain ⟨boss, payload, rfl⟩ := spawnBoss_ok (x := x) h
      exact hsame ⟨rfl, rfl, rfl, rfl⟩
  | killPlayers entityId | killBullets entityId | killEnemies entityId | killBosses entityId
  | killEntity entityId =>
      rw [kill_frame h trivial]
      exact hsame ⟨rfl, rfl, rfl, rfl⟩
  | initializePlayers numPlayers =>
      rw [initializePlayers_frame h]
      exact hsame ⟨rfl, rfl, rfl, rfl⟩
  | updateBullets now =>
      cases h
      rw [updateBullets_frame]
      exact hsame ⟨rfl, rfl, rfl, rfl⟩
  | updateEnemies now =>
      cases h
      rw [updateEnemies_frame]
      exact hsame ⟨rfl, rfl, rfl, rfl⟩
  | checkCollisions => exact absurd rfl hc
  | checkPlayersAlive numClients =>
      cases h
      rcases checkPlayersAlive_cases g numClients with heq | heq <;> rw [heq]
      · exact hsame ⟨rfl, rfl, rfl, rfl⟩
      · exact ⟨rfl, rfl, rfl, rfl⟩
  | stop =>
      cases h
      exact ⟨rfl, rfl, rfl, rfl⟩
  | _ => exact hsame (sameDead_rule.perform (by exact trivial) h)

end Game

namespace History

open Game

/-- All four lists are empty after every call of `checkCollisions` exactly when no call
finds an object that it has to list twice. -/
theorem drained_iff (calls : List Call) :
    EachStep step (fun s c => s.Checks c → Drained (s.step c).game) new calls ↔
      EachStep step (fun s c => s.Checks c → ListedOnce s.game) new calls := by
  have hrun : EachStep step (fun _ _ => True) new calls := eachStep_iff.mpr fun _ _ _ _ => trivial
  refine eachStep_iff_eachStep (I := fun s : History => Drained s.game)
    ⟨rfl, rfl, rfl, rfl⟩ hrun ?_ ?_
  · intro s c hs
    refine forall_congr' fun hchecks => ?_
    rw [game_step_of_checks hchecks]
    exact drained_checkCollisions_iff hs
  · intro s c hs _ hdrained
    obtain ⟨h, -⟩ | ⟨game, hthrown, hok, h⟩ | ⟨e, -, -, h⟩ := s.step_cases c
    · rw [h]
      exact hs
    · by_cases hc : c = .checkCollisions
      · exact hdrained ⟨hthrown, hc⟩
      · rw [h]
        exact hs.perform hc hok
    · rw [h]
      exact hs

/-- A bullet that hits all enemies of a wave at once is listed five times. -/
theorem not_drained_wave :
    ¬ EachStep step (fun s c => s.Checks c → Drained (s.step c).game) new
      [.initializePlayers 9, .waveSystem 0 fun _ => .inFront,
        .waveSystem 10000000000 fun _ => .inFront, .spawnBullet 8,
        .checkCollisions] := by
  rintro ⟨-, -, -, -, hlast, -⟩
  exact absurd (hlast ⟨by decide +kernel, rfl⟩).bullets (by decide +kernel)

end History

end BeeRType
